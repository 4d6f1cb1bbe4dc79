import Mathlib.Logic.Function.Basic
import PeerLink.Proofs.Region.Lock

/-! # Contention for the lock

Threads of several processes take the lock and give it up. Between any two of their atomic accesses
to it other threads get on with theirs, and processes start and die.

* `Contention.Phase`, `Contention.Phase.next`: where a thread stands in an acquisition, and its next
  access; `Contention.through_once` and `Contention.through_waiting` say that the accesses add up to
  `Lock.tryLock` and to one round of `Lock.wait`.
* `Contention.World`, `Contention.Act`, `Contention.World.perform`: the lock, the processes and
  threads, and what may happen next.
* `Contention.Guarded`: what holds of every world. A thread that is about to take the lock over has
  found a holder that is dead for good, so it takes nothing from anybody.

Main statement: `Contention.one_guard_at_a_time`.
-/

namespace PeerLink.Contention
set_option autoImplicit false

/-! ## One acquisition -/

/-- How a thread asks for the lock: with one attempt, or with one attempt after another until a
deadline, of which so many have failed. -/
inductive Request where
  | once
  | waiting (failed : Nat)
  deriving DecidableEq

/-- What a thread does next in an acquisition. -/
inductive Phase where
  /-- Takes the lock if it is free. -/
  | reaching (request : Request)
  /-- Asks whether the holder that it saw still lives. -/
  | asking (request : Request) (holder : UInt32)
  /-- Takes the lock over from a holder found dead, if that is still recorded. -/
  | seizing (request : Request) (holder : UInt32)
  /-- Looks at the clock. -/
  | pausing (failed : Nat) (holder : UInt32)
  deriving DecidableEq

/-- What comes of an access. -/
inductive Outcome where
  | goesOn (phase : Phase)
  /-- Another attempt follows, the one after so many. -/
  | again (failed : Nat)
  | acquired (words : Lock)
  | refused
  | expired (holder : UInt32)
  deriving DecidableEq

/-- Whether a failed attempt asks for the life of the holder that it saw. -/
def Request.asks : Request → Bool
  | .once => true
  | .waiting failed => failed % Lock.checkEvery = 0

def Request.missed (holder : UInt32) : Request → Outcome
  | .once => .refused
  | .waiting failed => .goesOn (.pausing failed holder)

/-- The next access of an acquisition; `late` is what the clock says of the deadline. -/
def Phase.next (p : Process) (late : Bool) (l : Lock) : Phase → Outcome
  | .reaching request =>
    match l.swap 0 p.pid with
    | .ok l => .acquired l
    | .error holder =>
      if request.asks then .goesOn (.asking request holder) else request.missed holder
  | .asking request holder =>
    if holder = p.pid ∨ p.alive holder then request.missed holder
    else .goesOn (.seizing request holder)
  | .seizing request holder =>
    match l.swap holder p.pid with
    | .ok l => .acquired { l with reclaims := l.reclaims + 1 }
    | .error _ => request.missed holder
  | .pausing failed holder =>
    if late then .expired holder else .again (failed + 1)

/-- The accesses of one attempt, each with the lock as it then is. -/
def Phase.through (p : Process) (late : Bool) : List Lock → Phase → Outcome
  | [], phase => .goesOn phase
  | l :: rest, phase =>
    match phase.next p late l with
    | .goesOn phase => phase.through p late rest
    | outcome => outcome

variable {p : Process} {l : Lock} {holder : UInt32}

theorem takeOver_eq (p : Process) (holder : UInt32) (l : Lock) :
    l.takeOver p holder =
      if holder = p.pid ∨ p.alive holder then none
      else if l.owner = holder then some ⟨p.pid, l.reclaims + 1⟩ else none := by
  rw [Lock.takeOver]
  by_cases howner : l.owner = holder
  · rw [Lock.swap_of_owner howner, if_pos howner]
  · rw [Lock.swap_of_other howner, if_neg howner]

theorem next_seizing (late : Bool) (request : Request) :
    (Phase.seizing request holder).next p late l =
      if l.owner = holder then .acquired ⟨p.pid, l.reclaims + 1⟩ else request.missed holder := by
  rw [Phase.next]
  by_cases howner : l.owner = holder
  · rw [Lock.swap_of_owner howner, if_pos howner]
  · rw [Lock.swap_of_other howner, if_neg howner]

/-- The accesses of a single attempt add up to it. -/
theorem through_once (p : Process) (late : Bool) (l : Lock) :
    (Phase.reaching .once).through p late [l, l, l] =
      match l.tryLock p with
      | some l => .acquired l
      | none => .refused := by
  by_cases hfree : l.owner = 0
  · simp only [Phase.through, Phase.next, Lock.tryLock, Lock.swap_of_owner hfree]
  · have hreach : (Phase.reaching .once).next p late l = .goesOn (.asking .once l.owner) := by
      rw [Phase.next, Lock.swap_of_other hfree]
      rfl
    rw [Phase.through, hreach, Lock.tryLock, Lock.swap_of_other hfree]
    dsimp only
    rw [takeOver_eq, Phase.through, Phase.next]
    by_cases hheld : l.owner = p.pid ∨ p.alive l.owner
    · rw [if_pos hheld, if_pos hheld]
      rfl
    · rw [if_neg hheld, if_neg hheld, if_pos rfl]
      dsimp only
      rw [Phase.through, next_seizing, if_pos rfl]

/-- The accesses of one round of a waiting acquisition add up to it, also when the lock has changed
in between. -/
theorem through_waiting (p : Process) (deadline : Instant) (failed : Nat) (s : Lock.Sight) :
    (Phase.reaching (.waiting failed)).through p (deadline ≤ s.now)
        [s.first, s.second, s.second, s.second] =
      match Lock.attempt p deadline failed s with
      | .taken l => .acquired l
      | .expired holder => .expired holder
      | .waiting => .again (failed + 1) := by
  have hpause (l : Lock) (rest : List Lock) (holder : UInt32) :
      (Phase.pausing failed holder).through p (deadline ≤ s.now) (l :: rest) =
        match (if deadline ≤ s.now then .expired holder else .waiting : Lock.Verdict) with
        | .taken l => .acquired l
        | .expired holder => .expired holder
        | .waiting => .again (failed + 1) := by
    rw [Phase.through, Phase.next]
    by_cases hlate : deadline ≤ s.now <;> simp [hlate]
  by_cases hfree : s.first.owner = 0
  · simp only [Phase.through, Phase.next, Lock.attempt, Lock.swap_of_owner hfree]
  · rw [Phase.through, Phase.next, Lock.attempt, Lock.swap_of_other hfree]
    dsimp only
    by_cases hasks : failed % Lock.checkEvery = 0
    · rw [if_pos (by simpa [Request.asks] using hasks), if_pos hasks]
      dsimp only
      rw [takeOver_eq, Phase.through, Phase.next]
      by_cases hheld : s.first.owner = p.pid ∨ p.alive s.first.owner
      · rw [if_pos hheld, if_pos hheld]
        exact hpause _ _ _
      · rw [if_neg hheld, if_neg hheld]
        dsimp only
        rw [Phase.through, next_seizing]
        by_cases howner : s.second.owner = s.first.owner
        · rw [if_pos howner, if_pos howner]
        · rw [if_neg howner, if_neg howner]
          exact hpause _ _ _
    · rw [if_neg (by simpa [Request.asks] using hasks), if_neg hasks]
      exact hpause _ _ _

/-! ## Worlds -/

/-- A thread, by the number of its process and its own within that. -/
structure Thread where
  pid : UInt32
  number : Nat
  deriving DecidableEq

/-- Where a thread stands: the acquisition under way, if any, and how many guards it has not given
up. -/
structure Standing where
  phase : Option Phase
  guards : Nat

structure World where
  lock : Lock
  life : UInt32 → Life
  standing : Thread → Standing

inductive Act where
  | start (pid : UInt32)
  | die (pid : UInt32)
  | tryLock (t : Thread)
  | lock (t : Thread)
  /-- A thread makes the next access of its acquisition. -/
  | advance (t : Thread) (late : Bool)
  /-- A thread gives a guard up, aloud or silently: the guard is gone whatever comes of it. -/
  | giveUp (t : Thread)

namespace World

/-- A free lock, no process yet, and no thread that has done anything. -/
def fresh (reclaims : UInt32) : World := ⟨⟨0, reclaims⟩, fun _ => .unborn, fun _ => ⟨none, 0⟩⟩

/-- What a process is, and what it can learn about others. -/
def process (w : World) (pid : UInt32) : Process := ⟨pid, fun q => w.life q == .running⟩

def put (w : World) (t : Thread) (s : Standing) : World :=
  { w with standing := Function.update w.standing t s }

/-- The world after something has come of an access of a thread. -/
def settle (w : World) (t : Thread) : Outcome → World
  | .goesOn phase => w.put t ⟨some phase, (w.standing t).guards⟩
  | .again failed => w.put t ⟨some (.reaching (.waiting failed)), (w.standing t).guards⟩
  | .acquired lock => { w.put t ⟨none, (w.standing t).guards + 1⟩ with lock }
  | .refused | .expired _ => w.put t ⟨none, (w.standing t).guards⟩

def perform (w : World) : Act → World
  | .start pid => { w with life := Function.update w.life pid .running }
  | .die pid => { w with life := Function.update w.life pid .dead }
  | .tryLock t => w.settle t (.goesOn (.reaching .once))
  | .lock t => w.settle t (.again 0)
  | .advance t late =>
    match (w.standing t).phase with
    | none => w
    | some phase => w.settle t (phase.next (w.process t.pid) late w.lock)
  | .giveUp t =>
    { w.put t ⟨none, (w.standing t).guards - 1⟩ with lock := w.lock.drop t.pid }

/-- A thread of a process that lives has a guard. -/
def Holds (w : World) (t : Thread) : Prop := w.life t.pid = .running ∧ 0 < (w.standing t).guards

/-- A number is given to one process only, only threads of running processes act, and each makes
one call after the other. -/
def Allows (w : World) : Act → Prop
  | .start pid => w.life pid = .unborn ∧ pid ≠ 0 ∧ pid ≤ Process.maxPid
  | .die pid => w.life pid = .running
  | .tryLock t | .lock t => w.life t.pid = .running ∧ (w.standing t).phase = none
  | .advance t _ => w.life t.pid = .running
  | .giveUp t => w.Holds t ∧ (w.standing t).phase = none

def after (w : World) (acts : List Act) : World := acts.foldl perform w

/-- Every act of a list is allowed when its turn comes. -/
def Legal (w : World) : List Act → Prop
  | [] => True
  | act :: acts => w.Allows act ∧ (w.perform act).Legal acts

end World

/-! ## What holds of every world -/

/-- A thread asks only for the life of somebody who was there, and takes the lock over only from
somebody who is dead. -/
def Phase.Sound (life : UInt32 → Life) : Phase → Prop
  | .asking _ holder => life holder ≠ .unborn
  | .seizing _ holder => life holder = .dead
  | .reaching _ | .pausing _ _ => True

/-- What a thread has found out in an access is true, and it acquires the lock only where that names
no running process. -/
def Outcome.Sound (w : World) (pid : UInt32) : Outcome → Prop
  | .goesOn phase => phase.Sound w.life
  | .acquired lock => lock.owner = pid ∧ w.life w.lock.owner ≠ .running
  | .again _ | .refused | .expired _ => True

structure Guarded (w : World) : Prop where
  named : ∀ pid, w.life pid ≠ .unborn → pid ≠ 0 ∧ pid ≤ Process.maxPid
  recorded : w.lock.owner ≠ 0 → w.life w.lock.owner ≠ .unborn
  owner : ∀ t, w.Holds t → w.lock.owner = t.pid
  single : ∀ t, w.Holds t → (w.standing t).guards = 1
  unique : ∀ t u, w.Holds t → w.Holds u → t = u
  sound : ∀ t phase, w.life t.pid = .running → (w.standing t).phase = some phase →
    phase.Sound w.life
  unused : ∀ t, w.life t.pid = .unborn → w.standing t = ⟨none, 0⟩

variable {w : World} {t u : Thread} {pid : UInt32}

theorem guarded_fresh (reclaims : UInt32) : Guarded (.fresh reclaims) where
  named _ hborn := absurd rfl hborn
  recorded howner := absurd rfl howner
  owner _ h := nomatch h.1
  single _ h := nomatch h.1
  unique _ _ h := nomatch h.1
  sound _ _ h := nomatch h
  unused _ _ := rfl

theorem standing_put_self (w : World) (t : Thread) (s : Standing) : (w.put t s).standing t = s :=
  Function.update_self _ _ _

theorem standing_put_of_ne (s : Standing) (h : u ≠ t) :
    (w.put t s).standing u = w.standing u :=
  Function.update_of_ne h _ _

theorem put_put (w : World) (t : Thread) (s s' : Standing) :
    (w.put t s).put t s' = w.put t s' := by
  simp only [World.put, Function.update_idem]

namespace Guarded

theorem alive_iff (h : Guarded w) (me pid : UInt32) :
    (w.process me).alive pid = true ↔ w.life pid = .running :=
  Process.alive_among_iff (h.named pid) me

theorem life_zero (h : Guarded w) : w.life 0 = .unborn := by
  by_contra hborn
  exact (h.named 0 hborn).1 rfl

/-- A lock that names no running process is nobody's. -/
theorem nobody (h : Guarded w) (howner : w.life w.lock.owner ≠ .running) (t : Thread) :
    ¬ w.Holds t := by
  intro ht
  rw [h.owner t ht] at howner
  exact howner ht.1

theorem missed_sound (w : World) (pid : UInt32) (request : Request) (holder : UInt32) :
    (request.missed holder).Sound w pid := by
  cases request <;> trivial

theorem next_sound (h : Guarded w) {phase : Phase} (pid : UInt32) (late : Bool)
    (hsound : phase.Sound w.life) : (phase.next (w.process pid) late w.lock).Sound w pid := by
  cases phase with
  | reaching request =>
    rw [Phase.next]
    by_cases hfree : w.lock.owner = 0
    · rw [Lock.swap_of_owner hfree]
      refine ⟨rfl, ?_⟩
      rw [hfree, h.life_zero]
      nofun
    · rw [Lock.swap_of_other hfree]
      dsimp only
      split
      · exact h.recorded hfree
      · exact missed_sound ..
  | asking request holder =>
    rw [Phase.next]
    split
    · exact missed_sound ..
    · next hother =>
      have hborn : w.life holder ≠ .unborn := hsound
      have hstopped : w.life holder ≠ .running := fun hrunning =>
        hother (.inr ((h.alive_iff _ _).mpr hrunning))
      show w.life holder = .dead
      cases hlife : w.life holder with
      | unborn => exact absurd hlife hborn
      | running => exact absurd hlife hstopped
      | dead => rfl
  | seizing request holder =>
    -- Whatever happened since the question: who was dead then is dead now.
    have hdead : w.life holder = .dead := hsound
    rw [next_seizing]
    split
    · next howner =>
      refine ⟨rfl, ?_⟩
      rw [howner, hdead]
      nofun
    · exact missed_sound ..
  | pausing failed holder =>
    rw [Phase.next]
    split <;> trivial

/-! ## One act -/

/-- A number enters a life: a process starts if it had none yet, else its process dies. -/
theorem enter {life : Life} (h : Guarded w) (hlife : life ≠ .unborn) (hzero : pid ≠ 0)
    (hmax : pid ≤ Process.maxPid) (hstarts : life = .running → w.life pid = .unborn)
    (hends : w.life pid = .dead → life = .dead) :
    Guarded { w with life := Function.update w.life pid life } := by
  have hborn (q : UInt32) (hq : w.life q ≠ .unborn) :
      Function.update w.life pid life q ≠ .unborn := by
    by_cases hsame : q = pid
    · subst hsame
      rwa [Function.update_self]
    · rwa [Function.update_of_ne hsame]
  have hdead (q : UInt32) (hq : w.life q = .dead) : Function.update w.life pid life q = .dead := by
    by_cases hsame : q = pid
    · subst hsame
      rw [Function.update_self, hends hq]
    · rwa [Function.update_of_ne hsame]
  -- A thread of a process that has just started has done nothing yet.
  have hran (t : Thread) (ht : Function.update w.life pid life t.pid = .running) :
      w.life t.pid = .running ∨ w.standing t = ⟨none, 0⟩ := by
    by_cases hsame : t.pid = pid
    · rw [hsame, Function.update_self] at ht
      exact .inr (h.unused t (hsame ▸ hstarts ht))
    · rw [Function.update_of_ne hsame] at ht
      exact .inl ht
  have hheld (t : Thread)
      (ht : ({ w with life := Function.update w.life pid life } : World).Holds t) :
      w.Holds t := by
    rcases hran t ht.1 with hrunning | hidle
    · exact ⟨hrunning, ht.2⟩
    · have hguards := ht.2
      simp only [hidle, Nat.lt_irrefl] at hguards
  refine ⟨fun q hq => ?_, fun howner => hborn _ (h.recorded howner),
    fun t ht => h.owner t (hheld t ht), fun t ht => h.single t (hheld t ht),
    fun t u ht hu => h.unique t u (hheld t ht) (hheld u hu), fun t phase ht hphase => ?_,
    fun t ht => h.unused t ?_⟩
  · by_cases hsame : q = pid
    · exact hsame ▸ ⟨hzero, hmax⟩
    · simp only [Function.update_of_ne hsame] at hq
      exact h.named q hq
  · rcases hran t ht with hrunning | hidle
    · have hsound := h.sound t phase hrunning hphase
      cases phase with
      | asking _ holder => exact hborn holder hsound
      | seizing _ holder => exact hdead holder hsound
      | reaching _ => trivial
      | pausing _ _ => trivial
    · have hphase' : (w.standing t).phase = some phase := hphase
      rw [hidle] at hphase'
      cases hphase'
  · by_contra ht'
    exact hborn t.pid ht' ht

/-- A thread gets on with an acquisition, or ends it without the lock. -/
theorem move {phase : Option Phase} (h : Guarded w) (hrunning : w.life t.pid = .running)
    (hsound : ∀ phase', phase = some phase' → phase'.Sound w.life) :
    Guarded (w.put t ⟨phase, (w.standing t).guards⟩) := by
  have hguards (u : Thread) : ((w.put t ⟨phase, (w.standing t).guards⟩).standing u).guards =
      (w.standing u).guards := by
    by_cases hsame : u = t
    · rw [hsame, standing_put_self]
    · rw [standing_put_of_ne _ hsame]
  have hheld (u : Thread) (hu : (w.put t ⟨phase, (w.standing t).guards⟩).Holds u) : w.Holds u :=
    ⟨hu.1, hguards u ▸ hu.2⟩
  refine ⟨h.named, h.recorded, fun u hu => h.owner u (hheld u hu),
    fun u hu => (hguards u).trans (h.single u (hheld u hu)),
    fun u v hu hv => h.unique u v (hheld u hu) (hheld v hv), fun u phase' hu hphase => ?_,
    fun u hu => ?_⟩
  · by_cases hsame : u = t
    · rw [hsame, standing_put_self] at hphase
      exact hsound phase' hphase
    · rw [standing_put_of_ne _ hsame] at hphase
      exact h.sound u phase' hu hphase
  · have hne : u ≠ t := by
      rintro rfl
      exact absurd (hrunning.symm.trans hu) nofun
    rw [standing_put_of_ne _ hne]
    exact h.unused u hu

/-- A thread acquires a lock that named no running process. -/
theorem acquire {lock : Lock} (h : Guarded w) (hrunning : w.life t.pid = .running)
    (howner : lock.owner = t.pid) (hfree : w.life w.lock.owner ≠ .running) :
    Guarded { w.put t ⟨none, (w.standing t).guards + 1⟩ with lock } := by
  -- Nobody has a guard, so whoever gets one now is the only one.
  have hnobody := h.nobody hfree
  have hguards : (w.standing t).guards = 0 := by
    by_contra hne
    exact hnobody t ⟨hrunning, Nat.pos_of_ne_zero hne⟩
  have hheld (u : Thread)
      (hu : ({ w.put t ⟨none, (w.standing t).guards + 1⟩ with lock } : World).Holds u) : u = t := by
    by_contra hne
    have hguard := hu.2
    simp only [standing_put_of_ne _ hne] at hguard
    exact hnobody u ⟨hu.1, hguard⟩
  refine ⟨h.named, fun _ => ?_, fun u hu => ?_, fun u hu => ?_, fun u v hu hv => ?_,
    fun u phase hu hphase => ?_, fun u hu => ?_⟩
  · simp only [howner]
    intro hunborn
    exact absurd (hrunning.symm.trans hunborn) nofun
  · rw [hheld u hu]
    exact howner
  · rw [hheld u hu]
    simp only [standing_put_self, hguards]
  · rw [hheld u hu, hheld v hv]
  · by_cases hsame : u = t
    · simp only [hsame, standing_put_self] at hphase
      cases hphase
    · simp only [standing_put_of_ne _ hsame] at hphase
      exact h.sound u phase hu hphase
  · have hne : u ≠ t := by
      rintro rfl
      exact absurd (hrunning.symm.trans hu) nofun
    simp only [standing_put_of_ne _ hne]
    exact h.unused u hu

theorem giveUp (h : Guarded w) (ht : w.Holds t) :
    Guarded (w.perform (.giveUp t)) := by
  have hguards : (w.standing t).guards - 1 = 0 := by rw [h.single t ht]
  have hlock : w.lock.drop t.pid = { w.lock with owner := 0 } :=
    Lock.drop_of_owner (h.owner t ht)
  have hfree (u : Thread) : ¬ (w.perform (.giveUp t)).Holds u := by
    intro hu
    have hguard := hu.2
    by_cases hsame : u = t
    · simp only [World.perform, hsame, standing_put_self, hguards, Nat.lt_irrefl] at hguard
    · simp only [World.perform, standing_put_of_ne _ hsame] at hguard
      exact hsame (h.unique u t ⟨hu.1, hguard⟩ ht)
  refine ⟨h.named, fun howner => ?_, fun u hu => absurd hu (hfree u),
    fun u hu => absurd hu (hfree u), fun u _ hu => absurd hu (hfree u),
    fun u phase hu hphase => ?_, fun u hu => ?_⟩
  · simp only [World.perform, hlock] at howner
    exact absurd rfl howner
  · by_cases hsame : u = t
    · simp only [World.perform, hsame, standing_put_self] at hphase
      cases hphase
    · simp only [World.perform, standing_put_of_ne _ hsame] at hphase
      exact h.sound u phase hu hphase
  · have hne : u ≠ t := by
      rintro rfl
      exact absurd (ht.1.symm.trans hu) nofun
    simp only [World.perform, standing_put_of_ne _ hne]
    exact h.unused u hu

theorem advance (h : Guarded w) (late : Bool) (hrunning : w.life t.pid = .running) :
    Guarded (w.perform (.advance t late)) := by
  rw [World.perform]
  cases hphase : (w.standing t).phase with
  | none => exact h
  | some phase =>
    have hnext := h.next_sound t.pid late (h.sound t phase hrunning hphase)
    dsimp only
    cases houtcome : phase.next (w.process t.pid) late w.lock with
    | goesOn phase' =>
      rw [houtcome] at hnext
      refine h.move hrunning fun phase'' hsame => ?_
      cases hsame
      exact hnext
    | again failed =>
      refine h.move hrunning fun phase' hsame => ?_
      cases hsame
      trivial
    | acquired lock =>
      rw [houtcome] at hnext
      exact h.acquire hrunning hnext.1 hnext.2
    | refused => exact h.move hrunning nofun
    | expired holder => exact h.move hrunning nofun

theorem perform {act : Act} (h : Guarded w) (hallows : w.Allows act) :
    Guarded (w.perform act) := by
  cases act with
  | start pid =>
    obtain ⟨hunborn, hzero, hmax⟩ := hallows
    exact h.enter nofun hzero hmax (fun _ => hunborn)
      fun hdead => absurd (hunborn.symm.trans hdead) nofun
  | die pid =>
    have hrunning : w.life pid = .running := hallows
    obtain ⟨hzero, hmax⟩ := h.named pid (by rw [hrunning]; nofun)
    exact h.enter nofun hzero hmax nofun fun _ => rfl
  | tryLock t =>
    refine h.move hallows.1 fun phase hphase => ?_
    cases hphase
    trivial
  | lock t =>
    refine h.move hallows.1 fun phase hphase => ?_
    cases hphase
    trivial
  | advance t late => exact h.advance late hallows
  | giveUp t => exact h.giveUp hallows.1

theorem after {acts : List Act} (h : Guarded w) (hlegal : w.Legal acts) :
    Guarded (w.after acts) := by
  induction acts generalizing w with
  | nil => exact h
  | cons act acts ih => exact ih (h.perform hlegal.1) hlegal.2

end Guarded

/-! ## Runs -/

def Outcome.Final : Outcome → Prop
  | .goesOn _ | .again _ => False
  | .acquired _ | .refused | .expired _ => True

theorem after_advance_of_idle (late : Bool) (n : Nat) (hidle : (w.standing t).phase = none) :
    w.after (List.replicate n (.advance t late)) = w := by
  induction n with
  | zero => rfl
  | succ n ih =>
    have hstep : w.perform (.advance t late) = w := by rw [World.perform, hidle]
    rw [List.replicate_succ, World.after, List.foldl_cons, hstep]
    exact ih

/-- A thread that goes on with an acquisition while nobody else acts sees the same lock at every
access. -/
theorem after_advance {phase : Phase} {outcome : Outcome} (late : Bool) (n : Nat)
    (hphase : (w.standing t).phase = some phase) (hfinal : outcome.Final)
    (hthrough : phase.through (w.process t.pid) late (List.replicate n w.lock) = outcome) :
    w.after (List.replicate n (.advance t late)) = w.settle t outcome := by
  induction n generalizing w phase with
  | zero =>
    subst hthrough
    exact hfinal.elim
  | succ n ih =>
    have hstep : w.perform (.advance t late) =
        w.settle t (phase.next (w.process t.pid) late w.lock) := by rw [World.perform, hphase]
    rw [List.replicate_succ, Phase.through] at hthrough
    rw [List.replicate_succ, World.after, List.foldl_cons, hstep]
    have hdone (outcome : Outcome) (hidle : ((w.settle t outcome).standing t).phase = none) :
        (w.settle t outcome).after (List.replicate n (.advance t late)) = w.settle t outcome :=
      after_advance_of_idle late n hidle
    cases hnext : phase.next (w.process t.pid) late w.lock with
    | goesOn phase' =>
      rw [hnext] at hthrough
      have hphase' : ((w.settle t (.goesOn phase')).standing t).phase = some phase' := by
        rw [World.settle, standing_put_self]
      have hrest := ih hphase' hthrough
      refine hrest.trans ?_
      cases outcome <;> simp only [World.settle, standing_put_self, put_put]
    | again failed =>
      rw [hnext] at hthrough
      subst hthrough
      exact hfinal.elim
    | acquired lock =>
      rw [hnext] at hthrough
      subst hthrough
      exact hdone _ (by simp only [World.settle, standing_put_self])
    | refused =>
      rw [hnext] at hthrough
      subst hthrough
      exact hdone _ (by simp only [World.settle, standing_put_self])
    | expired holder =>
      rw [hnext] at hthrough
      subst hthrough
      exact hdone _ (by simp only [World.settle, standing_put_self])

/-- A thread tries once, and nobody acts in between; what the clock says does not matter. -/
def tryAlone (t : Thread) (late : Bool) : List Act :=
  .tryLock t :: List.replicate 3 (.advance t late)

theorem life_settle (w : World) (t : Thread) (outcome : Outcome) :
    (w.settle t outcome).life = w.life := by
  cases outcome <;> rfl

theorem life_advance (w : World) (t : Thread) (late : Bool) :
    (w.perform (.advance t late)).life = w.life := by
  rw [World.perform]
  split
  · rfl
  · exact life_settle _ _ _

theorem legal_tryAlone (late : Bool) (hrunning : w.life t.pid = .running)
    (hidle : (w.standing t).phase = none) : w.Legal (tryAlone t late) := by
  have hkept : (w.perform (.tryLock t)).life t.pid = .running := hrunning
  refine ⟨⟨hrunning, hidle⟩, hkept, ?_, ?_, trivial⟩
  · show (World.life _ t.pid) = .running
    rw [life_advance]
    exact hkept
  · show (World.life _ t.pid) = .running
    rw [life_advance, life_advance]
    exact hkept

theorem after_tryAlone (w : World) (t : Thread) (late : Bool) :
    w.after (tryAlone t late) = w.settle t (match w.lock.tryLock (w.process t.pid) with
      | some lock => .acquired lock
      | none => .refused) := by
  have hthrough := through_once (w.process t.pid) late w.lock
  have hbegun : w.after (tryAlone t late) =
      (w.perform (.tryLock t)).after (List.replicate 3 (.advance t late)) := rfl
  have hfinal : (match w.lock.tryLock (w.process t.pid) with
      | some lock => Outcome.acquired lock
      | none => Outcome.refused).Final := by
    cases w.lock.tryLock (w.process t.pid) <;> trivial
  have hrun := after_advance (w := w.perform (.tryLock t)) (t := t) late 3
    (by rw [World.perform, World.settle, standing_put_self]) hfinal hthrough
  rw [hbegun, hrun, World.perform]
  cases w.lock.tryLock (w.process t.pid) <;>
    simp only [World.settle, standing_put_self, put_put]

/-- A lock that names a dead process is abandoned in the eyes of every running one. -/
theorem Guarded.abandoned (h : Guarded w) (hdead : w.life w.lock.owner = .dead)
    (hrunning : w.life pid = .running) : w.lock.Abandoned (w.process pid) := by
  refine ⟨(h.named _ (by rw [hdead]; nofun)).1, fun hsame => ?_, ?_⟩
  · have hpid : w.lock.owner = pid := hsame
    rw [hpid, hrunning] at hdead
    cases hdead
  · rw [Bool.eq_false_iff, ne_eq, h.alive_iff, hdead]
    nofun

/-- Whatever threads do to a lock that was free, one atomic access at a time, and whoever dies in
between: at most one thread of the living has a guard, and it has one only; the lock names its
process, and giving the guard up is never refused. A lock that names a dead process is taken by any
thread that tries once while nobody else acts. -/
theorem one_guard_at_a_time (reclaims : UInt32) {acts : List Act}
    (hlegal : (World.fresh reclaims).Legal acts) :
    let w := (World.fresh reclaims).after acts
    (∀ t u, w.Holds t → w.Holds u → t = u) ∧
    (∀ t, w.Holds t → (w.standing t).guards = 1 ∧ w.lock.owner = t.pid ∧
      w.lock.release t.pid = .ok { w.lock with owner := 0 }) ∧
    (∀ t late, w.life w.lock.owner = .dead → w.life t.pid = .running →
      (w.standing t).phase = none →
        w.Legal (tryAlone t late) ∧ (w.after (tryAlone t late)).Holds t ∧
        w.lock.tryLock (w.process t.pid) = some (w.after (tryAlone t late)).lock ∧
        (w.after (tryAlone t late)).lock = ⟨t.pid, w.lock.reclaims + 1⟩) := by
  intro w
  have h : Guarded w := (guarded_fresh reclaims).after hlegal
  refine ⟨h.unique, fun t ht => ?_, fun t late hdead hrunning hidle => ?_⟩
  · exact ⟨h.single t ht, h.owner t ht, Lock.release_of_owner (h.owner t ht)⟩
  · have habandoned := h.abandoned hdead hrunning
    have htry : w.lock.tryLock (w.process t.pid) = some ⟨t.pid, w.lock.reclaims + 1⟩ := by
      rw [Lock.tryLock, Lock.swap_of_other habandoned.1]
      exact Lock.takeOver_of_abandoned habandoned
    have hafter := after_tryAlone w t late
    rw [htry] at hafter
    rw [hafter, htry]
    refine ⟨legal_tryAlone late hrunning hidle, ⟨hrunning, ?_⟩, rfl, rfl⟩
    simp only [World.settle, standing_put_self]
    exact Nat.succ_pos _

/-- Process 7 takes the lock, two threads of process 9 see it there, and process 7 dies. -/
def abandonedRun : List Act :=
  [.start 7, .start 9, .lock ⟨7, 0⟩, .advance ⟨7, 0⟩ false, .tryLock ⟨9, 0⟩,
    .advance ⟨9, 0⟩ false, .lock ⟨9, 1⟩, .advance ⟨9, 1⟩ false, .die 7]

/-- Both threads find process 7 dead, and the second is the first to take the lock over. -/
def takeOverRun : List Act :=
  abandonedRun ++ [.advance ⟨9, 0⟩ false, .advance ⟨9, 1⟩ false, .advance ⟨9, 1⟩ false,
    .advance ⟨9, 0⟩ false]

/-- The lock goes to the thread that takes it over, and to no other; in its place a third thread
might have tried and got it. -/
theorem one_guard_takeOverRun :
    (World.fresh 0).Legal takeOverRun ∧ (World.fresh 0).Legal abandonedRun ∧
      (let w := (World.fresh 0).after takeOverRun
      w.Holds ⟨9, 1⟩ ∧ (∀ t, w.Holds t → t = ⟨9, 1⟩) ∧ w.lock.release 9 = .ok ⟨0, 1⟩) ∧
      (let w := (World.fresh 0).after abandonedRun
      w.life w.lock.owner = .dead ∧ (w.after (tryAlone ⟨9, 2⟩ true)).Holds ⟨9, 2⟩) := by
  have htaken : (World.fresh 0).Legal takeOverRun :=
    ⟨⟨rfl, by decide, by decide⟩, ⟨rfl, by decide, by decide⟩, ⟨rfl, rfl⟩, rfl, ⟨rfl, rfl⟩, rfl,
      ⟨rfl, rfl⟩, rfl, rfl, rfl, rfl, rfl, rfl, trivial⟩
  have habandoned : (World.fresh 0).Legal abandonedRun :=
    ⟨⟨rfl, by decide, by decide⟩, ⟨rfl, by decide, by decide⟩, ⟨rfl, rfl⟩, rfl, ⟨rfl, rfl⟩, rfl,
      ⟨rfl, rfl⟩, rfl, rfl, trivial⟩
  obtain ⟨hunique, hholder, -⟩ := one_guard_at_a_time 0 htaken
  obtain ⟨-, -, htry⟩ := one_guard_at_a_time 0 habandoned
  have hholds : ((World.fresh 0).after takeOverRun).Holds ⟨9, 1⟩ := ⟨rfl, by decide +kernel⟩
  have hdead : ((World.fresh 0).after abandonedRun).life
      ((World.fresh 0).after abandonedRun).lock.owner = .dead := by decide +kernel
  exact ⟨htaken, habandoned,
    ⟨hholds, fun t ht => hunique t _ ht hholds, (hholder _ hholds).2.2⟩,
    hdead, (htry ⟨9, 2⟩ true hdead rfl rfl).2.1⟩

end PeerLink.Contention
