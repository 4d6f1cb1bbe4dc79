import Mathlib.Logic.Function.Basic
import PeerLink.Proofs.Link.Claims

/-! # One holder a side

Processes come, take sides of one region, beat, give sides up and die, in any order. What was
achieved is kept in a log, and only the log says who holds a side; the slots of the region have to
tell the same.

* `Claims.Scene`, `Claims.Act`, `Claims.Scene.perform`: the region, its processes and what they do.
* `Claims.claimants`, `Claims.Holds`: who took a side, and who has not given it up since.
* `Claims.Traced`: a slot agrees with the log.

Main statement: `Claims.one_holder_a_side`.
-/

namespace PeerLink.Claims
set_option autoImplicit false

/-! ## Scenes -/

/-- What an operation achieved. -/
inductive Record where
  | took (side : Role) (pid : UInt32)
  | gaveUp (side : Role) (pid : UInt32)
  | beat (side : Role)
  deriving DecidableEq

/-- The header of a region, the processes of the host, and a log whose latest record is first. -/
structure Scene where
  header : Header
  life : UInt32 → Life
  log : List Record

/-- What happens next. A process may have several endpoints, so nothing says which of them acts. -/
inductive Act where
  | start (pid : UInt32)
  | die (pid : UInt32)
  | claim (pid : UInt32) (requested : Role) (timeout : Duration)
  | release (pid : UInt32) (side : Role) (timeout : Duration)
  | beat (pid : UInt32) (side : Role)

namespace Scene

/-- A zeroed region, and no process yet. -/
def empty : Scene := ⟨.zero, fun _ => .unborn, []⟩

/-- What a process is, and what it can learn about others. -/
def process (scene : Scene) (pid : UInt32) : Process := ⟨pid, fun q => scene.life q == .running⟩

/-- The scene after an act. Operations hold the region lock from beginning to end. -/
def perform (scene : Scene) : Act → Scene
  | .start pid => { scene with life := Function.update scene.life pid .running }
  | .die pid => { scene with life := Function.update scene.life pid .dead }
  | .claim pid requested timeout =>
    match scene.header.claim (scene.process pid) requested timeout with
    | (.ok side, header) => { scene with header, log := .took side pid :: scene.log }
    | (.error _, header) => { scene with header }
  | .release pid side timeout =>
    match scene.header.release (scene.process pid) side timeout with
    | (.ok _, header) => { scene with header, log := .gaveUp side pid :: scene.log }
    | (.error _, header) => { scene with header }
  | .beat _ side => { scene with header := scene.header.beat side, log := .beat side :: scene.log }

/-- A number is given to one process only, and only running processes act. -/
def Allows (scene : Scene) : Act → Prop
  | .start pid => scene.life pid = .unborn ∧ pid ≠ 0 ∧ pid ≤ Process.maxPid
  | .die pid | .claim pid _ _ => scene.life pid = .running
  | .release pid side _ | .beat pid side => scene.life pid = .running ∧ side ≠ .auto

/-- The scene after a list of acts. -/
def after (scene : Scene) (acts : List Act) : Scene := acts.foldl perform scene

/-- Every act of a list is allowed when its turn comes. -/
def Legal (scene : Scene) : List Act → Prop
  | [] => True
  | act :: acts => scene.Allows act ∧ (scene.perform act).Legal acts

end Scene

/-! ## Logs -/

/-- Who took a side, the latest first. -/
def claimants (side : Role) (log : List Record) : List UInt32 :=
  log.filterMap fun
    | .took taken pid => if taken = side then some pid else none
    | .gaveUp _ _ | .beat _ => none

/-- A process took a side and has not given it up since. -/
def Holds (side : Role) (pid : UInt32) : List Record → Prop
  | [] => False
  | r :: older => r = .took side pid ∨ r ≠ .gaveUp side pid ∧ Holds side pid older

/-- The side that a record is about. -/
def Record.side : Record → Role
  | .took side _ | .gaveUp side _ | .beat side => side

variable {side : Role} {pid : UInt32} {r : Record} {log : List Record} {scene : Scene}

theorem claimants_took (side : Role) (pid : UInt32) (log : List Record) :
    claimants side (.took side pid :: log) = pid :: claimants side log := by
  simp [claimants]

theorem claimants_gaveUp (side : Role) (pid : UInt32) (log : List Record) :
    claimants side (.gaveUp side pid :: log) = claimants side log := rfl

theorem claimants_beat (side : Role) (log : List Record) :
    claimants side (.beat side :: log) = claimants side log := rfl

theorem claimants_of_side_ne (log : List Record) (hr : r.side ≠ side) :
    claimants side (r :: log) = claimants side log := by
  cases r <;> simp_all [claimants, Record.side]

theorem holds_gaveUp {q : UInt32} :
    Holds side q (.gaveUp side pid :: log) ↔ q ≠ pid ∧ Holds side q log := by
  simp [Holds, eq_comm]

theorem holds_beat : Holds side pid (.beat side :: log) ↔ Holds side pid log := by
  simp [Holds]

theorem holds_of_side_ne (hr : r.side ≠ side) : Holds side pid (r :: log) ↔ Holds side pid log := by
  have htook : r ≠ .took side pid := by
    rintro rfl
    exact hr rfl
  have hgaveUp : r ≠ .gaveUp side pid := by
    rintro rfl
    exact hr rfl
  simp [Holds, htook, hgaveUp]

theorem Holds.mem_claimants (h : Holds side pid log) : pid ∈ claimants side log := by
  induction log with
  | nil => exact h.elim
  | cons r older ih =>
    rcases h with rfl | ⟨-, holder⟩
    · rw [claimants_took]
      exact List.mem_cons_self
    · exact (List.Sublist.filterMap _ (List.sublist_cons_self r older)).subset (ih holder)

/-! ## Slots and logs -/

/-- A running process that holds a side. -/
def Scene.Holder (scene : Scene) (side : Role) (pid : UInt32) : Prop :=
  scene.life pid = .running ∧ Holds side pid scene.log

/-- The slot of a side agrees with the log. Only the last claimant of a side can be a running holder
of it; earlier ones have given it up or are dead. -/
structure Traced (scene : Scene) (side : Role) : Prop where
  claimant : (scene.header.slot side).pid = (claimants side scene.log).headD 0
  claimed : (scene.header.slot side).isClaimed = true ↔
    ∃ pid, (claimants side scene.log).head? = some pid ∧ Holds side pid scene.log
  holder : ∀ pid, scene.Holder side pid → (claimants side scene.log).head? = some pid
  born : ∀ pid ∈ claimants side scene.log, scene.life pid ≠ .unborn
  generation : (scene.header.slot side).generation.toNat =
    (claimants side scene.log).length % UInt32.size
  heartbeat : (scene.header.slot side).heartbeat.toNat = scene.log.count (.beat side) % UInt64.size

/-- What holds of every scene. -/
structure Orderly (scene : Scene) : Prop where
  free : scene.header.lock.owner = 0
  named : ∀ pid, scene.life pid ≠ .unborn → pid ≠ 0 ∧ pid ≤ Process.maxPid
  traced : ∀ side, side ≠ .auto → Traced scene side

theorem orderly_empty : Orderly .empty := by
  refine ⟨rfl, fun _ hborn => absurd rfl hborn, fun side hside => ?_⟩
  have hslot : Scene.empty.header.slot side = .zero := by cases side <;> rfl
  have hlog : Scene.empty.log = [] := rfl
  constructor <;> simp [hslot, hlog, Scene.Holder, claimants, Holds, RoleSlot.zero,
    RoleSlot.isClaimed]

theorem Traced.pid_eq (h : Traced scene side)
    (hlast : (claimants side scene.log).head? = some pid) :
    (scene.header.slot side).pid = pid := by
  rw [h.claimant, List.headD_eq_head?_getD, hlast, Option.getD_some]

theorem Orderly.alive_iff (h : Orderly scene) (me pid : UInt32) :
    (scene.process me).alive pid = true ↔ scene.life pid = .running :=
  Process.alive_among_iff (h.named pid) me

theorem Orderly.isLive_iff (h : Orderly scene) (hside : side ≠ .auto) (me : UInt32) :
    (scene.header.slot side).isLive (scene.process me) = true ↔ ∃ pid, scene.Holder side pid := by
  have ht := h.traced side hside
  rw [RoleSlot.isLive, Bool.and_eq_true, h.alive_iff, ht.claimed]
  constructor
  · rintro ⟨⟨pid, hlast, hholds⟩, hrunning⟩
    rw [ht.pid_eq hlast] at hrunning
    exact ⟨pid, hrunning, hholds⟩
  · rintro ⟨pid, hholder⟩
    have hlast := ht.holder pid hholder
    rw [ht.pid_eq hlast]
    exact ⟨⟨pid, hlast, hholder.2⟩, hholder.1⟩

/-! ## One act -/

/-- Processes come and go. Nobody is born twice, so the log names no new process. -/
theorem Traced.of_life {life : UInt32 → Life} (h : Traced scene side)
    (hrunning : ∀ pid ∈ claimants side scene.log, life pid = .running → scene.life pid = .running)
    (hborn : ∀ pid, life pid = .unborn → scene.life pid = .unborn) :
    Traced { scene with life } side where
  claimant := h.claimant
  claimed := h.claimed
  holder pid hholder :=
    h.holder pid ⟨hrunning pid hholder.2.mem_claimants hholder.1, hholder.2⟩
  born pid hpid hunborn := h.born pid hpid (hborn pid hunborn)
  generation := h.generation
  heartbeat := h.heartbeat

/-- What is achieved on the other side does not matter. -/
theorem Traced.of_side_ne {header : Header} (h : Traced scene side)
    (hslot : header.slot side = scene.header.slot side) (hr : r.side ≠ side) :
    Traced { scene with header, log := r :: scene.log } side := by
  have hclaimants := claimants_of_side_ne scene.log hr
  have hholds : ∀ pid, Holds side pid (r :: scene.log) ↔ Holds side pid scene.log :=
    fun pid => holds_of_side_ne hr
  have hbeat : r ≠ .beat side := by
    rintro rfl
    exact hr rfl
  constructor
  · simpa only [hslot, hclaimants] using h.claimant
  · simpa only [hslot, hclaimants, hholds] using h.claimed
  · simpa only [Scene.Holder, hclaimants, hholds] using h.holder
  · simpa only [hclaimants] using h.born
  · simpa only [hslot, hclaimants] using h.generation
  · simpa only [hslot, List.count_cons_of_ne hbeat] using h.heartbeat

/-- A side that nobody running holds is taken. -/
theorem Traced.took {header : Header} (h : Traced scene side) (hrunning : scene.life pid = .running)
    (hfree : ¬ ∃ q, scene.Holder side q)
    (hslot : header.slot side = (scene.header.slot side).occupy pid) :
    Traced { scene with header, log := .took side pid :: scene.log } side := by
  have hclaimants := claimants_took side pid scene.log
  constructor
  · simp only [hslot, hclaimants]
    rfl
  · simp only [hslot, hclaimants]
    exact iff_of_true rfl ⟨pid, rfl, .inl rfl⟩
  · rintro q ⟨hq, htook | ⟨-, hholds⟩⟩
    · obtain rfl : pid = q := by simpa using htook
      simp only [hclaimants, List.head?_cons]
    · exact absurd ⟨q, hq, hholds⟩ hfree
  · intro q hq
    simp only [hclaimants, List.mem_cons] at hq
    rcases hq with rfl | hq
    · simp only [hrunning]
      nofun
    · exact h.born q hq
  · have hnext : (scene.header.slot side).generation.toNat + 1 =
        (claimants side scene.log).length % UInt32.size + 1 := by rw [h.generation]
    simp only [hslot, hclaimants, List.length_cons]
    exact (congrArg (· % UInt32.size) hnext).trans (Nat.mod_add_mod _ _ _)
  · have hne : Record.took side pid ≠ .beat side := nofun
    have hheartbeat : ((scene.header.slot side).occupy pid).heartbeat =
        (scene.header.slot side).heartbeat := rfl
    simpa only [hslot, List.count_cons_of_ne hne, hheartbeat] using h.heartbeat

/-- A side is given up by its last claimant, or left alone. -/
theorem Traced.gaveUp {header : Header} (h : Traced scene side)
    (hslot : header.slot side = (scene.header.slot side).vacateIfOwn pid) :
    Traced { scene with header, log := .gaveUp side pid :: scene.log } side := by
  have hclaimants := claimants_gaveUp side pid scene.log
  constructor
  · simpa only [hslot, hclaimants, RoleSlot.pid_vacateIfOwn] using h.claimant
  · rw [hslot, RoleSlot.isClaimed_vacateIfOwn, h.claimed, hclaimants]
    constructor
    · rintro ⟨hother, q, hlast, hholds⟩
      rw [h.pid_eq hlast] at hother
      exact ⟨q, hlast, holds_gaveUp.mpr ⟨hother, hholds⟩⟩
    · rintro ⟨q, hlast, hholds⟩
      obtain ⟨hother, hholds⟩ := holds_gaveUp.mp hholds
      rw [h.pid_eq hlast]
      exact ⟨hother, q, hlast, hholds⟩
  · rintro q ⟨hq, hholds⟩
    rw [hclaimants]
    exact h.holder q ⟨hq, (holds_gaveUp.mp hholds).2⟩
  · simpa only [hclaimants] using h.born
  · simpa only [hslot, hclaimants, RoleSlot.generation_vacateIfOwn] using h.generation
  · have hne : Record.gaveUp side pid ≠ .beat side := nofun
    simpa only [hslot, List.count_cons_of_ne hne, RoleSlot.heartbeat_vacateIfOwn]
      using h.heartbeat

theorem Traced.beat {header : Header} (h : Traced scene side)
    (hslot : header.slot side = (scene.header.slot side).beat) :
    Traced { scene with header, log := .beat side :: scene.log } side := by
  have hclaimants := claimants_beat side scene.log
  constructor
  · simpa only [hslot, hclaimants, RoleSlot.pid_beat] using h.claimant
  · simpa only [hslot, hclaimants, holds_beat, RoleSlot.isClaimed_beat] using h.claimed
  · simpa only [Scene.Holder, hclaimants, holds_beat] using h.holder
  · simpa only [hclaimants] using h.born
  · simpa only [hslot, hclaimants, RoleSlot.generation_beat] using h.generation
  · have hnext : (scene.header.slot side).heartbeat.toNat + 1 =
        scene.log.count (.beat side) % UInt64.size + 1 := by rw [h.heartbeat]
    simp only [hslot, List.count_cons_self]
    exact (congrArg (· % UInt64.size) hnext).trans (Nat.mod_add_mod _ _ _)

/-- One slot is changed, and what was achieved by that is put on record. -/
theorem Orderly.record {f : RoleSlot → RoleSlot} (h : Orderly scene) (hr : r.side ≠ .auto)
    (ht : Traced { scene with header := scene.header.mapSlot r.side f, log := r :: scene.log }
      r.side) :
    Orderly { scene with header := scene.header.mapSlot r.side f, log := r :: scene.log } where
  free := by
    rw [Header.lock_mapSlot]
    exact h.free
  named := h.named
  traced side hside := by
    by_cases hsame : r.side = side
    · exact hsame ▸ ht
    · have hslot := Header.slot_mapSlot_of_ne f scene.header hr hside (Ne.symm hsame)
      exact (h.traced side hside).of_side_ne hslot hsame

theorem Orderly.claim (h : Orderly scene) (requested : Role) (timeout : Duration)
    (hrunning : scene.life pid = .running) :
    Orderly (scene.perform (.claim pid requested timeout)) := by
  unfold Scene.perform
  obtain ⟨side, hg, hclaim⟩ | ⟨e, -, hclaim⟩ :=
    Header.claim_cases (scene.process pid) requested timeout h.free
  · obtain ⟨hside, hdead⟩ := hg.free
    have hnobody : ¬ ∃ q, scene.Holder side q := by
      rw [← h.isLive_iff hside pid, hdead]
      nofun
    simp only [hclaim]
    exact h.record (r := .took side pid) hside
      ((h.traced side hside).took hrunning hnobody (Header.slot_mapSlot_self _ _ _))
  · simp only [hclaim]
    exact h

theorem Orderly.release (h : Orderly scene) (timeout : Duration) (hside : side ≠ .auto) :
    Orderly (scene.perform (.release pid side timeout)) := by
  unfold Scene.perform
  simp only [Header.release_of_free timeout hside h.free]
  exact h.record (r := .gaveUp side pid) hside
    ((h.traced side hside).gaveUp (Header.slot_mapSlot_self _ _ _))

theorem Orderly.beat (h : Orderly scene) (hside : side ≠ .auto) :
    Orderly (scene.perform (.beat pid side)) :=
  h.record (r := .beat side) hside
    ((h.traced side hside).beat (Header.slot_mapSlot_self _ _ _))

/-- A number enters a life: a process starts if it had none yet, else its process dies. -/
theorem Orderly.enter {life : Life} (h : Orderly scene) (hlife : life ≠ .unborn) (hzero : pid ≠ 0)
    (hmax : pid ≤ Process.maxPid) (hfresh : life = .running → scene.life pid = .unborn) :
    Orderly { scene with life := Function.update scene.life pid life } where
  free := h.free
  named q hq := by
    by_cases hsame : q = pid
    · subst hsame
      exact ⟨hzero, hmax⟩
    · simp only [Function.update_of_ne hsame] at hq
      exact h.named q hq
  traced side hside := by
    have ht := h.traced side hside
    refine ht.of_life (fun q hq hrunning => ?_) (fun q hunborn => ?_)
    · by_cases hsame : q = pid
      · subst hsame
        rw [Function.update_self] at hrunning
        exact absurd (hfresh hrunning) (ht.born q hq)
      · rwa [Function.update_of_ne hsame] at hrunning
    · by_cases hsame : q = pid
      · subst hsame
        rw [Function.update_self] at hunborn
        exact absurd hunborn hlife
      · rwa [Function.update_of_ne hsame] at hunborn

theorem Orderly.perform {act : Act} (h : Orderly scene) (hallows : scene.Allows act) :
    Orderly (scene.perform act) := by
  cases act with
  | start =>
    obtain ⟨hunborn, hzero, hmax⟩ := hallows
    exact h.enter nofun hzero hmax fun _ => hunborn
  | die pid =>
    have hrunning : scene.life pid = .running := hallows
    obtain ⟨hzero, hmax⟩ := h.named pid (by rw [hrunning]; nofun)
    exact h.enter nofun hzero hmax nofun
  | claim => exact h.claim _ _ hallows
  | release => exact h.release _ hallows.2
  | beat => exact h.beat hallows.2

theorem Orderly.after {acts : List Act} (h : Orderly scene) (hlegal : scene.Legal acts) :
    Orderly (scene.after acts) := by
  induction acts generalizing scene with
  | nil => exact h
  | cons act acts ih => exact ih (h.perform hlegal.1) hlegal.2

/-! ## Runs -/

theorem Orderly.holder_unique {other : UInt32} (h : Orderly scene) (hside : side ≠ .auto)
    (hpid : scene.Holder side pid) (hother : scene.Holder side other) : pid = other := by
  have hlast := (h.traced side hside).holder pid hpid
  have hlast' := (h.traced side hside).holder other hother
  exact Option.some.inj (hlast.symm.trans hlast')

/-- Nothing is freed by a process that is not the last claimant. -/
theorem Orderly.release_of_other (h : Orderly scene) (timeout : Duration) (hside : side ≠ .auto)
    (hrunning : scene.life pid = .running)
    (hother : (claimants side scene.log).head? ≠ some pid) :
    (scene.header.release (scene.process pid) side timeout).2 = scene.header := by
  obtain ⟨hzero, -⟩ := h.named pid (by rw [hrunning]; nofun)
  have hslot : (scene.header.slot side).pid ≠ pid := by
    rw [(h.traced side hside).claimant, List.headD_eq_head?_getD]
    cases hlast : (claimants side scene.log).head? with
    | none => exact Ne.symm hzero
    | some q =>
      rintro rfl
      exact hother hlast
  rw [Header.release_of_free timeout hside h.free]
  exact Header.mapSlot_eq_self (if_neg hslot)

/-- Whatever processes do to a zeroed region: a side has at most one running holder, it is live
exactly while it has one, and its slot names the holder and counts claims and beats. A request is
granted exactly if its side is free and then changes only the slot of the side; a refused one
changes nothing. Giving up always succeeds, and changes nothing if the side was last claimed by
another. -/
theorem one_holder_a_side {acts : List Act} (hlegal : Scene.empty.Legal acts) :
    let scene := Scene.empty.after acts
    (∀ side, side ≠ .auto →
      let slot := scene.header.slot side
      (∀ pid other, scene.Holder side pid → scene.Holder side other → pid = other) ∧
      (∀ me, slot.isLive (scene.process me) = true ↔ ∃ pid, scene.Holder side pid) ∧
      (∀ pid, scene.Holder side pid → slot.pid = pid) ∧
      slot.generation.toNat = (claimants side scene.log).length % UInt32.size ∧
      slot.heartbeat.toNat = scene.log.count (.beat side) % UInt64.size) ∧
    (∀ pid, scene.life pid = .running →
      (∀ requested timeout,
        let result := scene.header.claim (scene.process pid) requested timeout
        (∀ side, result.1 = .ok side ↔
          scene.header.Grants (scene.process pid) requested side) ∧
        (∀ side, result.1 = .ok side → side ≠ .auto ∧
          result.2 = scene.header.mapSlot side fun slot =>
            { slot with pid, flag := 1, generation := slot.generation + 1 }) ∧
        (∀ e, result.1 = .error e → result.2 = scene.header)) ∧
      (∀ side timeout, side ≠ .auto →
        let result := scene.header.release (scene.process pid) side timeout
        result.1 = .ok ((scene.header.slot side.peer).isLive (scene.process pid)) ∧
        ((claimants side scene.log).head? ≠ some pid → result.2 = scene.header))) := by
  intro scene
  have h : Orderly scene := orderly_empty.after hlegal
  refine ⟨fun side hside => ?_, fun pid hrunning => ⟨fun requested timeout => ?_, ?_⟩⟩
  · have ht := h.traced side hside
    exact ⟨fun _ _ => h.holder_unique hside, h.isLive_iff hside,
      fun pid hholder => ht.pid_eq (ht.holder pid hholder), ht.generation, ht.heartbeat⟩
  · intro result
    obtain ⟨side, hg, hclaim⟩ | ⟨e, hno, hclaim⟩ :=
      Header.claim_cases (scene.process pid) requested timeout h.free
    · have hresult : result = (.ok side, _) := hclaim
      rw [hresult]
      refine ⟨fun granted => ⟨?_, ?_⟩, ?_, nofun⟩
      · intro hok
        obtain rfl := Except.ok.inj hok
        exact hg
      · exact fun hgranted => congrArg Except.ok (hg.eq hgranted)
      · intro granted hok
        obtain rfl := Except.ok.inj hok
        exact ⟨hg.free.1, rfl⟩
    · have hresult : result = (.error e, scene.header) := hclaim
      rw [hresult]
      exact ⟨fun side => iff_of_false nofun (hno side), nofun, fun _ _ => rfl⟩
  · intro side timeout hside result
    have hrelease := Header.release_of_free timeout hside h.free (p := scene.process pid)
    exact ⟨congrArg Prod.fst hrelease, h.release_of_other timeout hside hrunning⟩

/-- Process 7 takes the master's side and dies; process 9 gives up the slave's side and takes over
the master's. The slave's side goes to process 11. -/
def successions : List Act :=
  [.start 7, .start 9, .claim 7 .auto 0, .beat 7 .master, .claim 9 .auto 0, .die 7,
    .claim 9 .slave 5, .release 9 .slave 0, .claim 9 .auto 0, .start 11, .claim 11 .slave 0]

theorem log_successions : (Scene.empty.after successions).log =
    [.took .slave 11, .took .master 9, .gaveUp .slave 9, .took .slave 9, .beat .master,
      .took .master 7] := by
  decide +kernel

/-- After that the master's side is process 9's, taken for the second time, and its former side is
not freed by it again. -/
theorem one_holder_successions :
    Scene.empty.Legal successions ∧
      (let scene := Scene.empty.after successions
      (∀ pid, scene.Holder .master pid → pid = 9) ∧
      (scene.header.slot .master).isLive (scene.process 11) = true ∧
      (scene.header.slot .master).generation.toNat = 2 ∧
      (scene.header.slot .master).heartbeat.toNat = 1 ∧
      (scene.header.release (scene.process 9) .slave 0).2 = scene.header) := by
  have hlegal : Scene.empty.Legal successions :=
    ⟨⟨rfl, by decide, by decide⟩, ⟨rfl, by decide, by decide⟩, rfl, ⟨rfl, nofun⟩, rfl, rfl, rfl,
      ⟨rfl, nofun⟩, rfl, ⟨rfl, by decide, by decide⟩, rfl, trivial⟩
  obtain ⟨hsides, hprocesses⟩ := one_holder_a_side hlegal
  obtain ⟨hunique, hlive, -, hgeneration, hheartbeat⟩ := hsides .master nofun
  have hholder : (Scene.empty.after successions).Holder .master 9 := by
    refine ⟨rfl, ?_⟩
    rw [log_successions]
    simp [Holds]
  have hrelease := ((hprocesses 9 rfl).2 .slave 0 nofun).2
  rw [log_successions] at hgeneration hheartbeat hrelease
  exact ⟨hlegal, fun pid hpid => hunique pid 9 hpid hholder, (hlive 11).mpr ⟨9, hholder⟩,
    hgeneration, hheartbeat, hrelease (by decide)⟩

end PeerLink.Claims
