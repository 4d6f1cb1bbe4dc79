import PeerLink.Proofs.Region.Contention

/-! # Waiting for the lock

A waiting acquisition makes one attempt after another and counts them in 32 bits. What an attempt
sees is not its own doing: the words at its first and at its last access, the processes that exist
when it asks for one, and the clock.

* `Contention.View`: what one attempt sees, each attempt something else.
* `Contention.pursue`: the attempts, with the phases that they pass; `pursue_eq_wait` says that the
  counter may wrap and that this is `Lock.wait` where no process starts or ends.
* `Contention.attempt_eq_expired_iff`, `Contention.attempt_eq_waiting_iff`: when an attempt fails.
* `Contention.wait_of_unchanged`: attempts on words that nobody changes.

Main statement: `Contention.waiting_agrees_with_trying`.
-/

namespace PeerLink.Contention
set_option autoImplicit false

/-! ## Attempts -/

structure View extends Lock.Sight where
  running : UInt32 → Bool

def View.process (pid : UInt32) (v : View) : Process := ⟨pid, v.running⟩

/-- The phases that accesses pass, each access with the lock as it then is. -/
def Phase.passed (p : Process) (late : Bool) : List Lock → Phase → List Phase
  | [], _ => []
  | l :: rest, phase =>
    phase :: match phase.next p late l with
      | .goesOn next => next.passed p late rest
      | _ => []

/-- The phases of the attempt after `failed` failed ones. -/
def View.phases (pid : UInt32) (deadline : Instant) (failed : Nat) (v : View) : List Phase :=
  (Phase.reaching (.waiting failed)).passed (v.process pid) (deadline ≤ v.now)
    [v.first, v.second, v.second, v.second]

/-- Attempts until one decides: the phases passed, and how the wait stands then. -/
def pursue (pid : UInt32) (deadline : Instant) : UInt32 → List View → List Phase × Lock.Verdict
  | _, [] => ([], .waiting)
  | failed, v :: rest =>
    let phases := v.phases pid deadline failed.toNat
    match Lock.attempt (v.process pid) deadline failed.toNat v.toSight with
    | .waiting =>
      let later := pursue pid deadline (failed + 1) rest
      (phases ++ later.1, later.2)
    | verdict => (phases, verdict)

variable {p : Process} {l : Lock} {holder pid : UInt32} {deadline : Instant} {failed : Nat}
  {s : Lock.Sight} {views : List View}

theorem takeOver_eq_none_iff :
    l.takeOver p holder = none ↔
      (holder = p.pid ∨ p.alive holder = true) ∨ l.owner ≠ holder := by
  rw [takeOver_eq]
  by_cases hheld : holder = p.pid ∨ p.alive holder = true
  · simp [hheld]
  · by_cases howner : l.owner = holder
    · simp [hheld, howner]
    · simp [howner]

/-- The attempt does not take the lock over: it does not ask, or it cannot. -/
def Passes (p : Process) (failed : Nat) (s : Lock.Sight) : Prop :=
  failed % Lock.checkEvery = 0 → s.second.takeOver p s.first.owner = none

theorem attempt_of_held (hheld : s.first.owner ≠ 0) (hpasses : Passes p failed s) :
    Lock.attempt p deadline failed s =
      if deadline ≤ s.now then .expired s.first.owner else .waiting := by
  rw [Lock.attempt, Lock.swap_of_other hheld]
  by_cases hasks : failed % Lock.checkEvery = 0
  · simp [hasks, hpasses hasks]
  · simp [hasks]

/-- An attempt that does not take the lock finds it held, and does not take it over. -/
theorem attempt_cases (p : Process) (deadline : Instant) (failed : Nat) (s : Lock.Sight) :
    (∃ l, Lock.attempt p deadline failed s = .taken l) ∨ s.first.owner ≠ 0 ∧ Passes p failed s := by
  by_cases hfree : s.first.owner = 0
  · left
    rw [Lock.attempt, Lock.swap_of_owner hfree]
    exact ⟨_, rfl⟩
  · by_cases hpasses : Passes p failed s
    · exact .inr ⟨hfree, hpasses⟩
    · left
      obtain ⟨hasks, htaken⟩ := Classical.not_imp.mp hpasses
      obtain ⟨words, hwords⟩ := Option.ne_none_iff_exists'.mp htaken
      refine ⟨words, ?_⟩
      rw [Lock.attempt, Lock.swap_of_other hfree]
      simp [hasks, hwords]

theorem attempt_eq_expired_iff :
    Lock.attempt p deadline failed s = .expired holder ↔
      (s.first.owner = holder ∧ holder ≠ 0 ∧ Passes p failed s) ∧ deadline ≤ s.now := by
  constructor
  · intro h
    rcases attempt_cases p deadline failed s with ⟨words, htaken⟩ | ⟨hheld, hpasses⟩
    · rw [htaken] at h
      cases h
    · rw [attempt_of_held hheld hpasses] at h
      split at h
      · next hlate =>
        cases h
        exact ⟨⟨rfl, hheld, hpasses⟩, hlate⟩
      · cases h
  · rintro ⟨⟨rfl, hheld, hpasses⟩, hlate⟩
    rw [attempt_of_held hheld hpasses, if_pos hlate]

theorem attempt_eq_waiting_iff :
    Lock.attempt p deadline failed s = .waiting ↔
      (s.first.owner ≠ 0 ∧ Passes p failed s) ∧ s.now < deadline := by
  constructor
  · intro h
    rcases attempt_cases p deadline failed s with ⟨words, htaken⟩ | ⟨hheld, hpasses⟩
    · rw [htaken] at h
      cases h
    · rw [attempt_of_held hheld hpasses] at h
      split at h
      · cases h
      · next hearly => exact ⟨⟨hheld, hpasses⟩, Nat.lt_of_not_le hearly⟩
  · rintro ⟨⟨hheld, hpasses⟩, hearly⟩
    rw [attempt_of_held hheld hpasses, if_neg (Nat.not_le.mpr hearly)]

/-! ## The counter -/

/-- Attempts differ by their number only in whether they ask. -/
theorem attempt_congr {failed' : Nat} (h : failed % Lock.checkEvery = failed' % Lock.checkEvery) :
    Lock.attempt p deadline failed s = Lock.attempt p deadline failed' s := by
  unfold Lock.attempt
  rw [h]

/-- The period of the questions divides that of the counter. -/
theorem toNat_counter (n : Nat) :
    (UInt32.ofNat n).toNat % Lock.checkEvery = n % Lock.checkEvery := by
  rw [UInt32.toNat_ofNat', Lock.checkEvery]
  omega

theorem pursue_eq_wait (p : Process) (deadline : Instant) (failed : Nat)
    (sights : List Lock.Sight) :
    (pursue p.pid deadline (UInt32.ofNat failed) (sights.map (⟨·, p.running⟩))).2 =
      Lock.wait p deadline failed sights := by
  induction sights generalizing failed with
  | nil => rfl
  | cons s rest ih =>
    have hsame : Lock.attempt p deadline (UInt32.ofNat failed).toNat s =
        Lock.attempt p deadline failed s := attempt_congr (toNat_counter failed)
    have hnext : UInt32.ofNat failed + 1 = UInt32.ofNat (failed + 1) :=
      (UInt32.ofNat_add failed 1).symm
    rw [List.map_cons, pursue, Lock.wait]
    simp only [View.process, hsame]
    cases Lock.attempt p deadline failed s with
    | taken words => rfl
    | expired holder => rfl
    | waiting =>
      dsimp only
      rw [hnext]
      exact ih (failed + 1)

/-! ## Words that nobody changes -/

theorem passes_of_not_available (h : ¬ l.Available p) (failed : Nat) (now : Instant) :
    l.owner ≠ 0 ∧ Passes p failed ⟨l, l, now⟩ :=
  ⟨fun hfree => h (.inl hfree), fun _ => Lock.takeOver_of_not_available h⟩

theorem attempt_of_available (h : l.Available p) (deadline now : Instant) :
    Lock.attempt p deadline 0 ⟨l, l, now⟩ = .taken (l.taken p.pid) := by
  have htaken := Lock.tryLock_of_available h
  unfold Lock.tryLock at htaken
  unfold Lock.attempt
  by_cases hfree : l.owner = 0
  · rw [Lock.swap_of_owner hfree] at htaken ⊢
    simpa using htaken
  · rw [Lock.swap_of_other hfree] at htaken ⊢
    simp [htaken]

/-- A lock that is not available is waited for until the clock has come to the deadline. -/
theorem wait_of_not_available (h : ¬ l.Available p) {times : List Instant}
    (hcomes : ∃ now ∈ times, deadline ≤ now) (failed : Nat) :
    Lock.wait p deadline failed (times.map (⟨l, l, ·⟩)) = .expired l.owner := by
  induction times generalizing failed with
  | nil =>
    obtain ⟨now, hnow, -⟩ := hcomes
    cases hnow
  | cons now times ih =>
    obtain ⟨hheld, hpasses⟩ := passes_of_not_available h failed now
    rw [List.map_cons, Lock.wait, attempt_of_held hheld hpasses]
    by_cases hlate : deadline ≤ now
    · simp [hlate]
    · have hrest : ∃ later ∈ times, deadline ≤ later := by
        obtain ⟨later, hlater, hend⟩ := hcomes
        refine ⟨later, (List.mem_cons.mp hlater).resolve_left ?_, hend⟩
        rintro rfl
        exact hlate hend
      simpa [hlate] using ih hrest (failed + 1)

/-- However often the clock is read and whatever it shows, as long as it comes to the deadline. -/
theorem wait_of_unchanged (p : Process) (l : Lock) {times : List Instant}
    (hcomes : ∃ now ∈ times, deadline ≤ now) :
    Lock.wait p deadline 0 (times.map (⟨l, l, ·⟩)) =
      match l.tryLock p with
      | some words => .taken words
      | none => .expired l.owner := by
  by_cases h : l.Available p
  · rw [Lock.tryLock_of_available h]
    cases times with
    | nil =>
      obtain ⟨now, hnow, -⟩ := hcomes
      cases hnow
    | cons now times =>
      rw [List.map_cons, Lock.wait, attempt_of_available h]
  · rw [Lock.tryLock_of_not_available h]
    exact wait_of_not_available h hcomes 0

/-- A call with a deadline that a clock can show comes to what the single attempt comes to. -/
theorem lock_eq_tryLock (p : Process) (now : Instant) (timeout : Duration) (l : Lock) :
    l.lock p now timeout = (now.after? timeout).map fun _ =>
      match l.tryLock p with
      | some words => .ok words
      | none => .error (.lockTimeout timeout l.owner) := by
  rw [Lock.lock_eq_acquire]
  by_cases h : l.Available p
  · rw [Lock.tryLock_of_available h, Lock.acquire_of_available timeout h]
  · rw [Lock.tryLock_of_not_available h, Lock.acquire_eq_lockTimeout timeout h]

theorem lock_eq_none_iff (p : Process) (now : Instant) (timeout : Duration) (l : Lock) :
    l.lock p now timeout = none ↔ Instant.limit ≤ now + timeout := by
  rw [Lock.lock, Option.map_eq_none_iff, Instant.after?]
  by_cases hlate : now + timeout < Instant.limit
  · simp [hlate, Nat.not_le.mpr hlate]
  · simp [hlate, Nat.le_of_not_lt hlate]

/-! ## Words that change -/

theorem alive_eq_false_iff :
    p.alive pid = false ↔ pid = 0 ∨ Process.maxPid < pid ∨ p.running pid = false := by
  unfold Process.alive
  by_cases hzero : pid = 0
  · simp [hzero]
  · by_cases hmax : pid ≤ Process.maxPid
    · simp [hzero, hmax, UInt32.not_lt.mpr hmax]
    · simp [hzero, hmax, UInt32.not_le.mp hmax]

theorem available_iff_owner :
    l.Available p ↔ l.owner = 0 ∨
      l.owner ≠ p.pid ∧ (Process.maxPid < l.owner ∨ p.running l.owner = false) := by
  unfold Lock.Available Lock.Abandoned
  rw [alive_eq_false_iff]
  by_cases hfree : l.owner = 0
  · simp [hfree]
  · simp [hfree]

/-- The first attempt asks for the holder that it sees. -/
theorem phases_first (pid : UInt32) (deadline : Instant) {v : View} (hheld : v.first.owner ≠ 0) :
    [.reaching (.waiting 0), .asking (.waiting 0) v.first.owner] <+: v.phases pid deadline 0 := by
  unfold View.phases
  rw [Phase.passed, Phase.next, Lock.swap_of_other hheld]
  exact ⟨_, rfl⟩

/-- An acquisition that expires does so at an attempt that finds the lock held and the time up; no
attempt before that found either otherwise. -/
theorem pursue_expires {count : UInt32} (h : (pursue pid deadline count views).2 = .expired holder) :
    ∃ before v after, views = before ++ v :: after ∧ (v.first.owner = holder ∧ holder ≠ 0) ∧
      deadline ≤ v.now ∧ ∀ u ∈ before, u.first.owner ≠ 0 ∧ u.now < deadline := by
  induction views generalizing count with
  | nil => cases h
  | cons v rest ih =>
    rw [pursue] at h
    cases hattempt : Lock.attempt (v.process pid) deadline count.toNat v.toSight with
    | taken words =>
      rw [hattempt] at h
      cases h
    | expired seen =>
      rw [hattempt] at h
      cases h
      obtain ⟨⟨howner, hheld, -⟩, hlate⟩ := attempt_eq_expired_iff.mp hattempt
      exact ⟨[], v, rest, rfl, ⟨howner, hheld⟩, hlate, nofun⟩
    | waiting =>
      rw [hattempt] at h
      obtain ⟨⟨hheld, -⟩, hearly⟩ := attempt_eq_waiting_iff.mp hattempt
      obtain ⟨before, u, after, rfl, hlast, hlate, hbefore⟩ := ih h
      refine ⟨v :: before, u, after, rfl, hlast, hlate, ?_⟩
      intro w hw
      rcases List.mem_cons.mp hw with rfl | hw
      · exact ⟨hheld, hearly⟩
      · exact hbefore w hw

/-- Before an acquisition expires, it has asked for the holder that it saw first, and that was the
caller, or alive, or no longer the holder. -/
theorem pursue_asks (h : (pursue pid deadline 0 views).2 = .expired holder) :
    ∃ v rest, views = v :: rest ∧
      [.reaching (.waiting 0), .asking (.waiting 0) v.first.owner] <+:
        (pursue pid deadline 0 views).1 ∧
      (v.first.owner = pid ∨ (v.process pid).alive v.first.owner = true ∨
        v.second.owner ≠ v.first.owner) := by
  cases views with
  | nil => cases h
  | cons v rest =>
    have hfirst : (v.first.owner ≠ 0 ∧ Passes (v.process pid) 0 v.toSight) ∧
        v.phases pid deadline 0 <+: (pursue pid deadline 0 (v :: rest)).1 := by
      rw [pursue] at h ⊢
      simp only [UInt32.toNat_zero] at h ⊢
      cases hattempt : Lock.attempt (v.process pid) deadline 0 v.toSight with
      | taken words =>
        rw [hattempt] at h
        cases h
      | expired seen =>
        obtain ⟨⟨rfl, hseen⟩, -⟩ := attempt_eq_expired_iff.mp hattempt
        exact ⟨hseen, List.prefix_refl _⟩
      | waiting =>
        exact ⟨(attempt_eq_waiting_iff.mp hattempt).1, List.prefix_append _ _⟩
    obtain ⟨⟨hheld, hpasses⟩, hphases⟩ := hfirst
    refine ⟨v, rest, rfl, (phases_first pid deadline hheld).trans hphases, ?_⟩
    rcases takeOver_eq_none_iff.mp (hpasses rfl) with (hown | halive) | hchanged
    · exact .inl hown
    · exact .inr (.inl halive)
    · exact .inr (.inr hchanged)

/-- The waiting acquisition and the single attempt agree, as far as clocks go. Both take a lock that
is free or names a dead process other than the caller, however short the time limit, and count a
holder that they replace; any other lock stays as it is, and the waiting one reports its holder. That
is so whenever the clock is read while nobody else acts. Only a limit that ends later than clocks can
show makes the waiting one break off, and then it does so whatever the lock is. Whatever the attempts
see while others act: the acquisition expires at an attempt only that finds the lock held and the time
up, and the holder that it saw first has then been asked for. -/
theorem waiting_agrees_with_trying (p : Process) (l : Lock) :
    ((l.tryLock p).isSome = true ↔ l.owner = 0 ∨
      l.owner ≠ p.pid ∧ (Process.maxPid < l.owner ∨ p.running l.owner = false)) ∧
    (∀ words, l.tryLock p = some words → words.owner = p.pid ∧
      words.reclaims = if l.owner = 0 then l.reclaims else l.reclaims + 1) ∧
    (∀ now timeout, (l.lock p now timeout = none ↔ Instant.limit ≤ now + timeout) ∧
      (now + timeout < Instant.limit → l.lock p now timeout = some
        (match l.tryLock p with
        | some words => .ok words
        | none => .error (.lockTimeout timeout l.owner)))) ∧
    (∀ (deadline : Instant) (times : List Instant), (∃ now ∈ times, deadline ≤ now) →
      (pursue p.pid deadline 0 (times.map fun now => ⟨⟨l, l, now⟩, p.running⟩)).2 =
        match l.tryLock p with
        | some words => .taken words
        | none => .expired l.owner) ∧
    ∀ (pid : UInt32) (deadline : Instant) (views : List View) (holder : UInt32),
      (pursue pid deadline 0 views).2 = .expired holder →
        (∃ before v after, views = before ++ v :: after ∧ (v.first.owner = holder ∧ holder ≠ 0) ∧
          deadline ≤ v.now ∧ ∀ u ∈ before, u.first.owner ≠ 0 ∧ u.now < deadline) ∧
        ∃ v rest, views = v :: rest ∧
          [.reaching (.waiting 0), .asking (.waiting 0) v.first.owner] <+:
            (pursue pid deadline 0 views).1 ∧
          (v.first.owner = pid ∨ (v.process pid).alive v.first.owner = true ∨
            v.second.owner ≠ v.first.owner) := by
  refine ⟨?_, ?_, ?_, ?_, ?_⟩
  · rw [← available_iff_owner]
    by_cases h : l.Available p
    · simp [Lock.tryLock_of_available h, h]
    · simp [Lock.tryLock_of_not_available h, h]
  · intro words hwords
    by_cases h : l.Available p
    · rw [Lock.tryLock_of_available h] at hwords
      cases hwords
      exact ⟨rfl, rfl⟩
    · rw [Lock.tryLock_of_not_available h] at hwords
      cases hwords
  · intro now timeout
    refine ⟨lock_eq_none_iff p now timeout l, fun hshown => ?_⟩
    rw [lock_eq_tryLock, Instant.after?, if_pos hshown]
    rfl
  · intro deadline times hcomes
    have hwait := pursue_eq_wait p deadline 0 (times.map (⟨l, l, ·⟩))
    rw [List.map_map] at hwait
    exact hwait.trans (wait_of_unchanged p l hcomes)
  · intro pid deadline views holder h
    exact ⟨pursue_expires h, pursue_asks h⟩

/-- Process 9 asks for process 5, which is dead, but process 7 has the lock by then and keeps it. -/
def outrun : List View :=
  [⟨⟨⟨5, 0⟩, ⟨7, 0⟩, 3⟩, (· == 7)⟩, ⟨⟨⟨7, 0⟩, ⟨7, 0⟩, 4⟩, (· == 7)⟩]

/-- A number that no process can have is replaced at once, and the count wraps. -/
theorem waiting_agrees_with_trying_outrun :
    Lock.tryLock ⟨9, (· == 7)⟩ ⟨0x80000000, 0xffffffff⟩ = some ⟨9, 0⟩ ∧
    Lock.lock ⟨9, (· == 7)⟩ 3 0 ⟨0x80000000, 0xffffffff⟩ = some (.ok ⟨9, 0⟩) ∧
    (pursue 9 4 0 outrun).2 = .expired 7 ∧
    [.reaching (.waiting 0), .asking (.waiting 0) 5] <+: (pursue 9 4 0 outrun).1 := by
  obtain ⟨-, -, hlock, -, hexpired⟩ :=
    waiting_agrees_with_trying ⟨9, (· == 7)⟩ ⟨0x80000000, 0xffffffff⟩
  have htry : Lock.tryLock ⟨9, (· == 7)⟩ ⟨0x80000000, 0xffffffff⟩ = some ⟨9, 0⟩ := by decide
  have hend : (pursue 9 4 0 outrun).2 = .expired 7 := by decide
  refine ⟨htry, ?_, hend, ?_⟩
  · rw [(hlock 3 0).2 (by decide), htry]
  · obtain ⟨-, v, rest, hviews, hasked, -⟩ := hexpired 9 4 outrun 7 hend
    cases hviews
    exact hasked

/-- The longest limit in whole seconds breaks off on a lock that is free for the taking. -/
theorem longest_wait_breaks_off :
    Lock.tryLock ⟨9, (· == 9)⟩ ⟨0, 0⟩ = some ⟨9, 0⟩ ∧
      Lock.lock ⟨9, (· == 9)⟩ 0 (.ofSeconds 18446744073709551615) ⟨0, 0⟩ = none := by
  decide

end PeerLink.Contention
