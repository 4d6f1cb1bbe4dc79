import PeerLink.Region.Lock

/-! # The lock while nobody else acts

A lock that is free, or held by a process that is gone, is taken at the first attempt whatever the
time limit; a lock that is held by the caller is given up.

* `Life`, `Process.among`: what becomes of the processes of a host, and one of them.
* `Lock.Available`: nobody alive stands in the caller's way.
* `Lock.acquire_of_available`, `Lock.acquire_eq_lockTimeout`: an available lock is taken, any other
  is not.
* `Lock.lock_eq_acquire`: the same from any instant, where a clock can show the deadline.
-/

namespace PeerLink
set_option autoImplicit false

/-! ## Processes that end -/

/-- What has become of the process of a number; there is no way back. -/
inductive Life where
  | unborn
  | running
  | dead
  deriving DecidableEq

/-- A process among those that exist. -/
def Process.among (life : UInt32 → Life) (pid : UInt32) : Process :=
  ⟨pid, fun other => life other == .running⟩

theorem Process.alive_of_dead {life : UInt32 → Life} {pid : UInt32} (hdead : life pid = .dead)
    (next : UInt32) : (among life next).alive pid = false := by
  simp [alive, among, hdead]

theorem Process.alive_among_iff {life : UInt32 → Life} {pid : UInt32}
    (hnamed : life pid ≠ .unborn → pid ≠ 0 ∧ pid ≤ maxPid) (me : UInt32) :
    (among life me).alive pid = true ↔ life pid = .running := by
  constructor
  · intro halive
    rw [alive, Bool.and_eq_true] at halive
    simpa [among] using halive.2
  · intro hrunning
    obtain ⟨hzero, hmax⟩ := hnamed (by simp [hrunning])
    simp [alive, among, hrunning, hzero, hmax]

namespace Lock

/-! ## Locks to be had -/

theorem swap_of_owner {expected new : UInt32} {l : Lock} (h : l.owner = expected) :
    l.swap expected new = .ok { l with owner := new } := if_pos h

theorem swap_of_other {expected new : UInt32} {l : Lock} (h : l.owner ≠ expected) :
    l.swap expected new = .error l.owner := if_neg h

/-- A lock is lost by its holder's death only: neither free, nor the caller's, nor a live
process's. -/
def Abandoned (p : Process) (l : Lock) : Prop :=
  l.owner ≠ 0 ∧ l.owner ≠ p.pid ∧ p.alive l.owner = false

/-- The lock is free, or lost by its holder's death. -/
def Available (p : Process) (l : Lock) : Prop := l.owner = 0 ∨ l.Abandoned p

/-- Whoever dies has left the lock alone, or its own number in it, or has freed it. -/
theorem Available.of_owner {p q : Process} {l l' : Lock} (h : l.Available q) (hother : p.pid ≠ q.pid)
    (hdead : q.alive p.pid = false)
    (howner : l'.owner = l.owner ∨ l'.owner = p.pid ∨ l'.owner = 0) : l'.Available q := by
  rcases howner with hsame | hown | hfree
  · rw [Available, Abandoned, hsame]
    exact h
  · by_cases hzero : p.pid = 0
    · exact .inl (hown.trans hzero)
    · rw [Available, Abandoned, hown]
      exact .inr ⟨hzero, hother, hdead⟩
  · exact .inl hfree

theorem available_of_dead {life : UInt32 → Life} {pid : UInt32} {l : Lock}
    (hlock : l.owner = 0 ∨ life l.owner = .dead) (hrunning : life pid = .running) :
    l.Available (.among life pid) := by
  by_cases hfree : l.owner = 0
  · exact .inl hfree
  · have hdead := hlock.resolve_left hfree
    refine .inr ⟨hfree, fun hown => ?_, Process.alive_of_dead hdead pid⟩
    rw [hown] at hdead
    cases hrunning.symm.trans hdead

/-- The lock in a caller's hands; a take-over from a dead holder has been counted. -/
def taken (pid : UInt32) (l : Lock) : Lock :=
  ⟨pid, if l.owner = 0 then l.reclaims else l.reclaims + 1⟩

/-- A free lock is not changed by being taken and given up. -/
theorem taken_of_free (pid : UInt32) {l : Lock} (h : l.owner = 0) :
    { l.taken pid with owner := 0 } = l := by
  rw [taken, if_pos h, ← h]

theorem takeOver_of_abandoned {p : Process} {l : Lock} (h : l.Abandoned p) :
    l.takeOver p l.owner = some ⟨p.pid, l.reclaims + 1⟩ := by
  obtain ⟨-, hother, hdead⟩ := h
  have hclaim : ¬ (l.owner = p.pid ∨ p.alive l.owner = true) := by
    rw [hdead]
    simpa using hother
  rw [takeOver, if_neg hclaim, swap_of_owner rfl]

theorem takeOver_of_not_available {p : Process} {l : Lock} (h : ¬ l.Available p) :
    l.takeOver p l.owner = none := by
  rw [takeOver]
  refine if_pos (Decidable.byContradiction fun hno => h (.inr ⟨?_, ?_, ?_⟩))
  · exact fun hfree => h (.inl hfree)
  · exact fun hown => hno (.inl hown)
  · exact Bool.eq_false_iff.mpr fun halive => hno (.inr halive)

theorem tryLock_of_available {p : Process} {l : Lock} (h : l.Available p) :
    l.tryLock p = some (l.taken p.pid) := by
  by_cases hfree : l.owner = 0
  · rw [tryLock, swap_of_owner hfree, taken, if_pos hfree]
  · have hdead : l.Abandoned p := h.resolve_left hfree
    rw [tryLock, swap_of_other hfree, taken, if_neg hfree]
    exact takeOver_of_abandoned hdead

theorem tryLock_of_not_available {p : Process} {l : Lock} (h : ¬ l.Available p) :
    l.tryLock p = none := by
  rw [tryLock, swap_of_other fun hfree => h (.inl hfree)]
  exact takeOver_of_not_available h

theorem waitAlone_of_available (timeout : Duration) (start deadline : Instant) {p : Process}
    {l : Lock} (h : l.Available p) :
    l.waitAlone p timeout start deadline = .ok (l.taken p.pid) := by
  by_cases hfree : l.owner = 0
  · rw [taken, if_pos hfree]
    simp only [waitAlone, wait, attempt, swap_of_owner hfree]
  · have hdead : l.Abandoned p := h.resolve_left hfree
    rw [taken, if_neg hfree]
    simp only [waitAlone, wait, attempt, swap_of_other hfree, Nat.zero_mod, if_true,
      takeOver_of_abandoned hdead]

theorem waitAlone_of_not_available (timeout : Duration) (start deadline : Instant) {p : Process}
    {l : Lock} (h : ¬ l.Available p) :
    l.waitAlone p timeout start deadline = .error (.lockTimeout timeout l.owner) := by
  have hheld : l.owner ≠ 0 := fun hfree => h (.inl hfree)
  have hstays := takeOver_of_not_available h
  simp only [waitAlone, wait, attempt, swap_of_other hheld, hstays, ite_self]
  by_cases hlate : deadline ≤ start
  · simp [hlate]
  · simp [hlate]

theorem acquire_of_available (timeout : Duration) {p : Process} {l : Lock} (h : l.Available p) :
    l.acquire p timeout = .ok (l.taken p.pid) :=
  waitAlone_of_available timeout 0 timeout h

theorem acquire_eq_lockTimeout (timeout : Duration) {p : Process} {l : Lock}
    (h : ¬ l.Available p) : l.acquire p timeout = .error (.lockTimeout timeout l.owner) :=
  waitAlone_of_not_available timeout 0 timeout h

theorem acquire_of_not_available (timeout : Duration) {p : Process} {l : Lock}
    (h : ¬ l.Available p) : ∃ e, l.acquire p timeout = .error e :=
  ⟨_, acquire_eq_lockTimeout timeout h⟩

/-- The instant of a call decides only whether it breaks off. -/
theorem lock_eq_acquire (p : Process) (now : Instant) (timeout : Duration) (l : Lock) :
    l.lock p now timeout = (now.after? timeout).map fun _ => l.acquire p timeout := by
  rw [lock]
  congr 1
  funext deadline
  by_cases h : l.Available p
  · rw [waitAlone_of_available timeout now deadline h, acquire_of_available timeout h]
  · rw [waitAlone_of_not_available timeout now deadline h, acquire_eq_lockTimeout timeout h]

theorem release_of_owner {pid : UInt32} {l : Lock} (h : l.owner = pid) :
    l.release pid = .ok { l with owner := 0 } := by
  rw [release, swap_of_owner h]

theorem drop_of_owner {pid : UInt32} {l : Lock} (h : l.owner = pid) :
    l.drop pid = { l with owner := 0 } := by
  rw [drop, release_of_owner h]

end Lock

end PeerLink
