import PeerLink.Link.Claim
import PeerLink.Proofs.Region.Lock

/-! # Claims under the lock

Taking and giving up a side while nobody else acts, as one equation each. A lock that can be had is
free again afterwards, so what is left is the change of one slot.

* `RoleSlot.pid_vacateIfOwn` and its kind: what an operation leaves alone in a slot.
* `Header.slot_mapSlot_self`, `Header.slot_mapSlot_of_ne`: the slots after a change of one of them.
* `Header.Grants`, `Header.resolve_eq_ok_iff`: which side a request gets, if any.
* `Header.claim_of_available`, `Header.release_of_available`: what an operation does when the lock
  can be had.
* `Header.claim_outcome`, `Header.release_outcome`: what an operation can do whatever the lock says.
* `Header.claim_of_free`, `Header.release_of_free`: the same when the lock is free, and stays as it
  is.
-/

namespace PeerLink
set_option autoImplicit false

/-! ## One slot -/

namespace RoleSlot

variable (s : RoleSlot) (pid : UInt32)

@[simp]
theorem pid_beat : s.beat.pid = s.pid := rfl

@[simp]
theorem generation_beat : s.beat.generation = s.generation := rfl

@[simp]
theorem isClaimed_beat : s.beat.isClaimed = s.isClaimed := rfl

@[simp]
theorem pid_vacateIfOwn : (s.vacateIfOwn pid).pid = s.pid := by
  unfold vacateIfOwn
  split <;> rfl

@[simp]
theorem generation_vacateIfOwn : (s.vacateIfOwn pid).generation = s.generation := by
  unfold vacateIfOwn
  split <;> rfl

@[simp]
theorem heartbeat_vacateIfOwn : (s.vacateIfOwn pid).heartbeat = s.heartbeat := by
  unfold vacateIfOwn
  split <;> rfl

theorem isClaimed_vacateIfOwn :
    (s.vacateIfOwn pid).isClaimed = true ↔ s.pid ≠ pid ∧ s.isClaimed = true := by
  by_cases hown : s.pid = pid
  · rw [vacateIfOwn, if_pos hown]
    exact iff_of_false nofun fun h => h.1 hown
  · rw [vacateIfOwn, if_neg hown]
    exact (and_iff_right hown).symm

end RoleSlot

namespace Header

variable {p : Process} {h : Header} {side other requested : Role}

/-! ## The slots of a header -/

theorem slot_mapSlot_self (side : Role) (f : RoleSlot → RoleSlot) (h : Header) :
    (h.mapSlot side f).slot side = f (h.slot side) := by
  cases side <;> rfl

/-- The undecided role has no slot of its own, so it is left out here. -/
theorem slot_mapSlot_of_ne (f : RoleSlot → RoleSlot) (h : Header) (hside : side ≠ .auto)
    (hother : other ≠ .auto) (hne : other ≠ side) :
    (h.mapSlot side f).slot other = h.slot other := by
  cases side <;> cases other <;> first | rfl | contradiction

theorem lock_mapSlot (side : Role) (f : RoleSlot → RoleSlot) (h : Header) :
    (h.mapSlot side f).lock = h.lock := by
  cases side <;> rfl

theorem mapSlot_eq_self {f : RoleSlot → RoleSlot} (hf : f (h.slot side) = h.slot side) :
    h.mapSlot side f = h := by
  cases side
  all_goals
    simp only [slot] at hf
    simp only [mapSlot, hf]

theorem slot_peer_mapSlot (f : RoleSlot → RoleSlot) (h : Header) (hside : side ≠ .auto) :
    (h.mapSlot side f).slot side.peer = h.slot side.peer := by
  cases side <;> first | rfl | contradiction

/-! ## Requests -/

/-- The side that a request gets: the one it asks for if that is free, and the first free one if it
is undecided. -/
def Grants (p : Process) (h : Header) (requested side : Role) : Prop :=
  match requested with
  | .auto => side = .master ∧ h.master.isLive p = false ∨
      side = .slave ∧ h.master.isLive p = true ∧ h.slave.isLive p = false
  | certain => side = certain ∧ (h.slot certain).isLive p = false

theorem resolve_of_ne_auto (hcertain : requested ≠ .auto) :
    h.resolve p requested =
      if (h.slot requested).isLive p then .error (.held requested (h.slot requested).pid)
      else .ok requested := by
  cases requested <;> first | rfl | contradiction

theorem grants_of_ne_auto (hcertain : requested ≠ .auto) :
    h.Grants p requested side ↔ side = requested ∧ (h.slot requested).isLive p = false := by
  cases requested <;> first | exact Iff.rfl | contradiction

theorem resolve_eq_ok_iff : h.resolve p requested = .ok side ↔ h.Grants p requested side := by
  by_cases hauto : requested = .auto
  · subst hauto
    simp only [resolve, Grants]
    cases h.master.isLive p <;> cases h.slave.isLive p <;> simp [eq_comm]
  · rw [resolve_of_ne_auto hauto, grants_of_ne_auto hauto]
    cases (h.slot requested).isLive p <;> simp [eq_comm]

/-- A side is only granted while it is free, and it is never the undecided one. -/
theorem Grants.free (hg : h.Grants p requested side) :
    side ≠ .auto ∧ (h.slot side).isLive p = false := by
  by_cases hauto : requested = .auto
  · subst hauto
    obtain ⟨rfl, hfree⟩ | ⟨rfl, -, hfree⟩ := hg
    · exact ⟨nofun, hfree⟩
    · exact ⟨nofun, hfree⟩
  · obtain ⟨rfl, hfree⟩ := (grants_of_ne_auto hauto).mp hg
    exact ⟨hauto, hfree⟩

/-! ## Operations -/

/-- A header whose lock has been taken and given up by a process. -/
def unlocked (p : Process) (h : Header) : Header :=
  { h with lock := { h.lock.taken p.pid with owner := 0 } }

theorem unlocked_of_free (p : Process) (hfree : h.lock.owner = 0) : h.unlocked p = h := by
  rw [unlocked, Lock.taken_of_free p.pid hfree]

theorem slot_unlocked (p : Process) (h : Header) (role : Role) :
    (h.unlocked p).slot role = h.slot role := by
  cases role <;> rfl

theorem resolve_withLock (l : Lock) (p : Process) (requested : Role) (h : Header) :
    ({ h with lock := l } : Header).resolve p requested = h.resolve p requested := by
  cases requested <;> rfl

/-- What one change of a slot leaves behind, done in between the taking and the giving up. -/
theorem drop_mapSlot (f : RoleSlot → RoleSlot) :
    let held : Header := { h with lock := h.lock.taken p.pid }
    ({ held.mapSlot side f with lock := (held.mapSlot side f).lock.drop p.pid } : Header) =
      (h.unlocked p).mapSlot side f := by
  intro held
  have hdrop : (held.mapSlot side f).lock.drop p.pid = { h.lock.taken p.pid with owner := 0 } := by
    rw [lock_mapSlot]
    exact Lock.drop_of_owner rfl
  rw [hdrop]
  cases side <;> rfl

theorem underLock_of_not_available {α : Type} (timeout : Duration)
    (act : Header → Except LinkError α × Header) (ha : ¬ h.lock.Available p) :
    ∃ e, h.underLock p timeout act = (.error e, h) := by
  obtain ⟨e, he⟩ := Lock.acquire_of_not_available timeout ha
  rw [underLock, he]
  exact ⟨_, rfl⟩

theorem claim_of_available (requested : Role) (timeout : Duration) (ha : h.lock.Available p) :
    h.claim p requested timeout = match h.resolve p requested with
      | .error refusal => (.error (.roleMismatch requested refusal.message), h.unlocked p)
      | .ok side => (.ok side, (h.unlocked p).mapSlot side (RoleSlot.occupy p.pid)) := by
  rw [claim, underLock, Lock.acquire_of_available timeout ha]
  simp only [resolve_withLock]
  cases h.resolve p requested with
  | error refusal =>
    have hdrop : (h.lock.taken p.pid).drop p.pid = { h.lock.taken p.pid with owner := 0 } :=
      Lock.drop_of_owner rfl
    simp only [hdrop, unlocked]
  | ok side => exact congrArg (Prod.mk _) (drop_mapSlot (RoleSlot.occupy p.pid))

theorem release_of_available (timeout : Duration) (hside : side ≠ .auto)
    (ha : h.lock.Available p) :
    h.release p side timeout =
      (.ok ((h.slot side.peer).isLive p),
        (h.unlocked p).mapSlot side (RoleSlot.vacateIfOwn p.pid)) := by
  rw [release, underLock, Lock.acquire_of_available timeout ha]
  have hpeer := slot_peer_mapSlot (RoleSlot.vacateIfOwn p.pid)
    { h with lock := h.lock.taken p.pid } hside
  simp only [hpeer]
  have hslot : ({ h with lock := h.lock.taken p.pid } : Header).slot side.peer =
      h.slot side.peer := by cases side <;> rfl
  rw [hslot]
  exact congrArg (Prod.mk _) (drop_mapSlot (RoleSlot.vacateIfOwn p.pid))

/-- A claim whatever the lock says: a side is taken, or no slot is touched. -/
theorem claim_outcome (p : Process) (requested : Role) (timeout : Duration) (h : Header) :
    (∃ side lock, h.claim p requested timeout =
      (.ok side, ({ h with lock } : Header).mapSlot side (RoleSlot.occupy p.pid))) ∨
    ∃ e lock, h.claim p requested timeout = (.error e, { h with lock }) := by
  by_cases ha : h.lock.Available p
  · rw [claim_of_available requested timeout ha]
    cases h.resolve p requested with
    | ok side => exact .inl ⟨side, _, rfl⟩
    | error refusal => exact .inr ⟨_, _, rfl⟩
  · obtain ⟨e, he⟩ := underLock_of_not_available timeout _ ha
    exact .inr ⟨e, h.lock, he⟩

/-- A release whatever the lock says: a claim is given up, or nothing happens. -/
theorem release_outcome (p : Process) (side : Role) (timeout : Duration) (h : Header) :
    (∃ live lock, h.release p side timeout =
      (.ok live, ({ h with lock } : Header).mapSlot side (RoleSlot.vacateIfOwn p.pid))) ∨
    ∃ e, h.release p side timeout = (.error e, h) := by
  by_cases ha : h.lock.Available p
  · rw [release, underLock, Lock.acquire_of_available timeout ha]
    exact .inl ⟨_, _, congrArg (Prod.mk _) (drop_mapSlot (RoleSlot.vacateIfOwn p.pid))⟩
  · exact .inr (underLock_of_not_available timeout _ ha)

theorem claim_of_free (requested : Role) (timeout : Duration) (hfree : h.lock.owner = 0) :
    h.claim p requested timeout = match h.resolve p requested with
      | .error refusal => (.error (.roleMismatch requested refusal.message), h)
      | .ok side => (.ok side, h.mapSlot side (RoleSlot.occupy p.pid)) := by
  rw [claim_of_available requested timeout (.inl hfree), unlocked_of_free p hfree]

/-- A claim is granted, or refused without a trace. -/
theorem claim_cases (p : Process) (requested : Role) (timeout : Duration)
    (hfree : h.lock.owner = 0) :
    (∃ side, h.Grants p requested side ∧
      h.claim p requested timeout = (.ok side, h.mapSlot side (RoleSlot.occupy p.pid))) ∨
    (∃ e, (∀ side, ¬ h.Grants p requested side) ∧ h.claim p requested timeout = (.error e, h)) := by
  have hclaim := claim_of_free requested timeout hfree (p := p)
  cases hresolve : h.resolve p requested with
  | error refusal =>
    rw [hresolve] at hclaim
    refine .inr ⟨_, fun side hg => ?_, hclaim⟩
    rw [resolve_eq_ok_iff.mpr hg] at hresolve
    cases hresolve
  | ok side =>
    rw [hresolve] at hclaim
    exact .inl ⟨side, resolve_eq_ok_iff.mp hresolve, hclaim⟩

theorem Grants.eq {granted : Role} (hg : h.Grants p requested side)
    (hg' : h.Grants p requested granted) : side = granted := by
  have heq := (resolve_eq_ok_iff.mpr hg).symm.trans (resolve_eq_ok_iff.mpr hg')
  exact Except.ok.inj heq

theorem release_of_free (timeout : Duration) (hside : side ≠ .auto) (hfree : h.lock.owner = 0) :
    h.release p side timeout =
      (.ok ((h.slot side.peer).isLive p), h.mapSlot side (RoleSlot.vacateIfOwn p.pid)) := by
  rw [release_of_available timeout hside (.inl hfree), unlocked_of_free p hfree]

end Header

end PeerLink
