import PeerLink.Proofs.Link.Frame
import PeerLink.Proofs.Region.Stores

/-! # Claimants that die

Taking a side and giving it up are sequences of stores to the header of a region, and the process
may die after any of them. A claim is written number first, so a slot that is half written is a dead
process's, whatever its last claimant left in it.

* `Header.Store`: the stores.
* `Errand`, `Errand.stores`: what a process does with its side, and the stores of all of it.
* `Errand.perform_eq_after`: the stores, one after the other, are the operation.
* `Errand.slot_after_prefix`: a slot in the middle of an errand is as it was, or it bears the number
  of the process.
* `Errand.sameOutside_prefix`: a part of an errand changes no byte that the whole may not change.
* `Crash`: a process dies, and another one comes.

Main statement: `Errand.claimable_after_crash`.
-/

namespace PeerLink
set_option autoImplicit false

open Bytes (SameOutside)
open LockedMemory (after lockStores after_cons after_append after_lockStores eq_of_mem_lockStores
  owner_after prefix_append_cons)

/-! ## Stores -/

namespace Header

/-- A store to a header: the holder of the lock, one more take-over of it, and in the slot of a side
its claimant, its flag and one more claim. -/
inductive Store where
  | owner (pid : UInt32)
  | reclaim
  | slotPid (side : Role) (pid : UInt32)
  | slotFlag (side : Role) (flag : UInt32)
  | slotGeneration (side : Role)
  deriving DecidableEq

namespace Store

/-- A header after a store. -/
def apply (h : Header) : Store → Header
  | .owner pid => { h with lock := { h.lock with owner := pid } }
  | .reclaim => { h with lock := { h.lock with reclaims := h.lock.reclaims + 1 } }
  | .slotPid side pid => h.mapSlot side ({ · with pid })
  | .slotFlag side flag => h.mapSlot side ({ · with flag })
  | .slotGeneration side => h.mapSlot side fun s => { s with generation := s.generation + 1 }

/-- The side whose slot a store is to. -/
def side? : Store → Option Role
  | .owner _ | .reclaim => none
  | .slotPid side _ | .slotFlag side _ | .slotGeneration side => some side

/-- The positions of the word that a store is to. -/
def word : Store → Set ℕ
  | .owner _ | .reclaim => Layout.lockWords
  | .slotPid side _ => side.inSlot RoleSlot.pidWord
  | .slotFlag side _ => side.inSlot RoleSlot.flagWord
  | .slotGeneration side => side.inSlot RoleSlot.generationWord

end Store

variable {h : Header} {stores : List Store} {s : Store} {side role : Role} {pid : UInt32}

theorem mapSlot_congr {f g : RoleSlot → RoleSlot} (hfg : f (h.slot side) = g (h.slot side)) :
    h.mapSlot side f = h.mapSlot side g := by
  cases side
  all_goals
    simp only [slot] at hfg
    simp only [mapSlot, hfg]

theorem owner_apply (h : Header) (s : Store) :
    (s.apply h).lock.owner = h.lock.owner ∨ s = .owner (s.apply h).lock.owner := by
  cases s with
  | owner pid => exact .inr rfl
  | reclaim => exact .inl rfl
  | slotPid side | slotFlag side | slotGeneration side =>
    exact .inl (congrArg Lock.owner (lock_mapSlot ..))

instance : LockedMemory Header Store where
  lock := Header.lock
  setLock lock h := { h with lock }
  apply := Store.apply
  owner := .owner
  reclaim := .reclaim
  lock_setLock _ _ := rfl
  setLock_setLock _ _ _ := rfl
  apply_owner _ _ := rfl
  apply_reclaim _ := rfl
  owner_apply := owner_apply

theorem after_locking (pid : UInt32) (h : Header) :
    after h (lockStores Header pid h.lock) = { h with lock := h.lock.taken pid } :=
  after_lockStores pid h

/-- A store to the slot of a decided side leaves the other slots alone. -/
theorem slot_apply_of_ne (hrole : role ≠ .auto) (hdecided : s.side? ≠ some .auto)
    (hother : s.side? ≠ some role) : (s.apply h).slot role = h.slot role := by
  cases s with
  | owner | reclaim => cases role <;> rfl
  | slotPid side | slotFlag side | slotGeneration side =>
    refine slot_mapSlot_of_ne _ h ?_ hrole ?_
    · rintro rfl
      exact hdecided rfl
    · rintro rfl
      exact hother rfl

theorem slot_after_of_ne (hrole : role ≠ .auto) (hdecided : ∀ s ∈ stores, s.side? ≠ some .auto)
    (hother : ∀ s ∈ stores, s.side? ≠ some role) : (after h stores).slot role = h.slot role := by
  induction stores generalizing h with
  | nil => rfl
  | cons s stores ih =>
    obtain ⟨hs, hrest⟩ := List.forall_mem_cons.mp hdecided
    obtain ⟨hs', hrest'⟩ := List.forall_mem_cons.mp hother
    rw [after_cons, ih hrest hrest']
    exact slot_apply_of_ne hrole hs hs'

theorem pid_apply_of_ne (hrole : role ≠ .auto) (hdecided : s.side? ≠ some .auto)
    (hother : ∀ pid, s ≠ .slotPid role pid) : ((s.apply h).slot role).pid = (h.slot role).pid := by
  by_cases hside : s.side? = some role
  · cases s with
    | owner | reclaim => cases hside
    | slotPid side pid =>
      cases hside
      exact absurd rfl (hother pid)
    | slotFlag side | slotGeneration side =>
      cases hside
      rw [Store.apply, slot_mapSlot_self]
  · rw [slot_apply_of_ne hrole hdecided hside]

/-- Where the number of one process only is stored, it is there from the first such store on. -/
theorem pid_after (hrole : role ≠ .auto) (hdecided : ∀ s ∈ stores, s.side? ≠ some .auto)
    (hown : ∀ other, .slotPid role other ∈ stores → other = pid) (h : Header) :
    ((after h stores).slot role).pid =
      if .slotPid role pid ∈ stores then pid else (h.slot role).pid := by
  induction stores generalizing h with
  | nil => rfl
  | cons s stores ih =>
    obtain ⟨hs, hrest⟩ := List.forall_mem_cons.mp hdecided
    have hown' : ∀ other, .slotPid role other ∈ stores → other = pid :=
      fun other hmem => hown other (List.mem_cons_of_mem s hmem)
    rw [after_cons, ih hrest hown']
    by_cases hlater : .slotPid role pid ∈ stores
    · rw [if_pos hlater, if_pos (List.mem_cons_of_mem s hlater)]
    · rw [if_neg hlater]
      by_cases hnow : s = .slotPid role pid
      · subst hnow
        rw [if_pos List.mem_cons_self]
        exact congrArg RoleSlot.pid (slot_mapSlot_self ..)
      · have hother : ∀ other, s ≠ .slotPid role other := by
          rintro other rfl
          exact hnow (congrArg _ (hown other List.mem_cons_self))
        rw [if_neg fun hmem => (List.mem_cons.mp hmem).elim (fun h => hnow h.symm) hlater]
        exact pid_apply_of_ne hrole hs hother

theorem claim_eq_ok_iff {p : Process} (timeout : Duration) (hrole : role ≠ .auto)
    (ha : h.lock.Available p) :
    (h.claim p role timeout).1 = .ok role ↔ (h.slot role).isLive p = false := by
  rw [claim_of_available role timeout ha, resolve_of_ne_auto hrole]
  cases (h.slot role).isLive p <;> simp

/-! ### The bytes of a store -/

theorem sameOutside_apply (h : Header) (s : Store) :
    SameOutside s.word h.image (s.apply h).image := by
  cases s with
  | owner pid => exact h.sameOutside_lock _
  | reclaim => exact h.sameOutside_lock _
  | slotPid side pid =>
    refine h.sameOutside_mapSlot side ?_
    exact .field (Bytes.ofWord64 (h.slot side).heartbeat) _ (Bytes.ofWord32 (h.slot side).pid)
      (Bytes.ofWord32 pid) rfl rfl rfl
  | slotFlag side flag =>
    refine h.sameOutside_mapSlot side ?_
    exact .field (Bytes.ofWord64 (h.slot side).heartbeat ++ Bytes.ofWord32 (h.slot side).pid) _
      (Bytes.ofWord32 (h.slot side).flag) (Bytes.ofWord32 flag) rfl rfl rfl
  | slotGeneration side =>
    refine h.sameOutside_mapSlot side ?_
    exact .field (Bytes.ofWord64 (h.slot side).heartbeat ++ Bytes.ofWord32 (h.slot side).pid
      ++ Bytes.ofWord32 (h.slot side).flag) _ (Bytes.ofWord32 (h.slot side).generation)
      (Bytes.ofWord32 ((h.slot side).generation + 1)) rfl rfl rfl

theorem sameOutside_after {S : Set ℕ} (hwords : ∀ s ∈ stores, s.word ⊆ S) (h : Header) :
    SameOutside S h.image (after h stores).image := by
  induction stores generalizing h with
  | nil => exact .refl S _
  | cons s stores ih =>
    obtain ⟨hs, hrest⟩ := List.forall_mem_cons.mp hwords
    exact (((sameOutside_apply h s).mono hs).trans (ih hrest _)).mono
      (Set.union_subset Set.Subset.rfl Set.Subset.rfl)

end Header

/-! ## Errands -/

/-- What a process does with its side of a region. -/
inductive Errand where
  | claim (requested : Role)
  | release (side : Role)
  deriving DecidableEq

namespace Errand

def operation : Errand → Layout.Operation
  | .claim requested => .claim requested
  | .release side => .release side

/-- The side whose slot is written, if any is. -/
def side? (p : Process) (h : Header) : Errand → Option Role
  | .claim requested => (h.resolve p requested).toOption
  | .release side => some side

/-- The stores to that slot, done with the lock in hand. -/
def slotStores (p : Process) (h : Header) : Errand → List Header.Store
  | .claim requested =>
    match h.resolve p requested with
    | .ok side => [.slotPid side p.pid, .slotFlag side 1, .slotGeneration side]
    | .error _ => []
  | .release side => if (h.slot side).pid = p.pid then [.slotFlag side 0] else []

/-- The stores of all of it. -/
def stores (p : Process) (h : Header) (errand : Errand) : List Header.Store :=
  lockStores Header p.pid h.lock ++ (errand.slotStores p h ++ [.owner 0])

variable {p q : Process} {h : Header} {l : Layout} {errand : Errand} {pre : List Header.Store}
  {s : Header.Store} {role : Role}

/-- The stores, one after the other, are the operation. -/
theorem perform_eq_after (timeout : Duration) (hdecided : errand ≠ .release .auto)
    (ha : l.header.lock.Available p) :
    (errand.operation.perform p timeout l).2 =
      { l with header := after l.header (errand.stores p l.header) } := by
  cases errand with
  | claim requested =>
    simp only [operation, Layout.Operation.perform, Layout.onHeader,
      Header.claim_of_available requested timeout ha]
    rw [stores, slotStores, after_append, Header.after_locking]
    cases l.header.resolve p requested with
    | error refusal => rfl
    | ok side => cases side <;> rfl
  | release side =>
    have hside : side ≠ .auto := fun hauto => hdecided (congrArg _ hauto)
    simp only [operation, Layout.Operation.perform, Layout.onHeader,
      Header.release_of_available timeout hside ha]
    rw [stores, slotStores, after_append, Header.after_locking]
    have hslot : (l.header.unlocked p).slot side = l.header.slot side := by cases side <;> rfl
    by_cases hown : (l.header.slot side).pid = p.pid
    · have hvacate : ((l.header.unlocked p).slot side).vacateIfOwn p.pid =
          ((l.header.unlocked p).slot side).vacate := if_pos (by rw [hslot]; exact hown)
      rw [Header.mapSlot_congr hvacate, if_pos hown]
      cases side <;> rfl
    · have hkept : ((l.header.unlocked p).slot side).vacateIfOwn p.pid =
          (l.header.unlocked p).slot side := if_neg (by rw [hslot]; exact hown)
      rw [Header.mapSlot_eq_self hkept, if_neg hown]
      rfl

theorem side?_claim_eq_some_iff {requested : Role} :
    (claim requested).side? p h = some role ↔ h.Grants p requested role := by
  rw [← Header.resolve_eq_ok_iff, side?]
  cases h.resolve p requested <;> simp [Except.toOption]

theorem side?_ne_auto (hdecided : errand ≠ .release .auto) : errand.side? p h ≠ some .auto := by
  cases errand with
  | claim requested => exact fun hside => (side?_claim_eq_some_iff.mp hside).free.1 rfl
  | release side => exact fun hside => hdecided (congrArg _ (Option.some.inj hside))

/-- The stores to slots are to the one slot, and a number is only stored where nobody is in the
way. -/
theorem of_mem_slotStores (hs : s ∈ errand.slotStores p h) :
    ∃ side, errand.side? p h = some side ∧ s.side? = some side ∧
      ∀ pid, s = .slotPid side pid → pid = p.pid ∧ (h.slot side).isLive p = false := by
  cases errand with
  | claim requested =>
    rw [slotStores] at hs
    rw [side?]
    cases hresolve : h.resolve p requested with
    | error refusal =>
      rw [hresolve] at hs
      exact absurd hs List.not_mem_nil
    | ok side =>
      have hfree := (Header.resolve_eq_ok_iff.mp hresolve).free.2
      rw [hresolve] at hs
      simp only [List.mem_cons, List.not_mem_nil, or_false] at hs
      refine ⟨side, rfl, ?_, ?_⟩
      · rcases hs with rfl | rfl | rfl <;> rfl
      · rintro pid rfl
        rcases hs with hs | hs | hs
        · cases hs
          exact ⟨rfl, hfree⟩
        · cases hs
        · cases hs
  | release side =>
    rw [slotStores] at hs
    split at hs
    · cases List.mem_singleton.mp hs
      exact ⟨side, rfl, rfl, nofun⟩
    · exact absurd hs List.not_mem_nil

theorem of_mem_stores (hs : s ∈ errand.stores p h) :
    (s = .reclaim ∨ ∃ pid, s = .owner pid ∧ (pid = p.pid ∨ pid = 0)) ∨
      s ∈ errand.slotStores p h := by
  rw [stores, List.mem_append, List.mem_append] at hs
  rcases hs with hlock | hslot | hend
  · rcases eq_of_mem_lockStores hlock with rfl | rfl
    · exact .inl (.inr ⟨_, rfl, .inl rfl⟩)
    · exact .inl (.inl rfl)
  · exact .inr hslot
  · exact .inl (.inr ⟨0, List.mem_singleton.mp hend, .inr rfl⟩)

theorem side?_of_mem_stores (hs : s ∈ errand.stores p h) :
    s.side? = none ∨ s.side? = errand.side? p h := by
  rcases of_mem_stores hs with (rfl | ⟨pid, rfl, -⟩) | hslot
  · exact .inl rfl
  · exact .inl rfl
  · obtain ⟨side, hside, hs, -⟩ := of_mem_slotStores hslot
    exact .inr (hs.trans hside.symm)

theorem of_slotPid_mem_stores {pid : UInt32} (hs : .slotPid role pid ∈ errand.stores p h) :
    pid = p.pid ∧ (h.slot role).isLive p = false := by
  rcases of_mem_stores hs with (hs | ⟨_, hs, -⟩) | hslot
  · cases hs
  · cases hs
  · obtain ⟨side, -, hside, hfree⟩ := of_mem_slotStores hslot
    cases hside
    exact hfree pid rfl

/-! ### Halfway -/

theorem sides_ne_auto (hdecided : errand ≠ .release .auto) (hpre : pre <+: errand.stores p h) :
    ∀ s ∈ pre, s.side? ≠ some .auto := by
  intro s hs hauto
  rcases side?_of_mem_stores (hpre.mem hs) with hside | hside
  · cases hauto.symm.trans hside
  · exact side?_ne_auto hdecided (hside.symm.trans hauto)

/-- Halfway through an errand that has not stored its number in a slot, the slot is as it was,
unless the number was there from the start. -/
theorem slot_after_prefix (hdecided : errand ≠ .release .auto) (hrole : role ≠ .auto)
    (hpre : pre <+: errand.stores p h) (hnone : .slotPid role p.pid ∉ pre) :
    (after h pre).slot role = h.slot role ∨ (h.slot role).pid = p.pid := by
  by_cases htouched : ∃ s ∈ pre, s.side? = some role
  · obtain ⟨s, hs, hside⟩ := htouched
    have hslot : s ∈ errand.slotStores p h := by
      rcases of_mem_stores (hpre.mem hs) with (rfl | ⟨pid, rfl, -⟩) | hslot
      · cases hside
      · cases hside
      · exact hslot
    cases errand with
    | claim requested =>
      -- The number would have been stored first, and after the stores to the lock.
      obtain ⟨side, hclaimed, hs', -⟩ := of_mem_slotStores hslot
      cases hside.symm.trans hs'
      have hresolve := Header.resolve_eq_ok_iff.mpr (side?_claim_eq_some_iff.mp hclaimed)
      rw [stores, slotStores, hresolve] at hpre
      rcases prefix_append_cons hpre with hlock | ⟨rest, rfl, -⟩
      · rcases eq_of_mem_lockStores (hlock.mem hs) with rfl | rfl <;> cases hside
      · exact absurd (List.mem_append_right _ List.mem_cons_self) hnone
    | release side =>
      rw [slotStores] at hslot
      split at hslot
      · next hown =>
        cases List.mem_singleton.mp hslot
        cases hside
        exact .inr hown
      · exact absurd hslot List.not_mem_nil
  · exact .inl (Header.slot_after_of_ne hrole (sides_ne_auto hdecided hpre)
      fun s hs hside => htouched ⟨s, hs, hside⟩)

/-- A slot is live halfway only if it was before, and then the errand has not written to it. -/
theorem isLive_after_prefix (hdecided : errand ≠ .release .auto) (hrole : role ≠ .auto)
    (hdead : q.alive p.pid = false) (hpre : pre <+: errand.stores p h) :
    ((after h pre).slot role).isLive q = true ↔
      (h.slot role).isLive q = true ∧ .slotPid role p.pid ∉ pre := by
  have hpid := Header.pid_after hrole (sides_ne_auto hdecided hpre)
    (fun _ hmem => (of_slotPid_mem_stores (hpre.mem hmem)).1) h
  have hnobody {s : RoleSlot} (hs : s.pid = p.pid) : ¬ s.isLive q = true := by
    rw [RoleSlot.isLive, hs, hdead, Bool.and_false]
    exact Bool.false_ne_true
  by_cases hstored : .slotPid role p.pid ∈ pre
  · rw [if_pos hstored] at hpid
    exact iff_of_false (hnobody hpid) fun h => h.2 hstored
  · rw [if_neg hstored] at hpid
    rcases slot_after_prefix hdecided hrole hpre hstored with hsame | hown
    · rw [hsame]
      exact (and_iff_left hstored).symm
    · exact iff_of_false (hnobody (hpid.trans hown)) fun h => hnobody hown h.1

theorem available_after_prefix (hlock : h.lock.Available q) (hother : p.pid ≠ q.pid)
    (hdead : q.alive p.pid = false) (hpre : pre <+: errand.stores p h) :
    (after h pre).lock.Available q := by
  refine hlock.of_owner hother hdead ((owner_after h pre).imp_right fun hmem => ?_)
  rcases of_mem_stores (hpre.mem hmem) with (hs | ⟨pid, hs, howner⟩) | hslot
  · cases hs
  · cases hs
    exact howner
  · obtain ⟨side, -, hside, -⟩ := of_mem_slotStores hslot
    cases hside

theorem answer_release (timeout : Duration) {side : Role} (hside : side ≠ .auto)
    (ha : l.header.lock.Available p) :
    ((release side).operation.perform p timeout l).1 =
      .ok ((l.header.slot side.peer).isLive p) :=
  congrArg Prod.fst (Header.release_of_available timeout hside ha)

theorem answer_claim (timeout : Duration) {requested : Role} (ha : l.header.lock.Available p) :
    ((claim requested).operation.perform p timeout l).1 =
      (l.header.resolve p requested).mapError (.roleMismatch requested ·.message) := by
  refine (congrArg Prod.fst (Header.claim_of_available requested timeout ha)).trans ?_
  cases l.header.resolve p requested <;> rfl

/-- Every store of an errand is to a word that the whole errand may change. -/
theorem word_subset_changes (timeout : Duration) (hdecided : errand ≠ .release .auto)
    (ha : l.header.lock.Available p) (hs : s ∈ errand.stores p l.header) :
    s.word ⊆ errand.operation.changes (errand.operation.perform p timeout l).1 := by
  have hlock (hs : s = .reclaim ∨ ∃ pid, s = .owner pid ∧ (pid = p.pid ∨ pid = 0)) :
      s.word = Layout.lockWords := by
    rcases hs with rfl | ⟨_, rfl, -⟩ <;> rfl
  cases errand with
  | claim requested =>
    rw [answer_claim timeout ha]
    rcases of_mem_stores hs with hs | hs
    · rw [hlock hs]
      cases l.header.resolve p requested with
      | error refusal => exact Set.Subset.rfl
      | ok side => exact Set.subset_union_left
    · rw [slotStores] at hs
      cases hresolve : l.header.resolve p requested with
      | error refusal =>
        rw [hresolve] at hs
        exact absurd hs List.not_mem_nil
      | ok side =>
        rw [hresolve] at hs
        refine Set.Subset.trans ?_ Set.subset_union_right
        simp only [List.mem_cons, List.not_mem_nil, or_false] at hs
        rcases hs with rfl | rfl | rfl
        · exact Set.image_mono (Set.subset_union_left.trans Set.subset_union_left)
        · exact Set.image_mono (Set.subset_union_right.trans Set.subset_union_left)
        · exact Set.image_mono Set.subset_union_right
  | release side =>
    have hside : side ≠ .auto := fun hauto => hdecided (congrArg _ hauto)
    rw [answer_release timeout hside ha]
    rcases of_mem_stores hs with hs | hs
    · rw [hlock hs]
      exact Set.subset_union_left
    · rw [slotStores] at hs
      split at hs
      · rw [List.mem_singleton.mp hs]
        exact Set.subset_union_right
      · exact absurd hs List.not_mem_nil

/-- A part of an errand changes no byte that the whole may not change. -/
theorem sameOutside_prefix (timeout : Duration) (hdecided : errand ≠ .release .auto)
    (ha : l.header.lock.Available p) (hpre : pre <+: errand.stores p l.header) :
    SameOutside (errand.operation.changes (errand.operation.perform p timeout l).1) l.image
      { l with header := after l.header pre }.image :=
  l.sameOutside_header (Header.sameOutside_after
    (fun _ hs => word_subset_changes timeout hdecided ha (hpre.mem hs)) l.header)

end Errand

/-! ## Crashes -/

/-- A process dies, and later another one is there; meanwhile others may have started and died, but
none of the dead has come back. -/
structure Crash (life life' : UInt32 → Life) (pid next : UInt32) : Prop where
  acting : life pid = .running
  died : life' pid = .dead
  arrived : life' next = .running
  final : ∀ other, life other = .dead → life' other = .dead

variable {life life' : UInt32 → Life} {pid next : UInt32}

/-- The lock of a region is free or was left by a dead process, and another process dies after any
of the stores of taking or giving up a side. Then the next process that comes gets the lock, and it
gets every side that no live process holds, whatever the dead one was about to do with it. A side
that was held before is only free for it because the dead process had begun to take it, and so found
it free. All other bytes of the region, those of the other side and of the mailboxes among them, are
what they were. -/
theorem Errand.claimable_after_crash {l : Layout} {errand : Errand} {pre : List Header.Store}
    (timeout timeout' : Duration)
    (hlock : l.header.lock.owner = 0 ∨ life l.header.lock.owner = .dead)
    (hcrash : Crash life life' pid next) (hdecided : errand ≠ .release .auto)
    (hpre : pre <+: errand.stores (.among life pid) l.header) :
    let before := Process.among life pid
    let later := Process.among life' next
    let whole := errand.operation.perform before timeout l
    let left : Layout := { l with header := after l.header pre }
    whole.2 = { l with header := after l.header (errand.stores before l.header) } ∧
      (left.header.lock.acquire later timeout' = .ok (left.header.lock.taken next)) ∧
      (∀ role, role ≠ .auto → ((left.header.claim later role timeout').1 = .ok role ↔
        (l.header.slot role).isLive later = false ∨ .slotPid role pid ∈ pre)) ∧
      (∀ role, .slotPid role pid ∈ pre → (l.header.slot role).isLive before = false) ∧
      (∀ role, role ≠ .auto → errand.side? before l.header ≠ some role →
        left.header.slot role = l.header.slot role) ∧
      (∀ d, left.mailbox d = l.mailbox d) ∧
      SameOutside (errand.operation.changes whole.1) l.image left.image := by
  intro before later whole left
  have hbefore : l.header.lock.Available before := Lock.available_of_dead hlock hcrash.acting
  have hlater : l.header.lock.Available later :=
    Lock.available_of_dead (hlock.imp_right (hcrash.final _)) hcrash.arrived
  have hdead : later.alive before.pid = false := Process.alive_of_dead hcrash.died next
  have hother : before.pid ≠ later.pid := by
    intro hsame
    have hback : life' pid = .running := (congrArg life' hsame).trans hcrash.arrived
    cases hback.symm.trans hcrash.died
  have havailable := available_after_prefix hlater hother hdead hpre
  refine ⟨perform_eq_after timeout hdecided hbefore, Lock.acquire_of_available timeout' havailable,
    fun role hrole => ?_, fun role hmem => (of_slotPid_mem_stores (hpre.mem hmem)).2,
    fun role hrole hside => ?_, fun d => rfl, sameOutside_prefix timeout hdecided hbefore hpre⟩
  · rw [Header.claim_eq_ok_iff timeout' hrole havailable, ← Bool.not_eq_true,
      isLive_after_prefix hdecided hrole hdead hpre, not_and_or, not_not, Bool.not_eq_true]
    rfl
  · refine Header.slot_after_of_ne hrole (sides_ne_auto hdecided hpre) fun s hs hs' => ?_
    rcases side?_of_mem_stores (hpre.mem hs) with hnone | hsome
    · cases hs'.symm.trans hnone
    · exact hside (hsome.symm.trans hs')

namespace Crash

/-- Seven acts, and six is dead. -/
def era : UInt32 → Life
  | 6 => .dead
  | 7 => .running
  | _ => .unborn

/-- Eight has come, and seven is dead too. -/
def nextEra : UInt32 → Life
  | 6 | 7 => .dead
  | 8 => .running
  | _ => .unborn

/-- A region that six has left locked and claimed. -/
def bequest : Layout :=
  { Layout.zero with header := { Header.zero with lock := ⟨6, 0⟩, slave := ⟨3, 6, 1, 1, 0⟩ } }

/-- Seven takes the lock over and dies when it has put its number in the place of six's; eight gets
the side. -/
theorem claimable_after_crash_bequest :
    Crash era nextEra 7 8 ∧
      [.owner 7, .reclaim, .slotPid .slave 7] <+:
        (Errand.claim .slave).stores (.among era 7) bequest.header ∧
      ((after bequest.header [.owner 7, .reclaim, .slotPid .slave 7]).claim (.among nextEra 8)
        .slave 0).1 = .ok .slave := by
  have hcrash : Crash era nextEra 7 8 := by
    refine ⟨rfl, rfl, rfl, fun other hdead => ?_⟩
    unfold era at hdead
    split at hdead
    · rfl
    · cases hdead
    · cases hdead
  have hpre : [.owner 7, .reclaim, .slotPid .slave 7] <+:
      (Errand.claim .slave).stores (.among era 7) bequest.header :=
    ⟨[.slotFlag .slave 1, .slotGeneration .slave, .owner 0], by decide⟩
  have hclaim := (Errand.claimable_after_crash 0 0 (.inr rfl) hcrash (by decide) hpre).2.2.1
  exact ⟨hcrash, hpre, (hclaim .slave (by decide)).mpr (.inl (by decide))⟩

end Crash

end PeerLink
