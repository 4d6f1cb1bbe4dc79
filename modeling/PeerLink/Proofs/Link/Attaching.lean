import PeerLink.Link.Attach
import PeerLink.Proofs.Link.Claims
import PeerLink.Proofs.Region.Store

/-! # Coming by a region

What attaching leaves behind. Whether it succeeds or not, the regions that were there stay as they
are, and new ones are claimed by nobody.

* `Regions.mapSlot`: a change of one slot of one object, which is all that endpoints ever do to the
  headers of complete regions.
* `Regions.claim_any`, `Regions.release_any`: claims whatever the lock says.
* `Regions.Grows`: more objects than before, all of them new.
* `Regions.Complete`, `Regions.Lacks`: a region that can be attached to, and a name without one.
* `Regions.grows_acquire`: attaching only adds objects.
* `Regions.acquire_of_bound`, `Regions.acquire_of_unbound`: what becomes of attaching under a name
  that has a usable region, and under a free one.
-/

namespace PeerLink
set_option autoImplicit false

namespace Regions

variable {r r' r'' : Regions} {id other : ObjectId} {side role : Role}

/-! ## Headers -/

theorem onHeader_eq {α : Type} (id : ObjectId) (act : Header → α × Header) (r : Regions) :
    r.onHeader id act = ((act (r.layout id).header).1,
      r.mapHeader id fun _ => (act (r.layout id).header).2) := rfl

theorem mapHeader_self (id : ObjectId) (r : Regions) :
    r.mapHeader id (fun _ => (r.layout id).header) = r := by
  have hset : r.objects.set id (r.memory id) = r.objects := by
    rw [memory, List.getD_eq_getElem?_getD]
    by_cases hid : id < r.objects.length
    · rw [List.getElem?_eq_getElem hid, Option.getD_some, List.set_getElem_self]
    · exact List.set_eq_of_length_le (Nat.le_of_not_lt hid)
  exact congrArg (fun objects => { r with objects }) hset

theorem mapHeader_congr {f g : Header → Header}
    (h : f (r.layout id).header = g (r.layout id).header) : r.mapHeader id f = r.mapHeader id g :=
  congrArg (fun header => r.mapHeader id fun _ => header) h

theorem memory_mapHeader (f : Header → Header) (hid : id < r.objects.length) :
    (r.mapHeader id f).memory other =
      if other = id then
        { r.memory id with layout := { r.layout id with header := f (r.layout id).header } }
      else r.memory other := by
  by_cases hsame : other = id
  · rw [if_pos hsame]
    exact (memory_setMemory ..).trans (if_pos ⟨hsame, hid⟩)
  · rw [if_neg hsame]
    exact (memory_setMemory ..).trans (if_neg fun h => hsame h.1)

theorem layout_mapHeader (f : Header → Header) (hid : id < r.objects.length) :
    (r.mapHeader id f).layout id = { r.layout id with header := f (r.layout id).header } := by
  rw [layout, memory_mapHeader f hid, if_pos rfl]

theorem mapHeader_mapHeader (f g : Header → Header) (hid : id < r.objects.length) :
    (r.mapHeader id f).mapHeader id g = r.mapHeader id (g ∘ f) := by
  have hmemory := (memory_mapHeader f hid).trans (if_pos (rfl : id = id))
  have hset (m : Memory) : ((r.mapHeader id f).setMemory id m) = r.setMemory id m :=
    congrArg (Regions.mk · r.names) (List.set_set ..)
  simp only [mapHeader, onLayout] at hmemory hset ⊢
  rw [hset, hmemory]
  rfl

/-! ## Slots -/

/-- The slot of a side of an object. -/
def slot (r : Regions) (id : ObjectId) (role : Role) : RoleSlot := (r.layout id).header.slot role

/-- Changes a slot of an object. -/
def mapSlot (id : ObjectId) (side : Role) (f : RoleSlot → RoleSlot) (r : Regions) : Regions :=
  r.mapHeader id (·.mapSlot side f)

variable {f : RoleSlot → RoleSlot}

theorem slot_mapSlot (f : RoleSlot → RoleSlot) (hid : id < r.objects.length) (hside : side ≠ .auto)
    (hrole : role ≠ .auto) :
    (r.mapSlot id side f).slot other role =
      if other = id ∧ role = side then f (r.slot id side) else r.slot other role := by
  rw [slot, layout, mapSlot, memory_mapHeader _ hid]
  by_cases hsame : other = id
  · subst hsame
    rw [if_pos rfl]
    by_cases hown : role = side
    · subst hown
      rw [if_pos ⟨rfl, rfl⟩]
      exact Header.slot_mapSlot_self ..
    · rw [if_neg fun h => hown h.2]
      exact Header.slot_mapSlot_of_ne f _ hside hrole hown
  · rw [if_neg hsame, if_neg fun h => hsame h.1]
    rfl

/-- What a change of slots and mailboxes leaves alone. -/
structure Keeps (r r' : Regions) : Prop where
  names : r'.names = r.names
  length : r'.objects.length = r.objects.length
  size : ∀ id, (r'.memory id).size = (r.memory id).size
  lock : ∀ id, (r'.layout id).header.lock = (r.layout id).header.lock
  valid : ∀ id, (r'.layout id).header.isValid = (r.layout id).header.isValid
  staleThresholdMs : ∀ id,
    (r'.layout id).header.staleThresholdMs = (r.layout id).header.staleThresholdMs

theorem Keeps.refl (r : Regions) : r.Keeps r :=
  ⟨rfl, rfl, fun _ => rfl, fun _ => rfl, fun _ => rfl, fun _ => rfl⟩

theorem Keeps.trans (h : r.Keeps r') (h' : r'.Keeps r'') : r.Keeps r'' where
  names := h'.names.trans h.names
  length := h'.length.trans h.length
  size id := (h'.size id).trans (h.size id)
  lock id := (h'.lock id).trans (h.lock id)
  valid id := (h'.valid id).trans (h.valid id)
  staleThresholdMs id := (h'.staleThresholdMs id).trans (h.staleThresholdMs id)

theorem Keeps.find?_eq (h : r.Keeps r') (n : String) : r'.find? n = r.find? n :=
  find?_congr h.names n

/-- Changing an object's layout within its header's limits keeps everything else. -/
theorem keeps_setMemory {l : Layout} (hlock : l.header.lock = (r.layout id).header.lock)
    (hvalid : l.header.isValid = (r.layout id).header.isValid)
    (hthreshold : l.header.staleThresholdMs = (r.layout id).header.staleThresholdMs) :
    r.Keeps (r.setMemory id { r.memory id with layout := l }) := by
  have hmemory (other : ObjectId) :
      (r.setMemory id { r.memory id with layout := l }).memory other = r.memory other ∨
        other = id ∧ (r.setMemory id { r.memory id with layout := l }).memory other =
          { r.memory id with layout := l } := by
    rw [memory_setMemory]
    by_cases hsame : other = id ∧ id < r.objects.length
    · rw [if_pos hsame]
      exact .inr ⟨hsame.1, rfl⟩
    · rw [if_neg hsame]
      exact .inl rfl
  have hlayout {α : Type} (f : Layout → α) (hf : f l = f (r.layout id)) (other : ObjectId) :
      f ((r.setMemory id { r.memory id with layout := l }).layout other) = f (r.layout other) := by
    rw [layout, layout]
    rcases hmemory other with h | ⟨rfl, h⟩ <;> rw [h]
    exact hf
  refine ⟨rfl, length_setMemory, fun other => ?_, hlayout (·.header.lock) hlock,
    hlayout (·.header.isValid) hvalid, hlayout (·.header.staleThresholdMs) hthreshold⟩
  rcases hmemory other with h | ⟨rfl, h⟩ <;> rw [h]

theorem keeps_mapSlot (id : ObjectId) (side : Role) (f : RoleSlot → RoleSlot) (r : Regions) :
    r.Keeps (r.mapSlot id side f) :=
  keeps_setMemory (Header.lock_mapSlot ..) (by cases side <;> rfl) (by cases side <;> rfl)

/-- An operation under the lock that leaves the header as it was changes mailboxes at most. -/
theorem header_setMemory {l : Layout} (hheader : l.header = (r.layout id).header)
    (other : ObjectId) :
    ((r.setMemory id { r.memory id with layout := l }).layout other).header =
      (r.layout other).header := by
  rw [layout, memory_setMemory]
  split
  · rename_i hsame
    rw [hsame.1]
    exact hheader
  · rfl

/-! ## Claims -/

/-- A side of an object that is claimed, and beaten for the first time. -/
def take (pid : UInt32) (id : ObjectId) (side : Role) (r : Regions) : Regions :=
  (r.mapSlot id side (RoleSlot.occupy pid)).mapSlot id side RoleSlot.beat

/-- A side of an object that its claimant has given up. -/
def vacate (pid : UInt32) (id : ObjectId) (side : Role) (r : Regions) : Regions :=
  r.mapSlot id side (RoleSlot.vacateIfOwn pid)

theorem keeps_take (pid : UInt32) (id : ObjectId) (side : Role) (r : Regions) :
    r.Keeps (r.take pid id side) :=
  (keeps_mapSlot ..).trans (keeps_mapSlot ..)

theorem keeps_vacate (pid : UInt32) (id : ObjectId) (side : Role) (r : Regions) :
    r.Keeps (r.vacate pid id side) := keeps_mapSlot ..

theorem slot_take (pid : UInt32) (hid : id < r.objects.length) (hside : side ≠ .auto)
    (hrole : role ≠ .auto) :
    (r.take pid id side).slot other role =
      if other = id ∧ role = side then ((r.slot id side).occupy pid).beat
      else r.slot other role := by
  have hid' : id < (r.mapSlot id side (RoleSlot.occupy pid)).objects.length := by
    rwa [(keeps_mapSlot ..).length]
  rw [take, slot_mapSlot _ hid' hside hrole]
  by_cases hsame : other = id ∧ role = side
  · rw [if_pos hsame, if_pos hsame, slot_mapSlot _ hid hside hside, if_pos ⟨rfl, rfl⟩]
  · rw [if_neg hsame, if_neg hsame, slot_mapSlot _ hid hside hrole, if_neg hsame]

theorem claim_cases (p : Process) (requested : Role) (timeout : Duration)
    (hfree : (r.layout id).header.lock.owner = 0) :
    (∃ side, (r.layout id).header.Grants p requested side ∧
      r.onHeader id (·.claim p requested timeout) =
        (.ok side, r.mapSlot id side (RoleSlot.occupy p.pid))) ∨
    (∃ e, (∀ side, ¬ (r.layout id).header.Grants p requested side) ∧
      r.onHeader id (·.claim p requested timeout) = (.error e, r)) := by
  rw [onHeader_eq]
  rcases Header.claim_cases p requested timeout hfree with ⟨side, hg, h⟩ | ⟨e, hg, h⟩
  · rw [h]
    exact .inl ⟨side, hg, rfl⟩
  · rw [h]
    exact .inr ⟨e, hg, congrArg (Prod.mk _) (mapHeader_self id r)⟩

theorem release_of_free (p : Process) (timeout : Duration) (hside : side ≠ .auto)
    (hfree : (r.layout id).header.lock.owner = 0) :
    r.onHeader id (·.release p side timeout) =
      (.ok ((r.slot id side.peer).isLive p), r.vacate p.pid id side) := by
  rw [onHeader_eq, Header.release_of_free timeout hside hfree]
  rfl

/-! ### Under any lock -/

/-- The lock of an object, taken and given up. -/
def unlock (p : Process) (id : ObjectId) (r : Regions) : Regions := r.mapHeader id (·.unlocked p)

theorem length_unlock (p : Process) (id : ObjectId) (r : Regions) :
    (r.unlock p id).objects.length = r.objects.length := length_setMemory

theorem layout_unlock (p : Process) (hid : id < r.objects.length) (other : ObjectId) :
    ((r.unlock p id).layout other).header =
      if other = id then (r.layout id).header.unlocked p else (r.layout other).header := by
  rw [layout, unlock, memory_mapHeader _ hid]
  split <;> rfl

theorem slot_unlock (p : Process) (hid : id < r.objects.length) :
    (r.unlock p id).slot = r.slot := by
  funext other role
  rw [slot, layout_unlock p hid]
  split
  · rename_i hsame
    rw [Header.slot_unlocked, slot, hsame]
  · rfl

theorem unlock_of_free (p : Process) (hfree : (r.layout id).header.lock.owner = 0) :
    r.unlock p id = r :=
  (mapHeader_congr (Header.unlocked_of_free p hfree)).trans (mapHeader_self id r)

/-- A claim is granted or refused; if the lock can be had, refused for its side only. -/
theorem claim_any (p : Process) (requested : Role) (timeout : Duration)
    (hid : id < r.objects.length) :
    (∃ side, (r.layout id).header.lock.Available p ∧
      (r.layout id).header.Grants p requested side ∧
      r.onHeader id (·.claim p requested timeout) =
        (.ok side, (r.unlock p id).mapSlot id side (RoleSlot.occupy p.pid))) ∨
    ∃ e r', (r' = r ∨ (r.layout id).header.lock.Available p ∧ r' = r.unlock p id) ∧
      ((r.layout id).header.lock.Available p →
        (∀ side, ¬ (r.layout id).header.Grants p requested side) ∧
          ∃ reason, e = .roleMismatch requested reason) ∧
      r.onHeader id (·.claim p requested timeout) = (.error e, r') := by
  rw [onHeader_eq]
  by_cases ha : (r.layout id).header.lock.Available p
  · rw [Header.claim_of_available requested timeout ha]
    cases hresolve : (r.layout id).header.resolve p requested with
    | error refusal =>
      refine .inr ⟨_, r.unlock p id, .inr ⟨ha, rfl⟩, fun _ => ⟨?_, _, rfl⟩, rfl⟩
      intro side hg
      rw [Header.resolve_eq_ok_iff.mpr hg] at hresolve
      cases hresolve
    | ok side =>
      refine .inl ⟨side, ha, Header.resolve_eq_ok_iff.mp hresolve, congrArg (Prod.mk _) ?_⟩
      rw [mapSlot, unlock, mapHeader_mapHeader _ _ hid]
      rfl
  · obtain ⟨e, he⟩ := Header.underLock_of_not_available timeout _ ha
    rw [Header.claim, he]
    refine .inr ⟨e, r, .inl rfl, fun h => absurd h ha, ?_⟩
    exact congrArg (Prod.mk _) (mapHeader_self id r)

theorem release_of_available {p : Process} (timeout : Duration) (hside : side ≠ .auto)
    (hid : id < r.objects.length) (ha : (r.layout id).header.lock.Available p) :
    r.onHeader id (·.release p side timeout) =
      (.ok ((r.slot id side.peer).isLive p), (r.unlock p id).vacate p.pid id side) := by
  rw [onHeader_eq, Header.release_of_available timeout hside ha]
  refine congrArg (Prod.mk _) ?_
  rw [vacate, mapSlot, unlock, mapHeader_mapHeader _ _ hid]
  rfl

/-- A side is given up, or the lock cannot be had and nothing happens. -/
theorem release_any (p : Process) (timeout : Duration) (hside : side ≠ .auto)
    (hid : id < r.objects.length) :
    r.onHeader id (·.release p side timeout) =
      (.ok ((r.slot id side.peer).isLive p), (r.unlock p id).vacate p.pid id side) ∨
    ∃ e, r.onHeader id (·.release p side timeout) = (.error e, r) := by
  by_cases ha : (r.layout id).header.lock.Available p
  · exact .inl (release_of_available timeout hside hid ha)
  · obtain ⟨e, he⟩ := Header.underLock_of_not_available timeout _ ha
    rw [onHeader_eq, Header.release, he]
    exact .inr ⟨e, congrArg (Prod.mk _) (mapHeader_self id r)⟩

/-! ## Growth -/

/-- The lock is free, and nobody has claimed a side or beaten on it. -/
def Vacant (h : Header) : Prop :=
  h.lock.owner = 0 ∧ ∀ role, (h.slot role).isClaimed = false ∧ (h.slot role).heartbeat = 0

/-- More objects than before, none of them claimed; the old ones are as they were. -/
structure Grows (r r' : Regions) : Prop where
  length : r.objects.length ≤ r'.objects.length
  kept : ∀ id < r.objects.length, r'.memory id = r.memory id
  fresh : ∀ id ≥ r.objects.length, Vacant (r'.layout id).header

theorem vacant_zero : Vacant Header.zero := ⟨rfl, fun role => by cases role <;> exact ⟨rfl, rfl⟩⟩

theorem vacant_of_length_le (h : r.objects.length ≤ id) : Vacant (r.layout id).header := by
  rw [layout, memory_of_length_le h]
  exact vacant_zero

theorem grows_of_objects (h : r'.objects = r.objects) : r.Grows r' where
  length := Nat.le_of_eq (congrArg List.length h.symm)
  kept id _ := by rw [memory, memory, h]
  fresh id hid := vacant_of_length_le (by rwa [h])

theorem Grows.trans (h : r.Grows r') (h' : r'.Grows r'') : r.Grows r'' where
  length := Nat.le_trans h.length h'.length
  kept id hid := (h'.kept id (Nat.lt_of_lt_of_le hid h.length)).trans (h.kept id hid)
  fresh id hid := by
    by_cases hold : id < r'.objects.length
    · rw [layout, h'.kept id hold]
      exact h.fresh id hid
    · exact h'.fresh id (Nat.le_of_not_lt hold)

theorem Grows.layout_eq (h : r.Grows r') (hid : id < r.objects.length) :
    r'.layout id = r.layout id := by
  rw [layout, h.kept id hid, layout]

theorem Grows.free (h : r.Grows r') (hfree : ∀ id, (r.layout id).header.lock.owner = 0)
    (id : ObjectId) : (r'.layout id).header.lock.owner = 0 := by
  by_cases hid : id < r.objects.length
  · rw [h.layout_eq hid]
    exact hfree id
  · exact (h.fresh id (Nat.le_of_not_lt hid)).1

/-- With all locks free it leaves no trace to take one and give it up. -/
theorem Grows.unlock_eq (h : r.Grows r') (hfree : ∀ id, (r.layout id).header.lock.owner = 0)
    (p : Process) (id : ObjectId) : r'.unlock p id = r' :=
  unlock_of_free p (h.free hfree id)

theorem Grows.eq_of_left {p : Process} {left : Regions} (h : r.Grows r')
    (hfree : ∀ id, (r.layout id).header.lock.owner = 0)
    (hleft : left = r' ∨ ∃ id < r'.objects.length, left = r'.unlock p id) : left = r' := by
  rcases hleft with hsame | ⟨id, -, hunlocked⟩
  · exact hsame
  · exact hunlocked.trans (h.unlock_eq hfree p id)

theorem grows_allocate {m : Memory} (hm : Vacant m.layout.header) (r : Regions) :
    r.Grows (r.allocate m).2 where
  length := by simp
  kept id hid := by rw [memory_allocate, if_neg (Nat.ne_of_lt hid)]
  fresh id hid := by
    rw [layout, memory_allocate]
    split
    · exact hm
    · exact vacant_of_length_le hid

theorem grows_create (k : Kernel) (name : String) (size mode : Nat) (r : Regions) :
    r.Grows (r.create k name size mode).2 := by
  rcases create_cases k name size mode r with ⟨e, h⟩ | ⟨e, h⟩ | ⟨n, -, -, h⟩
  · rw [h]
    exact grows_of_objects rfl
  · rw [h]
    exact grows_allocate vacant_zero r
  · rw [h]
    exact (grows_allocate vacant_zero r).trans (grows_of_objects rfl)

theorem grows_unlink (name : String) (r : Regions) : r.Grows (r.unlink name).2 :=
  grows_of_objects (objects_unlink name r)

end Regions

/-! ## Complete regions -/

/-- A header that was filled in, with nobody there yet. -/
def Header.published (staleThreshold : Duration) : Header :=
  { Header.zero with
    magic := Layout.magic
    version := Layout.version
    slotCapacity := UInt32.ofNat Mailbox.capacity
    staleThresholdMs := recordedThreshold staleThreshold }

/-- A complete region in which nothing has happened. -/
def Memory.published (staleThreshold : Duration) : Memory :=
  ⟨Layout.size, { Layout.zero with header := .published staleThreshold }, []⟩

theorem Header.isValid_published (staleThreshold : Duration) :
    (Header.published staleThreshold).isValid = true := by
  simp [isValid, published, Mailbox.capacity]

/-- Who makes a region gets its master's side. -/
theorem Header.grants_published (p : Process) {requested : Role} (h : requested ≠ .slave)
    (staleThreshold : Duration) : (published staleThreshold).Grants p requested .master := by
  cases requested with
  | master => exact ⟨rfl, rfl⟩
  | auto => exact .inl ⟨rfl, rfl⟩
  | slave => exact absurd rfl h

namespace Regions

variable {r r' : Regions} {p : Process} {k : Kernel} {c : EndpointConfig} {id : ObjectId}
  {n name : String} {handle : RegionHandle}

theorem vacant_published (staleThreshold : Duration) : Vacant (.published staleThreshold) :=
  ⟨rfl, fun role => by cases role <;> exact ⟨rfl, rfl⟩⟩

/-- A new complete region under a name. -/
def found (n : String) (staleThreshold : Duration) (r : Regions) : Regions :=
  (r.allocate (.published staleThreshold)).2.bind n r.objects.length

theorem memory_found (n : String) (staleThreshold : Duration) (r : Regions) (id : ObjectId) :
    (r.found n staleThreshold).memory id =
      if id = r.objects.length then .published staleThreshold else r.memory id :=
  memory_allocate _ r id

theorem find?_found (staleThreshold : Duration) (hfind : r.find? n = none) (name : String) :
    (r.found n staleThreshold).find? name =
      if name = n then some r.objects.length else r.find? name :=
  find?_bind n r.objects.length (r.allocate (.published staleThreshold)).2 name hfind

theorem length_found {staleThreshold : Duration} :
    (r.found n staleThreshold).objects.length = r.objects.length + 1 := length_allocate

theorem grows_found (n : String) (staleThreshold : Duration) (r : Regions) :
    r.Grows (r.found n staleThreshold) :=
  (grows_allocate (vacant_published staleThreshold) r).trans (grows_of_objects rfl)

theorem create_publish (staleThreshold : Duration) (n : String) (r : Regions) :
    ((r.allocate (.zero Layout.size)).2.bind n r.objects.length).onHeader r.objects.length
        (·.publish p staleThreshold) =
      (.ok (), r.found n staleThreshold) := by
  have hmemory : ((r.allocate (.zero Layout.size)).2.bind n r.objects.length).memory
      r.objects.length = .zero Layout.size := (memory_allocate ..).trans (if_pos rfl)
  have hset : (r.objects ++ [Memory.zero Layout.size]).set r.objects.length
      (.published staleThreshold) = r.objects ++ [.published staleThreshold] := by
    rw [List.set_append_right _ _ (Nat.le_refl _), Nat.sub_self, List.set_cons_zero]
  simp only [onHeader, onLayout, Layout.onHeader, hmemory]
  refine congrArg (Prod.mk _) ?_
  exact congrArg (Regions.mk · (r.names ++ [(n, r.objects.length)])) hset

/-- A complete region is made under a free name; or none is, and then at most an object without a
name is left. -/
theorem createLayout_cases (k : Kernel) (p : Process) (name : String) (staleThreshold : Duration)
    (r : Regions) :
    (∃ e r', r.Grows r' ∧ r'.names = r.names ∧
      r.createLayout k p name staleThreshold = (.error e, r')) ∨
    ∃ n, RegionName.object name = .ok n ∧ r.find? n = none ∧
      r.createLayout k p name staleThreshold =
        (.ok ⟨name, n, r.objects.length, Layout.size, true⟩, r.found n staleThreshold) := by
  rw [createLayout]
  rcases create_cases k name Layout.size defaultMode r with ⟨e, h⟩ | ⟨e, h⟩ | ⟨n, hname, hfind, h⟩
  · rw [h]
    exact .inl ⟨_, r, grows_of_objects rfl, rfl, rfl⟩
  · rw [h]
    exact .inl ⟨_, _, grows_allocate vacant_zero r, rfl, rfl⟩
  · rw [h]
    dsimp only
    rw [create_publish]
    exact .inr ⟨n, hname, hfind, rfl⟩

/-! ## Attaching -/

/-- A region that can be attached to. -/
def Complete (r : Regions) (id : ObjectId) : Prop :=
  Layout.size ≤ (r.memory id).size ∧ (r.layout id).header.isValid = true

instance (r : Regions) (id : ObjectId) : Decidable (r.Complete id) :=
  inferInstanceAs (Decidable (_ ∧ _))

/-- Nothing that can be attached to stands under a name. -/
def Lacks (r : Regions) (n : String) : Prop := ∀ id, r.find? n = some id → ¬ r.Complete id

theorem complete_or_lacks (r : Regions) (n : String) :
    (∃ id, r.find? n = some id ∧ r.Complete id) ∨ r.Lacks n := by
  by_cases h : ∃ id, r.find? n = some id ∧ r.Complete id
  · exact .inl h
  · exact .inr fun id hfind hcomplete => h ⟨id, hfind, hcomplete⟩

theorem lt_length_of_size (hsize : Layout.size ≤ (r.memory id).size) : id < r.objects.length := by
  refine Nat.lt_of_not_le fun hle => ?_
  rw [memory_of_length_le hle] at hsize
  exact absurd hsize (by decide)

theorem Complete.lt_length (h : r.Complete id) : id < r.objects.length := lt_length_of_size h.1

theorem lacks_of_find?_eq_none (hfind : r.find? n = none) : r.Lacks n := by
  intro id hbound
  cases hfind.symm.trans hbound

theorem attachLayout_of_find? (hname : RegionName.object name = .ok n) (hfind : r.find? n = some id)
    (hsize : Layout.size ≤ (r.memory id).size) (hvalid : (r.layout id).header.isValid = true) :
    r.attachLayout name = .ok ⟨name, n, id, (r.memory id).size, false⟩ := by
  rw [attachLayout, attach_of_find? _ hname hfind hsize]
  simp only [Header.validate, hvalid, if_true]

theorem attachLayout_of_find?_eq_none (hname : RegionName.object name = .ok n)
    (hfind : r.find? n = none) :
    r.attachLayout name = .error (.region (.attach n (.system .noEntry))) := by
  rw [attachLayout, attach_of_find?_eq_none _ hname hfind]

theorem attachLayout_of_complete (hname : RegionName.object name = .ok n)
    (hfind : r.find? n = some id) (hcomplete : r.Complete id) :
    ∃ handle, handle.object = id ∧ r.attachLayout name = .ok handle :=
  ⟨_, rfl, attachLayout_of_find? hname hfind hcomplete.1 hcomplete.2⟩

/-- A region that cannot be attached to is there, but unusable. -/
theorem attachLayout_of_not_complete (hname : RegionName.object name = .ok n)
    (hfind : r.find? n = some id) (hbroken : ¬ r.Complete id) :
    ∃ e, e.isNotFound = false ∧ e.isUnusable = true ∧ r.attachLayout name = .error e := by
  rw [attachLayout]
  by_cases hsize : Layout.size ≤ (r.memory id).size
  · rw [attach_of_find? _ hname hfind hsize]
    have hinvalid : (r.layout id).header.isValid = false :=
      Bool.eq_false_iff.mpr fun hvalid => hbroken ⟨hsize, hvalid⟩
    refine ⟨.incompatibleRegion (r.layout id).header.magic (r.layout id).header.version,
      rfl, rfl, ?_⟩
    simp only [Header.validate, hinvalid]
    rfl
  · rw [attach, hname]
    dsimp only
    rw [hfind]
    dsimp only
    rw [if_pos (Nat.lt_of_not_le hsize)]
    exact ⟨_, rfl, rfl, rfl⟩

theorem eq_of_attachLayout (h : r.attachLayout name = .ok handle) :
    RegionName.object name = .ok handle.objectName ∧
      r.find? handle.objectName = some handle.object ∧ handle.object < r.objects.length ∧
      handle.created = false := by
  rw [attachLayout] at h
  cases hattach : r.attach name Layout.size with
  | error e =>
    rw [hattach] at h
    cases h
  | ok found =>
    rw [hattach] at h
    dsimp only at h
    cases hvalid : (r.layout found.object).header.validate with
    | error e =>
      rw [hvalid] at h
      cases h
    | ok u =>
      rw [hvalid] at h
      cases h
      obtain ⟨hname, hfind, hsize, hcreated⟩ := eq_of_attach hattach
      exact ⟨hname, hfind, lt_length_of_size hsize, hcreated⟩

end Regions

/-- The handle has an object, and an object that it made is a new region of these settings. -/
structure RegionHandle.Suits (c : EndpointConfig) (r : Regions) (handle : RegionHandle) : Prop where
  mapped : handle.object < r.objects.length
  made : handle.created = true →
    (r.layout handle.object).header = .published c.staleThreshold

theorem Regions.suits_of_attachLayout {r : Regions} {name : String} {handle : RegionHandle}
    (c : EndpointConfig) (h : r.attachLayout name = .ok handle) : handle.Suits c r := by
  obtain ⟨-, -, hmapped, hcreated⟩ := eq_of_attachLayout h
  exact ⟨hmapped, fun hmade => absurd (hcreated.symm.trans hmade) Bool.false_ne_true⟩

theorem Regions.header_found (n : String) (staleThreshold : Duration) (r : Regions) :
    ((r.found n staleThreshold).layout r.objects.length).header = .published staleThreshold := by
  rw [layout, memory_found, if_pos rfl]
  rfl

namespace Approach

variable {r : Regions} {k : Kernel} {p : Process} {c : EndpointConfig} {n : String}

/-- Where an attacher is attached, its handle suits it. -/
def Sound (c : EndpointConfig) (a : Approach) (r : Regions) : Prop :=
  ∀ handle, a = .attached handle → handle.Suits c r

theorem step_look_of_slave (hname : RegionName.object c.name = .ok n) (hrole : c.role = .slave)
    (hlacks : r.Lacks n) (left : Nat) (last : Option LinkError) :
    ∃ e, (look (left + 1) last).step k p c r = (.refused e, r) := by
  rw [step]
  rcases hfind : r.find? n with _ | id
  · rw [Regions.attachLayout_of_find?_eq_none hname hfind]
    exact ⟨_, if_pos hrole⟩
  · obtain ⟨e, -, -, h⟩ := Regions.attachLayout_of_not_complete hname hfind (hlacks id hfind)
    rw [h]
    exact ⟨e, if_pos hrole⟩

/-- What cannot be used is in the way of a new region. -/
theorem step_look_of_lacks (hname : RegionName.object c.name = .ok n) (hrole : c.role ≠ .slave)
    (hlacks : r.Lacks n) (left : Nat) (last : Option LinkError) :
    (look (left + 1) last).step k p c r =
      (if r.find? n = none then .make left else .discard left, r) := by
  rw [step]
  rcases hfind : r.find? n with _ | id
  · rw [Regions.attachLayout_of_find?_eq_none hname hfind]
    exact if_neg hrole
  · obtain ⟨e, hfound, hunusable, h⟩ :=
      Regions.attachLayout_of_not_complete hname hfind (hlacks id hfind)
    rw [h]
    dsimp only
    rw [if_neg hrole, hfound, hunusable]
    rfl

theorem step_discard (hname : RegionName.object c.name = .ok n) (left : Nat) :
    (discard left).step k p c r = (.make left, r.free n) := by
  obtain ⟨hfreed, found, hfound⟩ := r.unlink_of_name hname
  rw [step]
  generalize r.unlink c.name = unlinked at hfreed hfound
  obtain ⟨result, r'⟩ := unlinked
  subst hfreed hfound
  rfl

theorem grows_step (k : Kernel) (p : Process) {a : Approach} (h : a.Sound c r) :
    r.Grows (a.step k p c r).2 ∧ (a.step k p c r).1.Sound c (a.step k p c r).2 := by
  have hsame {a : Approach} (ha : a.Sound c r) : r.Grows r ∧ a.Sound c r :=
    ⟨Regions.grows_of_objects rfl, ha⟩
  cases a with
  | look left last =>
    cases left with
    | zero => exact hsame nofun
    | succ left =>
      rw [step]
      cases hattach : r.attachLayout c.name with
      | ok handle =>
        refine hsame fun found hfound => ?_
        cases hfound
        exact Regions.suits_of_attachLayout c hattach
      | error e =>
        dsimp only
        split
        · exact hsame nofun
        · split
          · exact hsame nofun
          · split <;> exact hsame nofun
  | discard left =>
    have hgrows := Regions.grows_unlink c.name r
    rw [step]
    rcases hunlink : r.unlink c.name with ⟨_ | _, r'⟩
    all_goals
      rw [hunlink] at hgrows
      exact ⟨hgrows, nofun⟩
  | make left =>
    rw [step]
    rcases Regions.createLayout_cases k p c.name c.staleThreshold r with
      ⟨e, r', hgrows, -, h⟩ | ⟨n, -, -, h⟩
    · rw [h]
      dsimp only
      split <;> exact ⟨hgrows, nofun⟩
    · rw [h]
      refine ⟨Regions.grows_found n _ r, fun found hfound => ?_⟩
      cases hfound
      refine ⟨?_, fun _ => Regions.header_found n c.staleThreshold r⟩
      rw [Regions.length_found]
      exact Nat.lt_succ_self _
  | attached handle => exact hsame h
  | refused e => exact hsame h

theorem run_attached (handle : RegionHandle) (steps : Nat) (r : Regions) :
    (attached handle).run k p c steps r = (.ok handle, r) := by
  cases steps <;> rfl

theorem run_succ (a : Approach) (steps : Nat) (r : Regions) :
    a.run k p c (steps + 1) r = (a.step k p c r).1.run k p c steps (a.step k p c r).2 := by
  cases a with
  | look | discard | make => rfl
  | attached handle => exact (run_attached handle steps r).symm
  | refused e => cases steps <;> rfl

theorem grows_run (k : Kernel) (p : Process) (steps : Nat) {a : Approach} (h : a.Sound c r) :
    r.Grows (a.run k p c steps r).2 ∧
      ∀ handle, (a.run k p c steps r).1 = .ok handle →
        handle.Suits c (a.run k p c steps r).2 := by
  induction steps generalizing a r with
  | zero =>
    have hgrows : r.Grows r := Regions.grows_of_objects rfl
    cases a with
    | attached handle =>
      refine ⟨hgrows, fun found hfound => ?_⟩
      cases hfound
      exact h handle rfl
    | look | discard | make | refused => exact ⟨hgrows, nofun⟩
  | succ steps ih =>
    have hstep := grows_step k p h
    have hrest := ih hstep.2
    rw [run_succ]
    exact ⟨hstep.1.trans hrest.1, hrest.2⟩

/-! ### Under a free name -/

/-- Not attached, and with no region in the way. -/
inductive Seeking : Approach → Prop where
  | look (left : Nat) (last : Option LinkError) : Seeking (.look left last)
  | make (left : Nat) : Seeking (.make left)
  | refused (e : LinkError) : Seeking (.refused e)

/-- One step leaves the names alone, or makes a complete region. -/
theorem step_of_unbound (k : Kernel) (p : Process) (hname : RegionName.object c.name = .ok n)
    (hrole : c.role ≠ .slave) (hfind : r.find? n = none) {a : Approach} (ha : a.Seeking) :
    (∃ a' r', a.step k p c r = (a', r') ∧ a'.Seeking ∧ r.Grows r' ∧ r'.names = r.names) ∨
      a.step k p c r =
        (.attached ⟨c.name, n, r.objects.length, Layout.size, true⟩,
          r.found n c.staleThreshold) := by
  have hgrows : r.Grows r := Regions.grows_of_objects rfl
  cases ha with
  | look left last =>
    cases left with
    | zero => exact .inl ⟨_, _, rfl, .refused _, hgrows, rfl⟩
    | succ left =>
      have hlacks := Regions.lacks_of_find?_eq_none hfind
      have hstep : (Approach.look (left + 1) last).step k p c r = (.make left, r) := by
        rw [step_look_of_lacks hname hrole hlacks, if_pos hfind]
      exact .inl ⟨_, _, hstep, .make left, hgrows, rfl⟩
  | make left =>
    rw [step]
    rcases Regions.createLayout_cases k p c.name c.staleThreshold r with
      ⟨e, r', hgrows, hnames, h⟩ | ⟨found, hfound, -, h⟩
    · rw [h]
      dsimp only
      split
      · exact .inl ⟨_, _, rfl, .look _ _, hgrows, hnames⟩
      · exact .inl ⟨_, _, rfl, .refused _, hgrows, hnames⟩
    · rw [h]
      rw [hname] at hfound
      cases hfound
      exact .inr rfl
  | refused e => exact .inl ⟨_, _, rfl, .refused e, hgrows, rfl⟩

theorem run_of_unbound (k : Kernel) (p : Process) (hname : RegionName.object c.name = .ok n)
    (hrole : c.role ≠ .slave) (steps : Nat) {a : Approach} (ha : a.Seeking)
    (hfind : r.find? n = none) :
    ∃ r', r.Grows r' ∧ r'.names = r.names ∧
      ((∃ e, a.run k p c steps r = (.error e, r')) ∨
        a.run k p c steps r =
          (.ok ⟨c.name, n, r'.objects.length, Layout.size, true⟩,
            r'.found n c.staleThreshold)) := by
  induction steps generalizing a r with
  | zero =>
    have hgrows : r.Grows r := Regions.grows_of_objects rfl
    cases ha <;> exact ⟨r, hgrows, rfl, .inl ⟨_, rfl⟩⟩
  | succ steps ih =>
    rw [run_succ]
    rcases step_of_unbound k p hname hrole hfind ha with
      ⟨a', r₁, hstep, ha', hgrows, hnames⟩ | hstep
    · rw [hstep]
      obtain ⟨r', hgrows', hnames', houtcome⟩ :=
        ih ha' ((Regions.find?_congr hnames n).trans hfind)
      exact ⟨r', hgrows.trans hgrows', hnames'.trans hnames, houtcome⟩
    · rw [hstep]
      exact ⟨r, Regions.grows_of_objects rfl, rfl, .inr (run_attached ..)⟩

end Approach

namespace Regions

variable {r r' : Regions} {p : Process} {k : Kernel} {c : EndpointConfig} {id : ObjectId}
  {n : String} {handle : RegionHandle}

/-- Attaching only adds objects. -/
theorem grows_acquire (k : Kernel) (p : Process) (c : EndpointConfig) (r : Regions) :
    r.Grows (r.acquire k p c).2 ∧
      ∀ handle, (r.acquire k p c).1 = .ok handle → handle.Suits c (r.acquire k p c).2 :=
  Approach.grows_run k p _ nofun

theorem acquire_of_bound (k : Kernel) (p : Process) (hname : RegionName.object c.name = .ok n)
    (hfind : r.find? n = some id) (hsize : Layout.size ≤ (r.memory id).size)
    (hvalid : (r.layout id).header.isValid = true) :
    r.acquire k p c = (.ok ⟨c.name, n, id, (r.memory id).size, false⟩, r) := by
  have hstep : Approach.start.step k p c r =
      (.attached ⟨c.name, n, id, (r.memory id).size, false⟩, r) := by
    rw [Approach.start, Approach.looks, Approach.step,
      attachLayout_of_find? hname hfind hsize hvalid]
  rw [acquire, Approach.maxSteps, Approach.run_succ, hstep, Approach.run_attached]

theorem acquire_of_lacks_slave (k : Kernel) (p : Process)
    (hname : RegionName.object c.name = .ok n) (hrole : c.role = .slave) (hlacks : r.Lacks n) :
    ∃ e, r.acquire k p c = (.error e, r) := by
  obtain ⟨e, h⟩ := Approach.step_look_of_slave (k := k) (p := p) hname hrole hlacks 2 none
  rw [acquire, Approach.maxSteps, Approach.run_succ, Approach.start, Approach.looks, h]
  exact ⟨e, rfl⟩

/-- Under a free name a slave is refused; the others make a region, or leave the names alone. -/
theorem acquire_of_unbound (k : Kernel) (p : Process) (hname : RegionName.object c.name = .ok n)
    (hfind : r.find? n = none) :
    ∃ r', r.Grows r' ∧ r'.names = r.names ∧
      ((∃ e, r.acquire k p c = (.error e, r')) ∨
        c.role ≠ .slave ∧ r.acquire k p c =
          (.ok ⟨c.name, n, r'.objects.length, Layout.size, true⟩,
            r'.found n c.staleThreshold)) := by
  by_cases hrole : c.role = .slave
  · have hlacks := lacks_of_find?_eq_none hfind
    exact ⟨r, grows_of_objects rfl, rfl, .inl (acquire_of_lacks_slave k p hname hrole hlacks)⟩
  · obtain ⟨r', hgrows, hnames, houtcome⟩ :=
      Approach.run_of_unbound k p hname hrole Approach.maxSteps (.look Approach.looks none) hfind
    exact ⟨r', hgrows, hnames, houtcome.imp_right fun h => ⟨hrole, h⟩⟩

end Regions

end PeerLink
