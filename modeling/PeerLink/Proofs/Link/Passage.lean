import PeerLink.Proofs.Link.Crowd

/-! # What one step of a call can do

* `Regions.Stays`: a change that concerns no more than slots and locks.
* `Kernel.Willing`, `Regions.createLayout_of_find?_eq_none`: creations.
* `Gathering.Passage`, `Gathering.passage_next`: all that a step of a call can do.
-/

namespace PeerLink
set_option autoImplicit false

namespace Regions

variable {r r' r'' : Regions} {id : ObjectId}

/-- What a change of slots and locks leaves alone. A lock can only become free. -/
structure Stays (r r' : Regions) : Prop where
  names : r'.names = r.names
  length : r'.objects.length = r.objects.length
  size : ∀ id, (r'.memory id).size = (r.memory id).size
  valid : ∀ id, (r'.layout id).header.isValid = (r.layout id).header.isValid
  lock : ∀ id, (r'.layout id).header.lock = (r.layout id).header.lock ∨
    (r'.layout id).header.lock.owner = 0

theorem Keeps.stays (h : r.Keeps r') : r.Stays r' :=
  ⟨h.names, h.length, h.size, h.valid, fun id => .inl (h.lock id)⟩

theorem Stays.refl (r : Regions) : r.Stays r := (Keeps.refl r).stays

theorem Stays.trans (h : r.Stays r') (h' : r'.Stays r'') : r.Stays r'' where
  names := h'.names.trans h.names
  length := h'.length.trans h.length
  size id := (h'.size id).trans (h.size id)
  valid id := (h'.valid id).trans (h.valid id)
  lock id := by
    rcases h'.lock id with hlock | hfree
    · rw [hlock]
      exact h.lock id
    · exact .inr hfree

theorem Stays.find?_eq (h : r.Stays r') (n : String) : r'.find? n = r.find? n :=
  find?_congr h.names n

theorem Stays.complete_iff (h : r.Stays r') (id : ObjectId) : r'.Complete id ↔ r.Complete id := by
  rw [Complete, Complete, h.size, h.valid]

theorem stays_unlock (p : Process) (hid : id < r.objects.length) : r.Stays (r.unlock p id) where
  names := rfl
  length := length_setMemory
  size other := by
    rw [unlock, memory_mapHeader _ hid]
    split
    · rename_i hsame
      rw [hsame]
    · rfl
  valid other := by
    rw [layout_unlock p hid]
    split
    · rename_i hsame
      rw [hsame]
      rfl
    · rfl
  lock other := by
    rw [layout_unlock p hid]
    split
    · exact .inr rfl
    · exact .inl rfl

end Regions

/-! ## Creations -/

/-- The system refuses no call that the creation of a region takes. -/
def Kernel.Willing (k : Kernel) : Prop :=
  k.making = none ∧ Regions.refusal? k Regions.defaultMode Layout.size = none

namespace Regions

variable {r r' : Regions} {p : Process} {k : Kernel} {id : ObjectId} {n name : String}

theorem createLayout_of_find? (k : Kernel) (p : Process) (staleThreshold : Duration)
    (hname : RegionName.object name = .ok n) (hfind : r.find? n = some id) :
    ∃ e, e.isAlreadyExists = true ∧ r.createLayout k p name staleThreshold = (.error e, r) := by
  rw [createLayout, create, hname]
  dsimp only
  rw [if_neg (by decide), hfind]
  exact ⟨_, rfl, rfl⟩

theorem willing_of_create {handle : RegionHandle}
    (h : (r.create k name Layout.size defaultMode).1 = .ok handle) : k.Willing := by
  rw [create] at h
  cases hname : RegionName.object name with
  | error e =>
    rw [hname] at h
    cases h
  | ok n =>
    rw [hname] at h
    dsimp only at h
    rw [if_neg (by decide)] at h
    rcases hfind : r.find? n with _ | id
    · cases hmaking : k.making with
      | some errno =>
        rw [hfind, hmaking] at h
        cases h
      | none =>
        cases hrefusal : refusal? k defaultMode Layout.size with
        | some errno =>
          rw [hfind, hmaking, hrefusal] at h
          cases h
        | none => exact ⟨hmaking, hrefusal⟩
    · rw [hfind] at h
      cases h

theorem create_of_willing (hwilling : k.Willing) (hname : RegionName.object name = .ok n)
    (hfind : r.find? n = none) :
    r.create k name Layout.size defaultMode =
      (.ok ⟨name, n, r.objects.length, Layout.size, true⟩,
        (r.allocate (.zero Layout.size)).2.bind n r.objects.length) := by
  rw [create, hname]
  dsimp only
  rw [if_neg (by decide), hfind, hwilling.1, hwilling.2]
  rfl

/-- Under a free name a complete region is made, unless the system will not have it. -/
theorem createLayout_of_find?_eq_none (k : Kernel) (p : Process) (staleThreshold : Duration)
    (hname : RegionName.object name = .ok n) (hfind : r.find? n = none) :
    (k.Willing ∧ r.createLayout k p name staleThreshold =
      (.ok ⟨name, n, r.objects.length, Layout.size, true⟩, r.found n staleThreshold)) ∨
    (¬ k.Willing ∧ ∃ e r', r.Grows r' ∧ r'.names = r.names ∧
      (∀ id, r.objects.length ≤ id → ¬ r'.Complete id) ∧
      r.createLayout k p name staleThreshold = (.error e, r')) := by
  rw [createLayout]
  by_cases hwilling : k.Willing
  · rw [create_of_willing hwilling hname hfind]
    dsimp only
    rw [create_publish]
    exact .inl ⟨hwilling, rfl⟩
  · refine .inr ⟨hwilling, ?_⟩
    rcases create_cases k name Layout.size defaultMode r with ⟨e, h⟩ | ⟨e, h⟩ | ⟨_, -, -, h⟩
    · rw [h]
      exact ⟨_, r, grows_of_objects rfl, rfl, fun id hid hnew => absurd hnew.lt_length
        (Nat.not_lt.mpr hid), rfl⟩
    · rw [h]
      refine ⟨_, _, grows_allocate vacant_zero r, rfl, fun id hid hnew => ?_, rfl⟩
      -- The object that is left has no header, and there is nothing behind it.
      have hlast := hnew.lt_length
      have hvalid := hnew.2
      rw [length_allocate] at hlast
      rw [layout, memory_allocate, if_pos (Nat.le_antisymm (Nat.le_of_lt_succ hlast) hid)] at hvalid
      exact absurd hvalid (by decide)
    · exact absurd (willing_of_create (congrArg Prod.fst h)) hwilling

theorem complete_found (n : String) (staleThreshold : Duration) (r : Regions) :
    (r.found n staleThreshold).Complete r.objects.length := by
  rw [Complete, layout, memory_found, if_pos rfl]
  exact ⟨Nat.le_refl _, Header.isValid_published staleThreshold⟩

theorem Grows.complete_iff (h : r.Grows r') (hid : id < r.objects.length) :
    r'.Complete id ↔ r.Complete id := by
  rw [Complete, Complete, layout, layout, h.kept id hid]

end Regions

/-! ## Views of a stage -/

namespace CallStage

/-- The region that a call has mapped. -/
def mapped : CallStage → Option ObjectId
  | .approaching (.attached handle) => some handle.object
  | .opened e | .releasing e | .checking e | .removing e => some e.region
  | _ => none

/-- The side of a region that an endpoint of the call holds. -/
def holds : CallStage → Option (ObjectId × Role)
  | .opened e | .releasing e => some (e.region, e.role)
  | _ => none

/-- The side that a call has opened an endpoint on. -/
def seat : CallStage → Option Role
  | .opened e => some e.role
  | _ => none

/-- The endpoint that a call is closing. -/
def closing : CallStage → Option Endpoint
  | .releasing e | .checking e | .removing e => some e
  | _ => none

theorem ne_releasing {s : CallStage} (h : s.closing = none) (e : Endpoint) : s ≠ .releasing e := by
  rintro rfl
  cases h

theorem ne_removing {s : CallStage} (h : s.closing = none) (e : Endpoint) : s ≠ .removing e := by
  rintro rfl
  cases h

theorem eq_opened_of_seat {s : CallStage} {side : Role} (h : s.seat = some side) :
    ∃ e, s = .opened e ∧ e.role = side := by
  cases s <;> cases h
  exact ⟨_, rfl, rfl⟩

theorem eq_opened_of_holds {s : CallStage} {x : ObjectId × Role} (hclosing : s.closing = none)
    (hholds : s.holds = some x) : ∃ e, s = .opened e ∧ (e.region, e.role) = x := by
  cases s with
  | opened e => exact ⟨e, rfl, Option.some.inj hholds⟩
  | releasing e => cases hclosing
  | _ => cases hholds

theorem mapped_of_holds {s : CallStage} {id : ObjectId} {side : Role}
    (h : s.holds = some (id, side)) : s.mapped = some id := by
  cases s with
  | opened e | releasing e =>
    cases h
    rfl
  | _ => cases h

theorem eq_opened_of_mapped {s : CallStage} {id : ObjectId} (hclosing : s.closing = none)
    (hover : s.Over) (hmapped : s.mapped = some id) : ∃ e, s = .opened e ∧ e.region = id := by
  cases s with
  | opened e => exact ⟨e, rfl, Option.some.inj hmapped⟩
  | approaching | releasing | checking | removing => exact hover.elim
  | refused | left => cases hmapped

/-- A stage that a call under a name can have come to. -/
structure Fits (n : String) (r : Regions) (s : CallStage) : Prop where
  mapped : ∀ id, s.mapped = some id → id < r.objects.length
  decided : ∀ id side, s.holds = some (id, side) → side ≠ .auto
  named : ∀ e, s.closing = some e → RegionName.object e.config.name = .ok n

end CallStage

/-! ## One step -/

namespace Gathering

variable {ι : Type} {g : Gathering ι} {n : String} {i : ι} {s s' : CallStage} {r r' : Regions}

/-- All that a step of a call can do, under the object name of everybody's region name. -/
inductive Passage (g : Gathering ι) (n : String) (i : ι) :
    CallStage → Regions → CallStage → Regions → Prop where
  | idle {s : CallStage} {r : Regions} (hover : s.Over) : Passage g n i s r s r
  -- Looking at the name.
  | attached {left : Nat} {last : Option LinkError} {handle : RegionHandle} {r : Regions}
      (hfind : r.find? n = some handle.object) (hcomplete : r.Complete handle.object) :
      Passage g n i (.approaching (.look (left + 1) last)) r (.approaching (.attached handle)) r
  | missed {left : Nat} {last : Option LinkError} {r : Regions}
      (hrole : (g.opening i).config.role ≠ .slave) (hfind : r.find? n = none) :
      Passage g n i (.approaching (.look (left + 1) last)) r (.approaching (.make left)) r
  | condemned {left : Nat} {last : Option LinkError} {id : ObjectId} {r : Regions}
      (hrole : (g.opening i).config.role ≠ .slave) (hfind : r.find? n = some id)
      (hbroken : ¬ r.Complete id) :
      Passage g n i (.approaching (.look (left + 1) last)) r (.approaching (.discard left)) r
  | turnedAway {left : Nat} {last : Option LinkError} {err : LinkError} {r : Regions}
      (hrole : (g.opening i).config.role = .slave)
      (hbroken : ∀ id, r.find? n = some id → ¬ r.Complete id) :
      Passage g n i (.approaching (.look (left + 1) last)) r (.refused err) r
  | exhausted {a : Approach} {err : LinkError} {r : Regions}
      (ha : (∃ last, a = .look 0 last) ∨ ∃ err, a = .refused err) :
      Passage g n i (.approaching a) r (.refused err) r
  -- Replacing and making the region.
  | discarded {left : Nat} {r : Regions} :
      Passage g n i (.approaching (.discard left)) r (.approaching (.make left)) (r.free n)
  | made {left : Nat} {handle : RegionHandle} {r : Regions} (hwilling : g.kernel.Willing)
      (hfind : r.find? n = none) (hnew : handle.object = r.objects.length) :
      Passage g n i (.approaching (.make left)) r (.approaching (.attached handle))
        (r.found n (g.opening i).config.staleThreshold)
  | forestalled {left : Nat} {id : ObjectId} {err : LinkError} {r : Regions}
      (hfind : r.find? n = some id) :
      Passage g n i (.approaching (.make left)) r (.approaching (.look left (some err))) r
  | unmade {left : Nat} {s : CallStage} {r r' : Regions} (hunwilling : ¬ g.kernel.Willing)
      (hs : (∃ err, s = .approaching (.look left (some err))) ∨ ∃ err, s = .refused err)
      (hgrows : r.Grows r') (hnames : r'.names = r.names)
      (hbroken : ∀ id, r.objects.length ≤ id → ¬ r'.Complete id) :
      Passage g n i (.approaching (.make left)) r s r'
  -- Taking a side.
  | seated {handle : RegionHandle} {e : Endpoint} {r r' : Regions}
      (hmapped : handle.object < r.objects.length) (hregion : e.region = handle.object)
      (hgrants : (r.layout handle.object).header.Grants (g.process i) (g.opening i).config.role
        e.role)
      (hstays : r.Stays r')
      (hslot : ∀ id role, role ≠ .auto → r'.slot id role =
        if id = e.region ∧ role = e.role then ((r.slot id role).occupy (g.opening i).pid).beat
        else r.slot id role) :
      Passage g n i (.approaching (.attached handle)) r (.opened e) r'
  | denied {handle : RegionHandle} {err : LinkError} {r r' : Regions} (hstays : r.Stays r')
      (hslot : r'.slot = r.slot)
      (hreason : (r.layout handle.object).header.lock.Available (g.process i) →
        (∀ side, ¬ (r.layout handle.object).header.Grants (g.process i)
          (g.opening i).config.role side) ∧
        ∃ reason, err = .roleMismatch (g.opening i).config.role reason) :
      Passage g n i (.approaching (.attached handle)) r (.refused err) r'
  -- Closing.
  | released {e : Endpoint} {s : CallStage} {r r' : Regions} (hstays : r.Stays r')
      (hslot : ∀ id role, role ≠ .auto → r'.slot id role =
        if id = e.region ∧ role = e.role then (r.slot id role).vacateIfOwn (g.opening i).pid
        else r.slot id role)
      (hfree : (r'.layout e.region).header.lock.owner = 0)
      (hs : s = .left (.ok ()) ∨
        s = .checking e ∧ g.live (r.slot e.region e.role.peer) = false) :
      Passage g n i (.releasing e) r s r'
  | stuck {e : Endpoint} {err : LinkError} {r : Regions} :
      Passage g n i (.releasing e) r (.left (.error err)) r
  | superseded {e : Endpoint} {r : Regions} (hfind : r.find? n ≠ some e.region) :
      Passage g n i (.checking e) r (.left (.ok ())) r
  | confirmed {e : Endpoint} {r : Regions} (hfind : r.find? n = some e.region) :
      Passage g n i (.checking e) r (.removing e) r
  | removed {e : Endpoint} {r : Regions} :
      Passage g n i (.removing e) r (.left (.ok ())) (r.free n)

section

variable {k : Kernel}

theorem passage_look (hname : RegionName.object (g.opening i).config.name = .ok n)
    (left : Nat) (last : Option LinkError) (r : Regions) :
    g.Passage n i (.approaching (.look left last)) r
      ((CallStage.approaching (.look left last)).next k (g.process i) (g.opening i) r).1
      ((CallStage.approaching (.look left last)).next k (g.process i) (g.opening i) r).2 := by
  cases left with
  | zero => exact .exhausted (.inl ⟨last, rfl⟩)
  | succ left =>
    rw [CallStage.next_approaching (a := .look (left + 1) last) (Nat.succ_ne_zero _)]
    rcases r.complete_or_lacks n with ⟨id, hfind, hcomplete⟩ | hlacks
    · obtain ⟨handle, rfl, h⟩ := Regions.attachLayout_of_complete hname hfind hcomplete
      rw [Approach.step, h]
      exact .attached hfind hcomplete
    · by_cases hrole : (g.opening i).config.role = .slave
      · obtain ⟨err, h⟩ := Approach.step_look_of_slave hname hrole hlacks left last
        rw [h]
        exact .turnedAway hrole hlacks
      · rw [Approach.step_look_of_lacks hname hrole hlacks]
        rcases hfind : r.find? n with _ | id
        · exact .missed hrole hfind
        · exact .condemned hrole hfind (hlacks id hfind)

theorem passage_make (hname : RegionName.object (g.opening i).config.name = .ok n)
    (left : Nat) (r : Regions) :
    g.Passage n i (.approaching (.make left)) r
      ((CallStage.approaching (.make left)).next g.kernel (g.process i) (g.opening i) r).1
      ((CallStage.approaching (.make left)).next g.kernel (g.process i) (g.opening i) r).2 := by
  rw [CallStage.next_approaching (a := .make left) (Nat.succ_ne_zero _), Approach.step]
  rcases hfind : r.find? n with _ | id
  · rcases Regions.createLayout_of_find?_eq_none g.kernel (g.process i)
        (g.opening i).config.staleThreshold hname hfind with
      ⟨hwilling, h⟩ | ⟨hunwilling, e, r', hgrows, hnames, hbroken, h⟩
    · rw [h]
      exact .made hwilling hfind rfl
    · rw [h]
      dsimp only
      split
      · exact .unmade hunwilling (.inl ⟨e, rfl⟩) hgrows hnames hbroken
      · exact .unmade hunwilling (.inr ⟨e, rfl⟩) hgrows hnames hbroken
  · obtain ⟨e, hexists, h⟩ := Regions.createLayout_of_find? g.kernel (g.process i)
      (g.opening i).config.staleThreshold hname hfind
    rw [h]
    dsimp only
    rw [if_pos hexists]
    exact .forestalled hfind

theorem passage_enter {handle : RegionHandle} (hmapped : handle.object < r.objects.length) :
    g.Passage n i (.approaching (.attached handle)) r
      ((CallStage.approaching (.attached handle)).next k (g.process i) (g.opening i) r).1
      ((CallStage.approaching (.attached handle)).next k (g.process i) (g.opening i) r).2 := by
  rw [CallStage.next]
  rcases Endpoint.enter_any (g.process i) (g.opening i).now (g.opening i).config hmapped with
    ⟨side, present, -, hg, h⟩ | ⟨err, r', hleft, hreason, h⟩
  · have hunlock := Regions.stays_unlock (g.process i) hmapped
    have hmapped' : handle.object < (r.unlock (g.process i) handle.object).objects.length := by
      rwa [hunlock.length]
    rw [h]
    refine .seated hmapped rfl hg (hunlock.trans (Regions.keeps_take ..).stays) ?_
    intro id role hrole
    rw [Regions.slot_take _ hmapped' hg.free.1 hrole, Regions.slot_unlock _ hmapped]
    by_cases hsame : id = handle.object ∧ role = side
    · obtain ⟨rfl, rfl⟩ := hsame
      exact (if_pos ⟨rfl, rfl⟩).trans (if_pos ⟨rfl, rfl⟩).symm
    · exact (if_neg hsame).trans (if_neg hsame).symm
  · rw [h]
    rcases hleft with rfl | ⟨-, rfl⟩
    · exact .denied (.refl _) rfl hreason
    · exact .denied (Regions.stays_unlock _ hmapped) (Regions.slot_unlock _ hmapped) hreason

theorem passage_release {e : Endpoint} (hfits : (CallStage.releasing e).Fits n r) :
    g.Passage n i (.releasing e) r
      ((CallStage.releasing e).next k (g.process i) (g.opening i) r).1
      ((CallStage.releasing e).next k (g.process i) (g.opening i) r).2 := by
  have hmapped := hfits.mapped e.region rfl
  have hside := hfits.decided e.region e.role rfl
  rw [CallStage.next]
  rcases Regions.release_any (g.process i) e.config.lockTimeout hside hmapped with h | ⟨err, h⟩
  · have hunlock := Regions.stays_unlock (g.process i) hmapped
    have hmapped' : e.region < (r.unlock (g.process i) e.region).objects.length := by
      rwa [hunlock.length]
    have hstays := hunlock.trans
      (Regions.keeps_vacate (g.process i).pid e.region e.role
        (r.unlock (g.process i) e.region)).stays
    have hslot (id : ObjectId) (role : Role) (hrole : role ≠ .auto) :
        ((r.unlock (g.process i) e.region).vacate (g.process i).pid e.region e.role).slot id role =
          if id = e.region ∧ role = e.role then (r.slot id role).vacateIfOwn (g.opening i).pid
          else r.slot id role := by
      rw [Regions.vacate, Regions.slot_mapSlot _ hmapped' hside hrole,
        Regions.slot_unlock _ hmapped]
      split
      · rename_i hsame
        rw [hsame.1, hsame.2]
        rfl
      · rfl
    have hfree : (((r.unlock (g.process i) e.region).vacate (g.process i).pid e.region
        e.role).layout e.region).header.lock.owner = 0 := by
      rw [(Regions.keeps_vacate ..).lock, Regions.layout_unlock _ hmapped, if_pos rfl]
      rfl
    rw [h]
    dsimp only
    by_cases hstop : (!e.config.autoCleanup || (r.slot e.region e.role.peer).isLive (g.process i)) =
        true
    · rw [if_pos hstop]
      exact .released hstays hslot hfree (.inl rfl)
    · rw [if_neg hstop]
      rw [Bool.or_eq_true, not_or, isLive_process] at hstop
      exact .released hstays hslot hfree (.inr ⟨rfl, Bool.eq_false_iff.mpr hstop.2⟩)
  · rw [h]
    exact .stuck

/-- Every step of a call is a passage. -/
theorem passage_next (hname : RegionName.object (g.opening i).config.name = .ok n)
    (hfits : s.Fits n r) :
    g.Passage n i s r (s.next g.kernel (g.process i) (g.opening i) r).1
      (s.next g.kernel (g.process i) (g.opening i) r).2 := by
  cases s with
  | approaching a =>
    cases a with
    | look left last => exact passage_look hname left last r
    | discard left =>
      rw [CallStage.next_approaching (a := .discard left) (Nat.succ_ne_zero _),
        Approach.step_discard hname]
      exact .discarded
    | make left => exact passage_make hname left r
    | attached handle => exact passage_enter (hfits.mapped handle.object rfl)
    | refused err => exact .exhausted (.inr ⟨err, rfl⟩)
  | opened e => exact .idle trivial
  | refused err => exact .idle trivial
  | releasing e => exact passage_release hfits
  | checking e =>
    rw [CallStage.next, r.identify_of_name (hfits.named e rfl)]
    dsimp only
    by_cases hfind : r.find? n = some e.region
    · rw [if_pos hfind]
      exact .confirmed hfind
    · rw [if_neg hfind]
      exact .superseded hfind
  | removing e =>
    obtain ⟨hfreed, found, hfound⟩ := r.unlink_of_name (hfits.named e rfl)
    rw [CallStage.next]
    generalize r.unlink e.config.name = unlinked at hfreed hfound
    obtain ⟨result, r'⟩ := unlinked
    subst hfreed hfound
    exact .removed
  | left result => exact .idle trivial

end

end Gathering
end PeerLink
