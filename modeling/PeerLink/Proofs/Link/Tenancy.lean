import Mathlib.Logic.ExistsUnique
import PeerLink.Proofs.Link.Company

/-! # Who has a side

The slots of the objects and the open endpoints of a process say the same about who has which side,
whatever endpoints are opened, moved from region to region and closed.

* `Tenancy`: slots and occupants agree.
* `Tenancy.take`, `Tenancy.vacate`: what a claim and its end do to both.
* `Company.kept_tenancy`: every act keeps them in agreement.

Main statement: `Company.claimed_iff_one_occupant`.
-/

namespace PeerLink
set_option autoImplicit false

/-! ## Slots and occupants -/

/-- A slot is claimed where there is an occupant, always by the same process, and no two occupants
have the same side of the same object. -/
structure Tenancy (pid : UInt32) (slot : ObjectId → Role → RoleSlot)
    (occupies : Nat → ObjectId → Role → Prop) : Prop where
  own : ∀ {id role}, role ≠ .auto → (slot id role).isClaimed = true → (slot id role).pid = pid
  occupied : ∀ {id role}, role ≠ .auto →
    ((slot id role).isClaimed = true ↔ ∃ i, occupies i id role)
  alone : ∀ {i j id role}, occupies i id role → occupies j id role → i = j

namespace Tenancy

variable {pid : UInt32} {slot slot' : ObjectId → Role → RoleSlot}
  {occupies occupies' : Nat → ObjectId → Role → Prop} {i : Nat} {id : ObjectId} {side : Role}

theorem congr (h : Tenancy pid slot occupies)
    (hpid : ∀ id role, role ≠ .auto → (slot' id role).isClaimed = true →
      (slot' id role).pid = (slot id role).pid)
    (hclaimed : ∀ id role, role ≠ .auto → (slot' id role).isClaimed = (slot id role).isClaimed)
    (hoccupies : ∀ i id role, occupies' i id role ↔ occupies i id role) :
    Tenancy pid slot' occupies' where
  own {id role} hrole hclaim := by
    rw [hpid id role hrole hclaim]
    exact h.own hrole (by rwa [← hclaimed id role hrole])
  occupied {id role} hrole := by
    rw [hclaimed id role hrole, h.occupied hrole]
    exact exists_congr fun i => (hoccupies i id role).symm
  alone hi hj := h.alone ((hoccupies ..).mp hi) ((hoccupies ..).mp hj)

/-- A free side is claimed. -/
theorem take (h : Tenancy pid slot occupies) (hside : side ≠ .auto)
    (hfree : (slot id side).isClaimed = false)
    (hslot : ∀ other role, role ≠ .auto → slot' other role =
      if other = id ∧ role = side then ((slot id side).occupy pid).beat else slot other role)
    (hoccupies : ∀ j other role, occupies' j other role ↔
      j = i ∧ other = id ∧ role = side ∨ occupies j other role) :
    Tenancy pid slot' occupies' := by
  have hnobody (j : Nat) : ¬ occupies j id side := fun hj => by
    rw [(h.occupied hside).mpr ⟨j, hj⟩] at hfree
    cases hfree
  refine ⟨fun {other role} hrole => ?_, fun {other role} hrole => ?_, fun {j k other role} => ?_⟩
  · rw [hslot other role hrole]
    by_cases hsame : other = id ∧ role = side
    · rw [if_pos hsame]
      exact fun _ => rfl
    · rw [if_neg hsame]
      exact h.own hrole
  · rw [hslot other role hrole]
    by_cases hsame : other = id ∧ role = side
    · rw [if_pos hsame]
      exact iff_of_true rfl ⟨i, (hoccupies ..).mpr (.inl ⟨rfl, hsame⟩)⟩
    · rw [if_neg hsame, h.occupied hrole]
      refine exists_congr fun j => ?_
      rw [hoccupies]
      exact (or_iff_right fun hj => hsame hj.2).symm
  · rw [hoccupies, hoccupies]
    rintro (⟨rfl, rfl, rfl⟩ | hj) (⟨rfl, hk⟩ | hk)
    · rfl
    · exact absurd hk (hnobody k)
    · obtain ⟨rfl, rfl⟩ := hk
      exact absurd hj (hnobody j)
    · exact h.alone hj hk

/-- An occupant gives its side up. -/
theorem vacate (h : Tenancy pid slot occupies) (hside : side ≠ .auto) (hi : occupies i id side)
    (hslot : ∀ other role, role ≠ .auto → slot' other role =
      if other = id ∧ role = side then (slot id side).vacateIfOwn pid else slot other role)
    (hoccupies : ∀ j other role, occupies' j other role ↔
      occupies j other role ∧ ¬ (j = i ∧ other = id ∧ role = side)) :
    Tenancy pid slot' occupies' := by
  have howned : (slot id side).pid = pid := h.own hside ((h.occupied hside).mpr ⟨i, hi⟩)
  have hvacated : ((slot id side).vacateIfOwn pid).isClaimed = false := by
    rw [RoleSlot.vacateIfOwn, if_pos howned]
    rfl
  refine ⟨fun {other role} hrole => ?_, fun {other role} hrole => ?_, fun {j k other role} => ?_⟩
  · rw [hslot other role hrole]
    by_cases hsame : other = id ∧ role = side
    · rw [if_pos hsame, hvacated]
      intro hclaimed
      cases hclaimed
    · rw [if_neg hsame]
      exact h.own hrole
  · rw [hslot other role hrole]
    by_cases hsame : other = id ∧ role = side
    · rw [if_pos hsame, hvacated]
      refine iff_of_false Bool.false_ne_true ?_
      rintro ⟨j, hj⟩
      rw [hoccupies] at hj
      obtain ⟨rfl, rfl⟩ := hsame
      exact hj.2 ⟨h.alone hj.1 hi, rfl, rfl⟩
    · rw [if_neg hsame, h.occupied hrole]
      refine exists_congr fun j => ?_
      rw [hoccupies]
      exact (and_iff_left fun hj => hsame hj.2).symm
  · rw [hoccupies, hoccupies]
    exact fun hj hk => h.alone hj.1 hk.1

theorem isClaimed_of_not_isLive {p : Process} (h : Tenancy p.pid slot occupies)
    (hp : p.alive p.pid = true) (hside : side ≠ .auto) (hfree : (slot id side).isLive p = false) :
    (slot id side).isClaimed = false := by
  rcases hclaimed : (slot id side).isClaimed with _ | _
  · rfl
  · rw [RoleSlot.isLive, hclaimed, h.own hside hclaimed, hp] at hfree
    cases hfree

end Tenancy

/-! ## Companies -/

namespace Company

variable {p : Process} {c : Company} {e : Endpoint} {r : Regions} {out : Endpoint × Regions}
  {i j : Nat} {id : ObjectId} {role : Role}

theorem occupies_self (he : c.endpoints[i]? = some e) :
    c.Occupies i id role ↔ e.closed = false ∧ e.region = id ∧ e.role = role := has_self he

theorem occupies_put (he : c.endpoints[i]? = some e) (j : Nat) (id : ObjectId) (role : Role) :
    (c.put i out).Occupies j id role ↔
      j = i ∧ out.1.closed = false ∧ out.1.region = id ∧ out.1.role = role ∨
        j ≠ i ∧ c.Occupies j id role := has_put he j

/-- The slots of the regions and the open endpoints agree. -/
def Tenanted (p : Process) (c : Company) : Prop := Tenancy p.pid c.regions.slot c.Occupies

theorem Tenanted.grow (h : c.Tenanted p) (hgrows : c.regions.Grows r) :
    ({ c with regions := r } : Company).Tenanted p := by
  have hslot (id : ObjectId) (role : Role) : r.slot id role = c.regions.slot id role ∨
      (r.slot id role).isClaimed = false ∧ (c.regions.slot id role).isClaimed = false := by
    by_cases hid : id < c.regions.objects.length
    · exact .inl (congrArg (·.header.slot role) (hgrows.layout_eq hid))
    · have hnew : c.regions.objects.length ≤ id := Nat.le_of_not_lt hid
      exact .inr ⟨((hgrows.fresh id hnew).2 role).1, ((Regions.vacant_of_length_le hnew).2 role).1⟩
  refine h.congr (fun id role _ hclaimed => ?_) (fun id role _ => ?_) fun _ _ _ => Iff.rfl
  · rcases hslot id role with hsame | ⟨hfree, -⟩
    · rw [hsame]
    · rw [hfree] at hclaimed
      cases hclaimed
  · rcases hslot id role with hsame | ⟨hfree, hfree'⟩
    · rw [hsame]
    · rw [hfree, hfree']

/-- What becomes of an endpoint that stays where it is, and of heartbeats, does not matter. -/
theorem Tenanted.stay (h : c.Tenanted p) (he : c.endpoints[i]? = some e)
    (hplace : out.1.closed = e.closed ∧ out.1.region = e.region ∧ out.1.role = e.role)
    (hslot : ∀ id role, role ≠ .auto → (out.2.slot id role).pid = (c.regions.slot id role).pid ∧
      (out.2.slot id role).isClaimed = (c.regions.slot id role).isClaimed) :
    (c.put i out).Tenanted p := by
  refine h.congr (fun id role hrole _ => (hslot id role hrole).1)
    (fun id role hrole => (hslot id role hrole).2) fun j id role => ?_
  rw [occupies_put he, hplace.1, hplace.2.1, hplace.2.2]
  by_cases hsame : j = i
  · subst hsame
    simp [occupies_self he]
  · simp [hsame]

theorem Tenanted.vacated (h : c.Tenanted p) (ho : c.Orderly) (he : c.endpoints[i]? = some e)
    (hopen : e.closed = false) (hclosed : out.1.closed = true)
    (hslot : out.2.slot = (c.regions.vacate p.pid e.region e.role).slot) :
    (c.put i out).Tenanted p := by
  obtain ⟨hrole, hmapped⟩ := ho.placed e (List.mem_of_getElem? he)
  refine h.vacate hrole ((occupies_self he).mpr ⟨hopen, rfl, rfl⟩) (fun other role hrole' => ?_)
    fun j other role => ?_
  · exact (congrFun (congrFun hslot other) role).trans (Regions.slot_mapSlot _ hmapped hrole hrole')
  · rw [occupies_put he, hclosed]
    by_cases hsame : j = i
    · subst hsame
      rw [occupies_self he]
      constructor
      · rintro (⟨-, hback, -⟩ | ⟨hne, -⟩)
        · cases hback
        · exact absurd rfl hne
      · rintro ⟨⟨-, rfl, rfl⟩, hgone⟩
        exact absurd ⟨rfl, rfl, rfl⟩ hgone
    · simp [hsame]

/-- A slave moves to another region: a claim there, and the end of the one here. -/
theorem Tenanted.relocated (h : c.Tenanted p) (hp : p.alive p.pid = true) (ho : c.Orderly)
    (he : c.endpoints[i]? = some e) (hopen : e.closed = false) (hrole : e.role = .slave)
    (hid : id < c.regions.objects.length) (hother : id ≠ e.region)
    (hfree : (c.regions.slot id .slave).isLive p = false)
    (hplace : out.1.closed = false ∧ out.1.region = id ∧ out.1.role = .slave)
    (hslot : out.2 = (c.regions.take p.pid id .slave).vacate p.pid e.region .slave) :
    (c.put i out).Tenanted p := by
  have hside : Role.slave ≠ .auto := by decide
  have hmapped : e.region < (c.regions.take p.pid id .slave).objects.length := by
    rw [(Regions.keeps_take ..).length]
    exact (ho.placed e (List.mem_of_getElem? he)).2
  -- In between the slave has a side of both objects.
  have htaken : Tenancy p.pid (c.regions.take p.pid id .slave).slot fun j other role =>
      j = i ∧ other = id ∧ role = .slave ∨ c.Occupies j other role :=
    h.take hside (h.isClaimed_of_not_isLive hp hside hfree)
      (fun _ _ hrole' => Regions.slot_take p.pid hid hside hrole') fun _ _ _ => Iff.rfl
  refine htaken.vacate hside (.inr ((occupies_self he).mpr ⟨hopen, rfl, hrole⟩))
    (fun other role hrole' => ?_) fun j other role => ?_
  · rw [put, hslot]
    exact Regions.slot_mapSlot _ hmapped hside hrole'
  · rw [occupies_put he, hplace.1, hplace.2.1, hplace.2.2]
    by_cases hsame : j = i
    · subst hsame
      rw [occupies_self he, hrole]
      constructor
      · rintro (⟨-, -, rfl, rfl⟩ | ⟨hne, -⟩)
        · exact ⟨.inl ⟨rfl, rfl, rfl⟩, fun hback => hother hback.2.1⟩
        · exact absurd rfl hne
      · rintro ⟨⟨-, rfl, rfl⟩ | ⟨-, rfl, rfl⟩, hgone⟩
        · exact .inl ⟨rfl, rfl, rfl, rfl⟩
        · exact absurd ⟨rfl, rfl, rfl⟩ hgone
    · simp [hsame]

/-- Who gets no worker gives up the side that was taken. -/
theorem Tenanted.dismissed {side : Role} (h : c.Tenanted p) (hp : p.alive p.pid = true)
    (hid : id < c.regions.objects.length) (hside : side ≠ .auto)
    (hfree : (c.regions.slot id side).isLive p = false) :
    ({ c with regions := (c.regions.take p.pid id side).vacate p.pid id side } :
      Company).Tenanted p := by
  have hid' : id < (c.regions.take p.pid id side).objects.length := by
    rwa [(Regions.keeps_take ..).length]
  -- In between the side has an occupant whose number nobody else has.
  have htaken : Tenancy p.pid (c.regions.take p.pid id side).slot fun j other role =>
      j = c.endpoints.length ∧ other = id ∧ role = side ∨ c.Occupies j other role :=
    h.take hside (h.isClaimed_of_not_isLive hp hside hfree)
      (fun _ _ hrole => Regions.slot_take p.pid hid hside hrole) fun _ _ _ => Iff.rfl
  have hnumbered {j : Nat} {other : ObjectId} {role : Role} (hj : c.Occupies j other role) :
      j ≠ c.endpoints.length := by
    obtain ⟨e, he, -⟩ := hj
    exact Nat.ne_of_lt (List.getElem?_eq_some_iff.mp he).1
  refine htaken.vacate hside (.inl ⟨rfl, rfl, rfl⟩)
    (fun other role hrole => Regions.slot_mapSlot _ hid' hside hrole) fun j other role => ?_
  constructor
  · exact fun hj => ⟨.inr hj, fun hgone => hnumbered hj hgone.1⟩
  · rintro ⟨hj | hj, hgone⟩
    · exact absurd hj hgone
    · exact hj

theorem kept_tenancy (hp : p.alive p.pid = true) : Kept p (Tenanted p) where
  grown _ h hgrows := h.grow hgrows
  entered {c config id side} threshold present now _ h hid hg := by
    obtain ⟨hside, hfree⟩ := hg.free
    exact h.take (i := c.endpoints.length) hside (h.isClaimed_of_not_isLive hp hside hfree)
      (fun _ _ hrole => Regions.slot_take p.pid hid hside hrole) fun j other role =>
        (has_concat _ _ c j).trans (by simp [Occupies, Endpoint.fresh, @eq_comm _ id,
          @eq_comm _ side])
  dismissed _ h hid hside hfree := h.dismissed hp hid hside hfree
  moved {c i e out} ho h he hmove := by
    obtain ⟨hrole, hmapped⟩ := ho.placed e (List.mem_of_getElem? he)
    cases hmove with
    | passed hopen hkeeps hslot =>
      exact h.stay he ⟨rfl, rfl, rfl⟩ fun id role _ => by simp [hslot]
    | beaten hopen =>
      refine h.stay he ⟨rfl, rfl, rfl⟩ fun id role hrole' => ?_
      rw [Regions.slot_mapSlot _ hmapped hrole hrole']
      split
      · rename_i hsame
        rw [hsame.1, hsame.2]
        exact ⟨rfl, rfl⟩
      · exact ⟨rfl, rfl⟩
    | judged hopen calls baseline => exact h.stay he ⟨rfl, rfl, rfl⟩ fun _ _ _ => ⟨rfl, rfl⟩
    | moved hopen calls hslave hname hfind hfresh hother hfree =>
      exact h.relocated hp ho he hopen hslave hfresh hother hfree ⟨hopen, rfl, hslave⟩ rfl
    | left hopen => exact h.vacated ho he hopen rfl rfl
    | removed hopen => exact h.vacated ho he hopen rfl rfl

theorem tenanted_empty (p : Process) : empty.Tenanted p := by
  have hfree (id : ObjectId) (role : Role) : (empty.regions.slot id role).isClaimed = false :=
    ((Regions.vacant_of_length_le (r := .empty) (Nat.zero_le id)).2 role).1
  have hnobody {i : Nat} {id : ObjectId} {role : Role} : ¬ empty.Occupies i id role := by
    rintro ⟨e, he, -⟩
    cases he
  refine ⟨fun {id role} _ hclaimed => ?_, fun {id role} _ => ?_, fun hi => absurd hi hnobody⟩
  · exact absurd hclaimed (by rw [hfree id role]; decide)
  · exact iff_of_false (by rw [hfree id role]; decide) fun ⟨i, hi⟩ => hnobody hi

/-- Whatever endpoints a process opens, uses and closes, and whatever becomes of the names
meanwhile: a slot of an object is claimed if and only if exactly one open endpoint has that side of
the object, and no two ever have the same side of the same object. -/
theorem claimed_iff_one_occupant (p : Process) (hp : p.alive p.pid = true) (acts : List Act)
    (id : ObjectId) (role : Role) (hrole : role ≠ .auto) :
    let c := empty.after p acts
    ((c.regions.slot id role).isClaimed = true ↔ ∃! i, c.Occupies i id role) ∧
      ∀ i j, c.Occupies i id role → c.Occupies j id role → i = j := by
  intro c
  have h : c.Tenanted p := ((kept_tenancy hp).after orderly_empty (tenanted_empty p) acts).2
  refine ⟨(h.occupied hrole).trans ⟨fun ⟨i, hi⟩ => ?_, fun h => h.exists⟩, fun i j => h.alone⟩
  exact ⟨i, hi, fun j hj => h.alone hj hi⟩

/-! ## A slave that moves -/

/-- A master leaves, the name goes and is made again by another master, and the slave of the first
one follows. -/
def succession : List Act :=
  [.openEndpoint .able 0 { name := "a", role := .master },
    .openEndpoint .able 0 { name := "a", role := .slave },
    .on 0 .close, .unlink "a",
    .openEndpoint .able 0 { name := "a", role := .master },
    .on 1 (.tick 200000000), .on 1 (.tick 201000000)]

theorem claimed_iff_one_occupant_succession :
    lonely.alive lonely.pid = true ∧
      (∃! i, (empty.after lonely succession).Occupies i 1 .slave) ∧
      ¬ ∃! i, (empty.after lonely succession).Occupies i 0 .slave := by
  have hslave : Role.slave ≠ .auto := by decide
  have hnew := (claimed_iff_one_occupant lonely (by decide) succession 1 .slave hslave).1
  have hold := (claimed_iff_one_occupant lonely (by decide) succession 0 .slave hslave).1
  refine ⟨by decide, hnew.mp (by decide +kernel), fun hone => ?_⟩
  have hfree : ((empty.after lonely succession).regions.slot 0 .slave).isClaimed = false := by
    decide +kernel
  rw [hold.mpr hone] at hfree
  cases hfree

end Company

end PeerLink
