import Mathlib.Data.List.Induction
import PeerLink.Proofs.Link.Tenancy

/-! # How long a region has a name

Nobody counts who uses a region. While all endpoints of a process clean up and nobody else creates or
removes names, a region nevertheless keeps its name as long as an endpoint is open on it, and loses it
with the last one. Only an endpoint that gets no worker leaves a name behind: it gives its side up
without asking whether anybody needs the region.

* `Housing`: a name stands for the object that its users have.
* `Housing.join`, `Housing.found`, `Housing.part`, `Housing.vanish`: the comings and goings of users
  and names.
* `Company.Deserted`, `Company.Strands`: a name without users, and the act that leaves one behind.
* `Company.Boards`: what becomes of names while somebody comes by a side of a region.
* `Company.Housed.moved`, `Company.Housed.opened`, `Company.Housed.perform`: what becomes of names and
  users, and that no other act deserts a name.
* `Company.Housed.after`: what is deserted at the end of a run, from the run's last such act.

Main statement: `Company.bound_iff_used_or_stranded`.
-/

namespace PeerLink
set_option autoImplicit false

/-! ## Names and users -/

/-- A name stands for the object that its users have, and no object has two names. -/
structure Housing (find : String → Option ObjectId) (uses : Nat → String → ObjectId → Prop) :
    Prop where
  bound : ∀ {i n id}, uses i n id → find n = some id
  apart : ∀ {n n' id}, find n = some id → find n' = some id → n = n'

namespace Housing

variable {find find' : String → Option ObjectId} {uses uses' : Nat → String → ObjectId → Prop}
  {i : Nat} {n : String} {id : ObjectId}

/-- No name changes, and nobody new comes. -/
theorem part (h : Housing find uses) (hfind : ∀ n, find' n = find n)
    (huses : ∀ {i n id}, uses' i n id → uses i n id) : Housing find' uses' where
  bound {i n id} hi := (hfind n).trans (h.bound (huses hi))
  apart {n n' id} := by
    rw [hfind, hfind]
    exact h.apart

/-- One more user of a region that has a name. -/
theorem join (h : Housing find uses) (hn : find n = some id)
    (huses : ∀ {j n' id'}, uses' j n' id' → n' = n ∧ id' = id ∨ uses j n' id') :
    Housing find uses' where
  bound hj := by
    rcases huses hj with ⟨rfl, rfl⟩ | hold
    · exact hn
    · exact h.bound hold
  apart := h.apart

/-- A new region, which nobody uses yet. -/
theorem found (h : Housing find uses) (hfree : find n = none) (hnew : ∀ n', find n' ≠ some id)
    (hfind : ∀ n', find' n' = if n' = n then some id else find n') : Housing find' uses where
  bound {j n' id'} hj := by
    have hold := h.bound hj
    have hother : n' ≠ n := by
      rintro rfl
      rw [hfree] at hold
      cases hold
    rw [hfind, if_neg hother, hold]
  apart {n₁ n₂ id'} := by
    rw [hfind, hfind]
    by_cases h₁ : n₁ = n
    · by_cases h₂ : n₂ = n
      · exact fun _ _ => h₁.trans h₂.symm
      · rw [if_pos h₁, if_neg h₂]
        intro hid hold
        cases hid
        exact absurd hold (hnew n₂)
    · by_cases h₂ : n₂ = n
      · rw [if_neg h₁, if_pos h₂]
        intro hold hid
        cases hid
        exact absurd hold (hnew n₁)
      · rw [if_neg h₁, if_neg h₂]
        exact h.apart

/-- A name goes that has no user any more. -/
theorem vanish (h : Housing find uses) (hfind : ∀ n', find' n' = if n' = n then none else find n')
    (huses : ∀ {j n' id'}, uses' j n' id' → n' ≠ n ∧ uses j n' id') : Housing find' uses' where
  bound hj := by
    obtain ⟨hother, hold⟩ := huses hj
    rw [hfind, if_neg hother]
    exact h.bound hold
  apart {n₁ n₂ id'} := by
    rw [hfind, hfind]
    by_cases h₁ : n₁ = n
    · rw [if_pos h₁]
      exact nofun
    · by_cases h₂ : n₂ = n
      · rw [if_pos h₂]
        exact fun _ => nofun
      · rw [if_neg h₁, if_neg h₂]
        exact h.apart

end Housing

/-! ## Sides -/

namespace Role

theorem peer_of_ne_auto {role : Role} (h : role ≠ .auto) : role.peer ≠ .auto ∧ role.peer ≠ role := by
  cases role with
  | master | slave => exact ⟨nofun, nofun⟩
  | auto => exact absurd rfl h

theorem eq_or_eq_peer {role other : Role} (h : role ≠ .auto) (hother : other ≠ .auto) :
    other = role ∨ other = role.peer := by
  cases role <;> cases other <;> first | exact .inl rfl | exact .inr rfl | contradiction

end Role

/-- Settings that can be honored have a usable name. -/
theorem EndpointConfig.name_of_validate {c : EndpointConfig} (h : c.validate = .ok ()) :
    ∃ n, RegionName.object c.name = .ok n := by
  cases hname : RegionName.object c.name with
  | ok n => exact ⟨n, rfl⟩
  | error err =>
    rw [validate, fault?, hname] at h
    cases h

/-! ## Companies that clean up -/

namespace Company

variable {p : Process} {c : Company} {e : Endpoint} {r : Regions} {out : Endpoint × Regions}
  {i j : Nat} {n : String} {id : ObjectId}

/-- An open endpoint has a region under a name. -/
def Uses (c : Company) (i : Nat) (n : String) (id : ObjectId) : Prop :=
  c.Has i fun e => RegionName.object e.config.name = .ok n ∧ e.region = id

/-- An open endpoint has this name. -/
def Used (c : Company) (n : String) : Prop :=
  ∃ e ∈ c.endpoints, e.closed = false ∧ RegionName.object e.config.name = .ok n

/-- A region exists under the name, and no endpoint is open under it. -/
def Deserted (c : Company) (n : String) : Prop :=
  (c.regions.find? n).isSome = true ∧ ¬ c.Used n

/-- Names and open endpoints agree, the regions that have a name are complete, and all endpoints
clean up. -/
structure Housed (c : Company) : Prop where
  housing : Housing c.regions.find? c.Uses
  complete : ∀ {n id}, c.regions.find? n = some id → c.regions.Complete id
  regular : ∀ e ∈ c.endpoints, e.config.autoCleanup = true ∧
    ∃ n, RegionName.object e.config.name = .ok n

theorem uses_self (he : c.endpoints[i]? = some e) :
    c.Uses i n id ↔ e.closed = false ∧ RegionName.object e.config.name = .ok n ∧ e.region = id :=
  has_self he

theorem used_iff (c : Company) (n : String) : c.Used n ↔ ∃ i id, c.Uses i n id := by
  constructor
  · rintro ⟨e, he, hopen, hname⟩
    obtain ⟨i, hi⟩ := List.mem_iff_getElem?.mp he
    exact ⟨i, e.region, e, hi, hopen, hname, rfl⟩
  · rintro ⟨i, id, e, he, hopen, hname, -⟩
    exact ⟨e, List.mem_of_getElem? he, hopen, hname⟩

theorem deserted_congr {c' : Company} (hfind : c'.regions.find? n = c.regions.find? n)
    (hused : c'.Used n ↔ c.Used n) : c'.Deserted n ↔ c.Deserted n := by
  rw [Deserted, Deserted, hfind, hused]

theorem Housed.regular_put (h : c.Housed) (he : c.endpoints[i]? = some e)
    (hconfig : out.1.config = e.config) (e' : Endpoint) (he' : e' ∈ (c.put i out).endpoints) :
    e'.config.autoCleanup = true ∧ ∃ n, RegionName.object e'.config.name = .ok n := by
  rcases List.mem_or_eq_of_mem_set he' with hold | rfl
  · exact h.regular e' hold
  · rw [hconfig]
    exact h.regular e (List.mem_of_getElem? he)

theorem Housed.complete_of_keeps (h : c.Housed) (hkeeps : c.regions.Keeps r)
    (hfind : r.find? n = some id) : r.Complete id := by
  rw [hkeeps.find?_eq] at hfind
  rw [Regions.Complete, hkeeps.size, hkeeps.valid]
  exact h.complete hfind

/-- Nobody comes or goes. -/
theorem Housed.keep (h : c.Housed) (hkeeps : c.regions.Keeps r) :
    ({ c with regions := r } : Company).Housed where
  housing := h.housing.part hkeeps.find?_eq id
  complete := h.complete_of_keeps hkeeps
  regular := h.regular

theorem Housed.grow (h : c.Housed) (hgrows : c.regions.Grows r)
    (hnames : r.names = c.regions.names) : ({ c with regions := r } : Company).Housed where
  housing := h.housing.part (Regions.find?_congr hnames) id
  complete {n id} hfind := by
    have hold := h.complete ((Regions.find?_congr hnames n).symm.trans hfind)
    rw [Regions.Complete, hgrows.kept id hold.lt_length, hgrows.layout_eq hold.lt_length]
    exact hold
  regular := h.regular

/-! ## Moving and leaving -/

/-- While the other side of the object is held, the name has another user. -/
theorem Housed.another (h : c.Housed) (ht : c.Tenanted p) (he : c.endpoints[i]? = some e)
    (hrole : e.role ≠ .auto) (hfind : c.regions.find? n = some e.region)
    (hpeer : (c.regions.slot e.region e.role.peer).isLive p = true) :
    ∃ j ≠ i, c.Uses j n e.region := by
  obtain ⟨hcertain, hother⟩ := Role.peer_of_ne_auto hrole
  have hclaimed : (c.regions.slot e.region e.role.peer).isClaimed = true :=
    (Bool.and_eq_true_iff.mp hpeer).1
  obtain ⟨j, e', he', hopen', hregion, hrole'⟩ := (ht.occupied hcertain).mp hclaimed
  obtain ⟨-, n', hname'⟩ := h.regular e' (List.mem_of_getElem? he')
  have huses : c.Uses j n' e.region := ⟨e', he', hopen', hname', hregion⟩
  have hsame : n' = n := h.housing.apart (h.housing.bound huses) hfind
  subst hsame
  refine ⟨j, fun hji => ?_, huses⟩
  subst hji
  rw [he] at he'
  cases he'
  exact hother hrole'.symm

/-- When the other side of the object is free, the name has no other user. -/
theorem Housed.last (ho : c.Orderly) (ht : c.Tenanted p) (hp : p.alive p.pid = true)
    (he : c.endpoints[i]? = some e) (hopen : e.closed = false)
    (halone : (c.regions.slot e.region e.role.peer).isLive p = false)
    (huses : c.Uses j n e.region) : j = i := by
  obtain ⟨e', he', hopen', -, hregion⟩ := huses
  have hrole : e.role ≠ .auto := (ho.placed e (List.mem_of_getElem? he)).1
  have hrole' : e'.role ≠ .auto := (ho.placed e' (List.mem_of_getElem? he')).1
  have hoccupies : c.Occupies j e.region e'.role := ⟨e', he', hopen', hregion, rfl⟩
  rcases Role.eq_or_eq_peer hrole hrole' with hsame | hpeer
  · rw [hsame] at hoccupies
    exact ht.alone hoccupies ⟨e, he, hopen, rfl, rfl⟩
  · rw [hpeer] at hoccupies
    have hcertain := (Role.peer_of_ne_auto hrole).1
    have hfree := ht.isClaimed_of_not_isLive hp hcertain halone
    rw [(ht.occupied hcertain).mpr ⟨j, hoccupies⟩] at hfree
    cases hfree

theorem uses_put_same (he : c.endpoints[i]? = some e)
    (hplace : out.1.closed = e.closed ∧ out.1.region = e.region ∧ out.1.config = e.config)
    (j : Nat) (n : String) (id : ObjectId) : (c.put i out).Uses j n id ↔ c.Uses j n id := by
  rw [Uses, has_put he, hplace.1, hplace.2.1, hplace.2.2]
  by_cases hsame : j = i
  · subst hsame
    simp [uses_self he]
  · simp [hsame, Uses]

theorem uses_put_closed (he : c.endpoints[i]? = some e) (hclosed : out.1.closed = true) (j : Nat)
    (n : String) (id : ObjectId) : (c.put i out).Uses j n id ↔ j ≠ i ∧ c.Uses j n id := by
  rw [Uses, has_put he, hclosed]
  simp [Uses]

/-- An endpoint that stays where it is. -/
theorem Housed.stay (h : c.Housed) (he : c.endpoints[i]? = some e)
    (hplace : out.1.closed = e.closed ∧ out.1.region = e.region ∧ out.1.config = e.config)
    (hkeeps : c.regions.Keeps out.2) :
    (c.put i out).Housed ∧ ∀ n, (c.put i out).Deserted n ↔ c.Deserted n := by
  have huses := uses_put_same he hplace
  refine ⟨⟨h.housing.part hkeeps.find?_eq fun {j n id} => (huses j n id).mp,
    h.complete_of_keeps hkeeps, h.regular_put he hplace.2.2⟩, fun n => ?_⟩
  refine deserted_congr (hkeeps.find?_eq n) ?_
  rw [used_iff, used_iff]
  exact exists_congr fun j => exists_congr fun id => huses j n id

theorem name_of_uses (he : c.endpoints[i]? = some e) (hname : RegionName.object e.config.name = .ok n)
    {n' : String} (huses : c.Uses i n' id) : n' = n := by
  obtain ⟨-, hname', -⟩ := (uses_self he).mp huses
  rw [hname] at hname'
  cases hname'
  rfl

/-- An endpoint leaves, and another one stays under its name. -/
theorem Housed.left (h : c.Housed) (he : c.endpoints[i]? = some e)
    (hname : RegionName.object e.config.name = .ok n) (hclosed : out.1.closed = true)
    (hconfig : out.1.config = e.config) (hkeeps : c.regions.Keeps out.2)
    (hanother : ∃ j ≠ i, c.Uses j n e.region) :
    (c.put i out).Housed ∧ ∀ n, (c.put i out).Deserted n ↔ c.Deserted n := by
  have huses := uses_put_closed he hclosed
  refine ⟨⟨h.housing.part hkeeps.find?_eq fun {j n id} hj => ((huses j n id).mp hj).2,
    h.complete_of_keeps hkeeps, h.regular_put he hconfig⟩, fun n' => ?_⟩
  refine deserted_congr (hkeeps.find?_eq n') ?_
  rw [used_iff, used_iff]
  constructor
  · rintro ⟨j, id, hj⟩
    exact ⟨j, id, ((huses ..).mp hj).2⟩
  · rintro ⟨j, id, hj⟩
    by_cases hji : j = i
    · subst hji
      cases name_of_uses he hname hj
      obtain ⟨other, hother, hstays⟩ := hanother
      exact ⟨other, e.region, (huses ..).mpr ⟨hother, hstays⟩⟩
    · exact ⟨j, id, (huses ..).mpr ⟨hji, hj⟩⟩

/-- The last endpoint of a name takes it along. -/
theorem Housed.removed (h : c.Housed) (he : c.endpoints[i]? = some e) (hopen : e.closed = false)
    (hname : RegionName.object e.config.name = .ok n) (hclosed : out.1.closed = true)
    (hconfig : out.1.config = e.config) (hkeeps : c.regions.Keeps r) (hfreed : out.2 = r.free n)
    (hlast : ∀ {j id}, c.Uses j n id → j = i) :
    (c.put i out).Housed ∧ ∀ n, (c.put i out).Deserted n ↔ c.Deserted n := by
  have huses := uses_put_closed he hclosed
  have hfind (n' : String) : (c.put i out).regions.find? n' =
      if n' = n then none else c.regions.find? n' := by
    rw [put, hfreed, Regions.find?_free, hkeeps.find?_eq]
  refine ⟨⟨h.housing.vanish hfind fun {j n' id} hj => ?_, fun {n' id} hbound => ?_,
    h.regular_put he hconfig⟩, fun n' => ?_⟩
  · obtain ⟨hji, hold⟩ := (huses j n' id).mp hj
    refine ⟨fun hsame => ?_, hold⟩
    subst hsame
    exact hji (hlast hold)
  · have hold : r.find? n' = some id := by
      rw [put, hfreed, Regions.find?_free] at hbound
      split at hbound
      · cases hbound
      · exact hbound
    have hcomplete : r.Complete id := h.complete_of_keeps hkeeps hold
    rw [put, hfreed]
    exact hcomplete
  · by_cases hsame : n' = n
    · subst hsame
      have hused : c.Used n' := ⟨e, List.mem_of_getElem? he, hopen, hname⟩
      refine iff_of_false (fun hdeserted => ?_) fun hdeserted => hdeserted.2 hused
      have hbound := hdeserted.1
      rw [hfind, if_pos rfl] at hbound
      cases hbound
    · refine deserted_congr ((hfind n').trans (if_neg hsame)) ?_
      rw [used_iff, used_iff]
      refine exists_congr fun j => exists_congr fun id => (huses j n' id).trans ?_
      refine and_iff_right_of_imp fun hj hji => hsame ?_
      subst hji
      exact name_of_uses he hname hj

/-- Endpoints that move and leave desert no name, and no name that is deserted gets a user or goes. -/
theorem Housed.moved (h : c.Housed) (ho : c.Orderly) (ht : c.Tenanted p)
    (hp : p.alive p.pid = true) (he : c.endpoints[i]? = some e)
    (hmove : Endpoint.Move p (e, c.regions) out) :
    (c.put i out).Housed ∧ ∀ n, (c.put i out).Deserted n ↔ c.Deserted n := by
  have hmem := List.mem_of_getElem? he
  obtain ⟨hcleanup, n, hname⟩ := h.regular e hmem
  have hfind (hopen : e.closed = false) : c.regions.find? n = some e.region :=
    h.housing.bound ⟨e, he, hopen, hname, rfl⟩
  have hvacates := Regions.keeps_vacate p.pid e.region e.role c.regions
  cases hmove with
  | passed hopen hkeeps => exact h.stay he ⟨rfl, rfl, rfl⟩ hkeeps
  | beaten => exact h.stay he ⟨rfl, rfl, rfl⟩ (Regions.keeps_mapSlot ..)
  | judged => exact h.stay he ⟨rfl, rfl, rfl⟩ (.refl _)
  | moved hopen calls hrole hname' hfresh hid hother =>
    -- The name still stands for the region that the slave has.
    rw [hname] at hname'
    cases hname'
    rw [hfind hopen] at hfresh
    cases hfresh
    exact absurd rfl hother
  | left hopen calls hneeded =>
    have hanother : ∃ j ≠ i, c.Uses j n e.region := by
      rcases hneeded with hkept | hpeer | hrenamed
      · rw [hcleanup] at hkept
        cases hkept
      · exact h.another ht he (ho.placed e hmem).1 (hfind hopen) hpeer
      · exact absurd (hfind hopen) (hrenamed n hname)
    exact h.left he hname rfl rfl hvacates hanother
  | removed hopen calls _ halone hname' =>
    rw [hname] at hname'
    cases hname'
    refine h.removed he hopen hname rfl rfl hvacates rfl fun {j id} hj => ?_
    have hid := h.housing.bound hj
    rw [hfind hopen] at hid
    cases hid
    exact Housed.last ho ht hp he hopen halone hj

/-! ## Opening -/

theorem used_concat (r : Regions) (hopen : e.closed = false)
    (hname : RegionName.object e.config.name = .ok n) (n' : String) :
    (⟨r, c.endpoints ++ [e]⟩ : Company).Used n' ↔ n' = n ∨ c.Used n' := by
  simp only [Used, List.mem_append, List.mem_singleton]
  constructor
  · rintro ⟨e', hold | rfl, hopen', hname'⟩
    · exact .inr ⟨e', hold, hopen', hname'⟩
    · rw [hname] at hname'
      cases hname'
      exact .inl rfl
  · rintro (rfl | ⟨e', hold, he'⟩)
    · exact ⟨e, .inr rfl, hopen, hname⟩
    · exact ⟨e', .inl hold, he'⟩

/-- A new endpoint on a region that has a name. -/
theorem Housed.join (h : c.Housed) (hclean : e.config.autoCleanup = true)
    (hname : RegionName.object e.config.name = .ok n)
    (hfind : c.regions.find? n = some e.region) :
    (⟨c.regions, c.endpoints ++ [e]⟩ : Company).Housed where
  housing := h.housing.join hfind fun {j n' id} hj => by
    rcases (has_concat c.regions e c j).mp hj with ⟨-, -, hname', hregion⟩ | hold
    · rw [hname] at hname'
      cases hname'
      exact .inl ⟨rfl, hregion.symm⟩
    · exact .inr hold
  complete := h.complete
  regular e' he' := by
    rcases List.mem_append.mp he' with hold | hnew
    · exact h.regular e' hold
    · rw [List.mem_singleton.mp hnew]
      exact ⟨hclean, n, hname⟩

/-- A region is made under a free name. -/
theorem Housed.found (h : c.Housed) (hfree : c.regions.find? n = none) (threshold : Duration) :
    ({ c with regions := c.regions.found n threshold } : Company).Housed where
  housing := h.housing.found hfree
    (fun n' hbound => absurd (h.complete hbound).lt_length (Nat.lt_irrefl _))
    (Regions.find?_found threshold hfree)
  complete {n' id} hbound := by
    rw [Regions.find?_found threshold hfree] at hbound
    rw [Regions.Complete, Regions.layout, Regions.memory_found]
    by_cases hsame : n' = n
    · rw [if_pos hsame] at hbound
      cases hbound
      rw [if_pos rfl]
      exact ⟨Nat.le_refl _, Header.isValid_published threshold⟩
    · rw [if_neg hsame] at hbound
      have hold := h.complete hbound
      rw [if_neg (Nat.ne_of_lt hold.lt_length)]
      exact hold
  regular := h.regular

/-- Whoever comes by a side has a region under the name, which was there before or is new; without a
side all names stay as they are. -/
inductive Boards (c : Company) (config : EndpointConfig) :
    Option (Except LinkError Endpoint) × Regions → Prop where
  | unopened {r : Regions} {result : Option (Except LinkError Endpoint)}
      (hnone : Endpoint.Unopened result) (hgrows : c.regions.Grows r)
      (hnames : r.names = c.regions.names) : Boards c config (result, r)
  | opened {r : Regions} {e : Endpoint} {n : String} (hconfig : e.config = config)
      (hopen : e.closed = false) (hname : RegionName.object config.name = .ok n)
      (hhoused : ({ c with regions := r } : Company).Housed) (hfind : r.find? n = some e.region)
      (hothers : ∀ n' ≠ n, r.find? n' = c.regions.find? n') : Boards c config (some (.ok e), r)

theorem Housed.boards_of_bound (h : c.Housed) (ho : c.Orderly) (now : Instant)
    {config : EndpointConfig} (hname : RegionName.object config.name = .ok n)
    (hfind : c.regions.find? n = some id) :
    c.Boards config (some (Endpoint.enter p now config id c.regions).1,
      (Endpoint.enter p now config id c.regions).2) := by
  have hid := (h.complete hfind).lt_length
  rcases Endpoint.enter_cases p now config hid (ho.free id) with
    ⟨side, present, -, henter⟩ | ⟨err, -, henter⟩
  · rw [henter]
    have hkeeps := Regions.keeps_take p.pid id side c.regions
    exact .opened rfl rfl hname (h.keep hkeeps) ((hkeeps.find?_eq n).trans hfind)
      fun n' _ => hkeeps.find?_eq n'
  · rw [henter]
    exact .unopened (Endpoint.unopened_error err) (Regions.grows_of_objects rfl) rfl

theorem Housed.boards_found (h : c.Housed) (p : Process) (now : Instant) {config : EndpointConfig}
    (hname : RegionName.object config.name = .ok n) (hrole : config.role ≠ .slave)
    (hfind : c.regions.find? n = none) (hgrows : c.regions.Grows r)
    (hnames : r.names = c.regions.names) :
    let made := r.found n config.staleThreshold
    c.Boards config (some (Endpoint.enter p now config r.objects.length made).1,
      (Endpoint.enter p now config r.objects.length made).2) := by
  intro made
  obtain ⟨threshold, present, henter⟩ := Endpoint.enter_found p now hrole n r
  have hunbound : r.find? n = none := (Regions.find?_congr hnames n).trans hfind
  have hfound := Regions.find?_found config.staleThreshold hunbound
  have hkeeps := Regions.keeps_take p.pid r.objects.length .master made
  have hhoused := ((h.grow hgrows hnames).found hunbound config.staleThreshold).keep hkeeps
  rw [henter]
  refine .opened rfl rfl hname hhoused ?_ fun n' hother => ?_
  · exact (hkeeps.find?_eq n).trans ((hfound n).trans (if_pos rfl))
  · rw [hkeeps.find?_eq, hfound, if_neg hother, Regions.find?_congr hnames]

theorem Housed.boards (h : c.Housed) (ho : c.Orderly) (k : Kernel) (p : Process) (now : Instant)
    (config : EndpointConfig) : c.Boards config (Endpoint.board k p now config c.regions) := by
  rcases Endpoint.board_cases k p now config c.regions with
    ⟨result, hnone, -, hboard⟩ | ⟨hvalid, htimely⟩
  · rw [hboard]
    exact .unopened hnone (Regions.grows_of_objects rfl) rfl
  · obtain ⟨n, hname⟩ := config.name_of_validate hvalid
    rw [Endpoint.board_of_timely k p c.regions hvalid htimely]
    cases hfind : c.regions.find? n with
    | some id =>
      have hcomplete := h.complete hfind
      rw [Regions.acquire_of_bound k p hname hfind hcomplete.1 hcomplete.2]
      exact h.boards_of_bound ho now hname hfind
    | none =>
      obtain ⟨mid, hgrows, hnames, ⟨err, hacquire⟩ | ⟨hrole, hacquire⟩⟩ :=
        Regions.acquire_of_unbound k p hname hfind
      · rw [hacquire]
        exact .unopened (Endpoint.unopened_error err) hgrows hnames
      · rw [hacquire]
        exact h.boards_found p now hname hrole hfind hgrows hnames

/-- An act opens an endpoint under a name: it comes by a side of a region there, but the system has no
thread for its worker. -/
def Strands (p : Process) (c : Company) (n : String) : Act → Prop
  | .openEndpoint k now config => RegionName.object config.name = .ok n ∧ ¬ k.Staffs config ∧
      ∃ e r, Endpoint.board k p now config c.regions = (some (.ok e), r)
  | _ => False

/-- After opening an endpoint a name is deserted if it was deserted or stranded, unless the endpoint
uses it. -/
theorem Housed.opened (h : c.Housed) (ho : c.Orderly) (k : Kernel) (p : Process) (now : Instant)
    {config : EndpointConfig} (hclean : config.autoCleanup = true) :
    let act := Act.openEndpoint k now config
    (c.perform p act).Housed ∧ ∀ n, (c.perform p act).Deserted n ↔
      ¬ (c.perform p act).Used n ∧ (c.Deserted n ∨ c.Strands p n act) := by
  intro act
  have hboards := h.boards ho k p now config
  have hopens := Endpoint.opens k p now config c.regions
  generalize hopened : Endpoint.open k p now config c.regions = out at hopens
  cases hopens with
  | unopened _ hnone _ hboard =>
    rw [hboard] at hboards
    cases hboards with
    | opened => exact absurd rfl (hnone _)
    | unopened _ hgrows hnames =>
      rw [perform_of_unopened hnone hopened]
      refine ⟨h.grow hgrows hnames, fun n => ?_⟩
      have hstrands : ¬ c.Strands p n act := by
        rintro ⟨-, -, e, r, hboarded⟩
        rw [hboard] at hboarded
        exact hnone e (Prod.mk.inj hboarded).1
      rw [or_iff_left hstrands]
      have hsame : ({ c with regions := _ } : Company).Deserted n ↔ c.Deserted n :=
        deserted_congr (Regions.find?_congr hnames n) Iff.rfl
      exact hsame.trans (and_iff_right_of_imp And.right).symm
  | opened _ _ _ _ _ hboard hstaffed =>
    rw [hboard] at hboards
    cases hboards with
    | unopened hnone => exact absurd rfl (hnone _)
    | @opened _ _ n hconfig hopen hname h' hfind hothers =>
      subst hconfig
      rw [perform_of_opened hopened]
      refine ⟨h'.join hclean hname hfind, fun n' => ?_⟩
      have hstrands : ¬ c.Strands p n' act := fun hstrands => hstrands.2.1 hstaffed
      rw [or_iff_left hstrands, Deserted, Deserted, used_concat _ hopen hname]
      by_cases hsame : n' = n
      · simp [hsame]
      · simp only [hsame, false_or]
        rw [hothers n' hsame]
        exact (and_iff_right_of_imp And.right).symm
  | @unstaffed mid id side e _ _ _ _ _ _ hboard hunstaffed errno =>
    rw [hboard] at hboards
    cases hboards with
    | unopened hnone => exact absurd rfl (hnone _)
    | @opened _ _ n hconfig hopen hname h' hfind hothers =>
      subst hconfig
      rw [perform_of_unopened (Endpoint.unopened_error _) hopened]
      have hkeeps := Regions.keeps_vacate p.pid id side ((mid.unlock p id).take p.pid id side)
      refine ⟨h'.keep hkeeps, fun n' => ?_⟩
      rw [Deserted, and_comm]
      refine and_congr_right fun hunused => ?_
      rw [hkeeps.find?_eq]
      by_cases hsame : n' = n
      · subst hsame
        exact iff_of_true (by rw [hfind]; rfl) (.inr ⟨hname, hunstaffed, e, _, hboard⟩)
      · have hstrands : ¬ c.Strands p n' act := by
          rintro ⟨hname', -⟩
          rw [hname] at hname'
          cases hname'
          exact hsame rfl
        rw [or_iff_left hstrands, hothers n' hsame]
        exact (and_iff_left hunused).symm

/-! ## Runs -/

/-- Endpoints come, all of them to clean up, and are used; names are left to them. -/
def CleansUp : Act → Prop
  | .openEndpoint _ _ config => config.autoCleanup = true
  | .on _ _ => True
  | .create _ _ _ _ | .unlink _ => False

/-- A name is deserted after an act if it was deserted before or was stranded by the act, and no
endpoint is open under it now. -/
theorem Housed.perform (h : c.Housed) (ho : c.Orderly) (ht : c.Tenanted p)
    (hp : p.alive p.pid = true) {act : Act} (hact : CleansUp act) :
    (c.perform p act).Housed ∧ ∀ n, (c.perform p act).Deserted n ↔
      ¬ (c.perform p act).Used n ∧ (c.Deserted n ∨ c.Strands p n act) := by
  cases act with
  | openEndpoint k now config => exact h.opened ho k p now hact
  | on i deed =>
    have hstays : (c.perform p (.on i deed)).Housed ∧
        ∀ n, (c.perform p (.on i deed)).Deserted n ↔ c.Deserted n := by
      rw [Company.perform]
      cases he : c.endpoints[i]? with
      | none => exact ⟨h, fun _ => Iff.rfl⟩
      | some e =>
        have hmoved {c' : Company} {e : Endpoint} {out : Endpoint × Regions} (ho : c'.Orderly)
            (h : c'.Tenanted p ∧ c'.Housed ∧ ∀ n, c'.Deserted n ↔ c.Deserted n)
            (he : c'.endpoints[i]? = some e) (hmove : Endpoint.Move p (e, c'.regions) out) :
            (c'.put i out).Tenanted p ∧ (c'.put i out).Housed ∧
              ∀ n, (c'.put i out).Deserted n ↔ c.Deserted n := by
          obtain ⟨ht, h, hsame⟩ := h
          obtain ⟨h', hsame'⟩ := h.moved ho ht hp he hmove
          exact ⟨(kept_tenancy hp).moved ho ht he hmove, h', fun n => (hsame' n).trans (hsame n)⟩
        have hmoves := deed.moves p (ho.sound (List.mem_of_getElem? he))
        exact (moves_induction hmoved ho ⟨ht, h, fun _ => Iff.rfl⟩ he hmoves).2.2
    refine ⟨hstays.1, fun n => ?_⟩
    rw [hstays.2 n, or_iff_left (by exact id)]
    exact (and_iff_right_of_imp fun hdeserted => ((hstays.2 n).mpr hdeserted).2).symm
  | create | unlink => exact hact.elim

end Company

end PeerLink
