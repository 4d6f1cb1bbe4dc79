import PeerLink.Proofs.Link.Seats

/-! # Replacing a region that cannot be used

Any number of live processes open an endpoint as master or undecided, all under one name that stands
for a region too small or with a header of another layout. Each removes the name before it makes a
region of its own. It decides to do so on an earlier look, so the name may stand for somebody's new
region when it is removed. That is the one thing that can go wrong: as long as it does not happen
all come together on one region, and if it does happen there are two masters in the end.

* `Gathering.Spares`: a schedule in which nobody removes the name from a region that can be used.
* `Gathering.Replacing`: what holds of every crowd on its way.
* `Gathering.Standing`: every region that was made still has the name; `spares_iff_standing` says
  that this is so if and only if the schedule spares them.

Main statement: `Gathering.replacement_is_safe_iff`.
-/

namespace PeerLink.Gathering
set_option autoImplicit false

variable {ι : Type} {g : Gathering ι} {n : String} {i j : ι} {c : Crowd ι}
  {id junk : ObjectId} {first : ℕ} {r : Regions}

/-! ## On the way -/

/-- What holds while the region `junk` is replaced by objects from `first` on. -/
structure Replacing (g : Gathering ι) (n : String) (junk : ObjectId) (first : ℕ)
    (c : Crowd ι) : Prop where
  opens : Opens c
  old : junk < first
  grown : first ≤ c.regions.objects.length
  broken : ¬ c.regions.Complete junk
  /-- While the old region has the name there is no new one. -/
  named : ∀ id, c.regions.find? n = some id →
    id = junk ∧ (∀ new, first ≤ new → ¬ c.regions.Complete new) ∨
      first ≤ id ∧ c.regions.Complete id
  mapped : ∀ i id, (c.stage i).mapped = some id → first ≤ id ∧ c.regions.Complete id
  willing : ∀ id, first ≤ id → c.regions.Complete id → g.kernel.Willing
  /-- A free name does not stay free. -/
  maker : g.kernel.Willing → c.regions.find? n = none →
    ∃ i left, c.stage i = .approaching (.make left)
  sought : ∀ id, first ≤ id → c.regions.Complete id → g.Sought id c
  accounted : g.Accounted (first ≤ ·) c
  unlocked : ∀ id, first ≤ id → (c.regions.layout id).header.lock.owner = 0

theorem replacing_start (hfind : r.find? n = some junk) (hbroken : ¬ r.Complete junk)
    (hjunk : junk < r.objects.length) : g.Replacing n junk r.objects.length (g.start r) := by
  have hnone {id : ObjectId} (hid : r.objects.length ≤ id) : ¬ r.Complete id :=
    fun hcomplete => absurd hcomplete.lt_length (Nat.not_lt.mpr hid)
  refine ⟨opens_start g r, hjunk, Nat.le_refl _, hbroken, fun id hid => ?_, fun i id hmapped => ?_,
    fun id hid hnew => absurd hnew (hnone hid), fun _ hfree => ?_,
    fun id hid hnew => absurd hnew (hnone hid), fun id side hid _ hlive => ?_, fun id hid => ?_⟩
  · exact .inl ⟨Option.some.inj (hid.symm.trans hfind), fun new => hnone⟩
  · rw [(views_start g r i).1] at hmapped
    cases hmapped
  · cases hfree.symm.trans hfind
  · have hvacant := ((Regions.vacant_of_length_le hid).2 side).1
    simp only [start, live, RoleSlot.isLive, Regions.slot, hvacant] at hlive
    cases hlive
  · exact (Regions.vacant_of_length_le hid).1

/-- The name only becomes free in the hands of somebody who is going to make a region. -/
theorem Passage.make_of_freed {s s' : CallStage} {r r' : Regions} (h : g.Passage n i s r s' r')
    (hclosing : s.closing = none) (hfind : r.find? n = some id) (hfree : r'.find? n = none) :
    ∃ left, s' = .approaching (.make left) := by
  cases h with
  | discarded => exact ⟨_, rfl⟩
  | made hwilling hnone =>
    rw [hnone] at hfind
    cases hfind
  | unmade hunwilling hs hgrows hnames =>
    rw [Regions.find?_congr hnames, hfind] at hfree
    cases hfree
  | seated hmapped hregion hgrants hstays =>
    rw [hstays.find?_eq, hfind] at hfree
    cases hfree
  | denied hstays | released hstays =>
    rw [hstays.find?_eq, hfind] at hfree
    cases hfree
  | removed => cases hclosing
  | _ => cases hfree.symm.trans hfind

/-- Who makes a region under a free name has made it. -/
theorem Passage.find?_of_make {left : ℕ} {s' : CallStage} {r r' : Regions}
    (h : g.Passage n i (.approaching (.make left)) r s' r') (hwilling : g.kernel.Willing)
    (hfree : r.find? n = none) : r'.find? n = some r.objects.length := by
  cases h with
  | idle hover => exact hover.elim
  | made hmine hnone => rw [Regions.find?_found _ hnone, if_pos rfl]
  | forestalled hfind => cases hfree.symm.trans hfind
  | unmade hunwilling => exact absurd hwilling hunwilling
  | exhausted ha => rcases ha with ⟨last, ha⟩ | ⟨err, ha⟩ <;> cases ha

theorem Passage.find?_of_discard {left : ℕ} {s s' : CallStage} {r r' : Regions}
    (h : g.Passage n i s r s' r') (hs : s = .approaching (.discard left)) :
    r'.find? n = none := by
  subst hs
  cases h with
  | idle hover => exact hover.elim
  | discarded => rw [Regions.find?_free, if_pos rfl]
  | exhausted ha => rcases ha with ⟨last, ha⟩ | ⟨err, ha⟩ <;> cases ha

section

variable [DecidableEq ι]

theorem Replacing.turn (h : g.Replacing n junk first c) (hseated : g.Seated n c)
    (hmeets : g.Meets n) (hrole : ∀ i, (g.opening i).config.role ≠ .slave) (i : ι) :
    g.Replacing n junk first (g.turn c i) := by
  have hpassage := hseated.passage hmeets i
  have hkeeps := CallStage.ne_releasing (h.opens i)
  have hnamed (id : ObjectId) (hid : (g.turn c i).regions.find? n = some id) :
      id = junk ∧ (∀ new, first ≤ new → ¬ (g.turn c i).regions.Complete new) ∨
        first ≤ id ∧ (g.turn c i).regions.Complete id := by
    rcases hpassage.find?_of hid with hold | ⟨-, rfl, hnew, -⟩
    · rcases h.named id hold with ⟨rfl, hnone⟩ | ⟨hfirst, hcomplete⟩
      · refine .inl ⟨rfl, fun new hnew hcomplete => ?_⟩
        rcases hpassage.complete_of hcomplete with hbefore | ⟨-, hfree, -⟩
        · exact hnone new hnew hbefore
        · cases hfree.symm.trans hold
      · exact .inr ⟨hfirst, hpassage.complete hcomplete⟩
    · exact .inr ⟨h.grown, hnew⟩
  have hbroken : ¬ (g.turn c i).regions.Complete junk := fun hcomplete =>
    h.broken ((hpassage.complete_iff (Nat.lt_of_lt_of_le h.old h.grown)).mp hcomplete)
  refine ⟨h.opens.turn hseated hmeets i, h.old, Nat.le_trans h.grown hpassage.length_le, hbroken,
    hnamed, fun j id hmapped => ?_, fun id hfirst hcomplete => ?_, fun hwilling hfree => ?_,
    fun id hfirst hcomplete => ?_, h.accounted.turn hseated hmeets hkeeps,
    fun id hfirst => hpassage.unlocked (h.unlocked id hfirst)⟩
  · by_cases hown : j = i
    · subst hown
      rcases hpassage.mapped_of hmapped with hold | ⟨hfind, hcomplete⟩
      · obtain ⟨hfirst, hcomplete⟩ := h.mapped j id hold
        exact ⟨hfirst, hpassage.complete hcomplete⟩
      · rcases hnamed id hfind with ⟨rfl, -⟩ | hnew
        · exact absurd hcomplete hbroken
        · exact hnew
    · rw [stage_turn_of_ne g c hown] at hmapped
      obtain ⟨hfirst, hcomplete⟩ := h.mapped j id hmapped
      exact ⟨hfirst, hpassage.complete hcomplete⟩
  · rcases hpassage.complete_of hcomplete with hold | ⟨-, -, -, hwilling, -⟩
    · exact h.willing id hfirst hold
    · exact hwilling
  · cases hfind : c.regions.find? n with
    | some id =>
      obtain ⟨left, hleft⟩ := hpassage.make_of_freed (h.opens i) hfind hfree
      exact ⟨i, left, hleft⟩
    | none =>
      obtain ⟨j, left, hj⟩ := h.maker hwilling hfind
      by_cases hown : j = i
      · subst hown
        rw [hj] at hpassage
        cases hfree.symm.trans (hpassage.find?_of_make hwilling hfind)
      · exact ⟨j, left, (stage_turn_of_ne g c hown).trans hj⟩
  · rcases hpassage.complete_of hcomplete with hold | ⟨-, -, -, -, handle, hi, hid⟩
    · exact (h.sought id hfirst hold).turn hseated hmeets
        (fun j => .inl (h.unlocked id hfirst)) hkeeps
    · exact .inl ⟨i, handle, hi, hid, hrole i⟩

/-! ## Schedules that spare new regions -/

/-- Every new region has the name. -/
def Standing (n : String) (first : ℕ) (c : Crowd ι) : Prop :=
  ∀ id, first ≤ id → c.regions.Complete id → c.regions.find? n = some id

/-- Nobody removes the name from a region that can be used. -/
def Spares (g : Gathering ι) (n : String) : Crowd ι → List ι → Prop
  | _, [] => True
  | c, i :: schedule =>
    (∀ left id, c.stage i = .approaching (.discard left) → c.regions.find? n = some id →
      ¬ c.regions.Complete id) ∧
    g.Spares n (g.turn c i) schedule

theorem Replacing.standing_turn (h : g.Replacing n junk first c) (hseated : g.Seated n c)
    (hmeets : g.Meets n) (i : ι) (hstanding : Standing n first c)
    (hspares : ∀ left id, c.stage i = .approaching (.discard left) →
      c.regions.find? n = some id → ¬ c.regions.Complete id) :
    Standing n first (g.turn c i) := by
  intro id hfirst hcomplete
  have hpassage := hseated.passage hmeets i
  rcases hpassage.complete_of hcomplete with hold | ⟨-, -, hfind, -⟩
  · have hfind := hstanding id hfirst hold
    exact hpassage.find?_eq (fun left hi => hspares left id hi hfind hold)
      (CallStage.ne_removing (h.opens i)) hfind
  · exact hfind

theorem Replacing.spares_iff_standing (h : g.Replacing n junk first c) (hseated : g.Seated n c)
    (hmeets : g.Meets n) (hrole : ∀ i, (g.opening i).config.role ≠ .slave)
    (hstanding : Standing n first c) (schedule : List ι) :
    g.Spares n c schedule ↔ Standing n first (g.after c schedule) := by
  induction schedule generalizing c with
  | nil => exact iff_of_true trivial hstanding
  | cons i schedule ih =>
    have hturn := h.turn hseated hmeets hrole i
    have hseated' := hseated.turn hmeets i
    rw [Spares, after_cons]
    by_cases hspares : ∀ left id, c.stage i = .approaching (.discard left) →
        c.regions.find? n = some id → ¬ c.regions.Complete id
    · rw [and_iff_right hspares]
      exact ih hturn hseated' (h.standing_turn hseated hmeets i hstanding hspares)
    · refine iff_of_false (fun hall => hspares hall.1) fun hend => ?_
      simp only [not_forall, not_not] at hspares
      obtain ⟨left, id, hi, hfind, hcomplete⟩ := hspares
      have hpassage := hseated.passage hmeets i
      have hfirst : first ≤ id := by
        rcases h.named id hfind with ⟨rfl, -⟩ | ⟨hfirst, -⟩
        · exact absurd hcomplete h.broken
        · exact hfirst
      have hlost : (g.turn c i).regions.find? n ≠ some id := by
        rw [hpassage.find?_of_discard hi]
        exact nofun
      have hlast := hseated'.lost_after hmeets (hpassage.complete hcomplete) hlost schedule
      exact hlast.2 (hend id hfirst hlast.1)

end

/-! ## What comes of it -/

/-- In the end every new region has a master. -/
theorem Replacing.master_of_over (h : g.Replacing n junk first c) (hover : ∀ i, (c.stage i).Over)
    (hfirst : first ≤ id) (hcomplete : c.regions.Complete id) :
    ∃ i e, c.stage i = .opened e ∧ e.region = id ∧ e.role = .master := by
  rcases h.sought id hfirst hcomplete with ⟨i, handle, hi, -⟩ | hlive
  · have hi' := hover i
    rw [hi] at hi'
    exact hi'.elim
  · obtain ⟨i, hi⟩ := h.accounted id .master hfirst nofun hlive
    obtain ⟨e, he, hholds⟩ := CallStage.eq_opened_of_holds (h.opens i) hi
    obtain ⟨hregion, hrole⟩ := Prod.mk.inj hholds
    exact ⟨i, e, he, hregion, hrole⟩

/-- Whoever has opened an endpoint is on a new region. -/
theorem Replacing.opened_on {e : Endpoint} (h : g.Replacing n junk first c)
    (hi : c.stage i = .opened e) : first ≤ e.region ∧ c.regions.Complete e.region :=
  h.mapped i e.region (by rw [hi]; rfl)

/-- A new region without the name is not the only one in the end. -/
theorem Replacing.another_of_lost (h : g.Replacing n junk first c)
    (hover : ∀ i, (c.stage i).Over) (hfirst : first ≤ id) (hcomplete : c.regions.Complete id)
    (hlost : c.regions.find? n ≠ some id) :
    ∃ other, other ≠ id ∧ first ≤ other ∧ c.regions.Complete other := by
  cases hfind : c.regions.find? n with
  | none =>
    obtain ⟨i, left, hi⟩ := h.maker (h.willing id hfirst hcomplete) hfind
    have hi' := hover i
    rw [hi] at hi'
    exact hi'.elim
  | some other =>
    rcases h.named other hfind with ⟨-, hnone⟩ | hnew
    · exact absurd hcomplete (hnone id hfirst)
    · exact ⟨other, fun hsame => hlost (hsame ▸ hfind), hnew⟩

/-- Calls that open an endpoint as master or undecided, under a name that stands for a region that
cannot be used: no two of them have the same side of one region, and as long as nobody has removed
the name from a region that can be used, they are all on one region and at most one is its master.
When all have come to an end, the converse holds too: if a new region has lost the name, there are
endpoints on different regions and two masters. -/
theorem replacement_is_safe_iff [DecidableEq ι] (hmeets : g.Meets n)
    (hrole : ∀ i, (g.opening i).config.role ≠ .slave) (hfind : r.find? n = some junk)
    (hbroken : ¬ r.Complete junk) (hjunk : junk < r.objects.length) (schedule : List ι) :
    let c := g.after (g.start r) schedule
    let together := ∀ i j e e', c.stage i = .opened e → c.stage j = .opened e' →
      e.region = e'.region
    let oneMaster := ∀ i j, (c.stage i).seat = some .master → (c.stage j).seat = some .master →
      i = j
    (∀ i j e e', c.stage i = .opened e → c.stage j = .opened e' → e.region = e'.region →
      e.role = e'.role → i = j) ∧
    (g.Spares n (g.start r) schedule → together ∧ oneMaster) ∧
    ((∀ i, (c.stage i).Over) →
      (g.Spares n (g.start r) schedule ↔ together) ∧
      (g.Spares n (g.start r) schedule ↔ oneMaster)) := by
  intro c together oneMaster
  have hstart := seated_start g n r
  have hfirst := replacing_start (g := g) hfind hbroken hjunk
  have hseated : g.Seated n c := hstart.after hmeets schedule
  have h : g.Replacing n junk r.objects.length c := hstart.after_of_passage hmeets
    (fun c i hc h _ => h.turn hc hmeets hrole i) hfirst schedule
  have hnone : Standing n r.objects.length (g.start r) := fun id hid hcomplete =>
    absurd hcomplete.lt_length (Nat.not_lt.mpr hid)
  have hspares := hfirst.spares_iff_standing hstart hmeets hrole hnone schedule
  have halone (i j : ι) (e e' : Endpoint) (hi : c.stage i = .opened e)
      (hj : c.stage j = .opened e') : e.region = e'.region → e.role = e'.role → i = j :=
    hseated.eq_of_opened hi hj
  have htogether (hstanding : Standing n r.objects.length c) : together :=
    fun i j e e' hi hj => by
      obtain ⟨hnew, hcomplete⟩ := h.opened_on hi
      obtain ⟨hnew', hcomplete'⟩ := h.opened_on hj
      exact Option.some.inj
        ((hstanding _ hnew hcomplete).symm.trans (hstanding _ hnew' hcomplete'))
  have honeMaster (hall : together) : oneMaster := fun i j hmaster hmaster' => by
    obtain ⟨e, hi, hrole⟩ := CallStage.eq_opened_of_seat hmaster
    obtain ⟨e', hj, hrole'⟩ := CallStage.eq_opened_of_seat hmaster'
    exact halone i j e e' hi hj (hall i j e e' hi hj) (hrole.trans hrole'.symm)
  refine ⟨halone, fun hall => ?_, fun hover => ?_⟩
  · have hall := htogether (hspares.mp hall)
    exact ⟨hall, honeMaster hall⟩
  · -- A region that has lost the name has a master, and so has another one.
    have hstanding (hone : oneMaster) : Standing n r.objects.length c := by
      intro id hid hcomplete
      by_contra hlost
      obtain ⟨other, hother, hnew, hcomplete'⟩ := h.another_of_lost hover hid hcomplete hlost
      obtain ⟨i, e, hi, rfl, hmaster⟩ := h.master_of_over hover hid hcomplete
      obtain ⟨j, e', hj, rfl, hmaster'⟩ := h.master_of_over hover hnew hcomplete'
      have hi' : (c.stage i).seat = some .master := by rw [hi, CallStage.seat, hmaster]
      have hj' : (c.stage j).seat = some .master := by rw [hj, CallStage.seat, hmaster']
      obtain rfl := hone i j hi' hj'
      cases hi.symm.trans hj
      exact hother rfl
    refine ⟨⟨fun hall => htogether (hspares.mp hall), fun hall => ?_⟩,
      fun hall => honeMaster (htogether (hspares.mp hall)), fun hone => ?_⟩
    · exact hspares.mpr (hstanding (honeMaster hall))
    · exact hspares.mpr (hstanding hone)

/-! ## A race -/

/-- A name that stands for an object of sixteen bytes. -/
def stub : Regions := ⟨[.zero 16], [("/eshm_a", 0)]⟩

/-- Two look at the name; the first replaces the region and takes its side, and then the second
removes the new region and makes another. The third only comes after that. -/
def crossing : List (Fin 3) :=
  [callA, callB, callA, callA, callA, callB, callB, callB, callC, callC]

/-- One after the other. -/
def queue : List (Fin 3) :=
  [callA, callA, callA, callA, callB, callB, callC, callC]

/-- The first makes the region for all three; in the race its region loses the name. -/
theorem replacement_is_safe_iff_queue :
    let g := threesome fun _ => .master
    g.Meets "/eshm_a" ∧ (∀ i, (g.opening i).config.role ≠ .slave) ∧
      stub.find? "/eshm_a" = some 0 ∧ ¬ stub.Complete 0 ∧ 0 < stub.objects.length ∧
      g.Spares "/eshm_a" (g.start stub) queue ∧ ¬ g.Spares "/eshm_a" (g.start stub) crossing := by
  intro g
  have hmeets := meets_threesome fun _ => .master
  have hrole (i : Fin 3) : (g.opening i).config.role ≠ .slave := nofun
  have hfind : stub.find? "/eshm_a" = some 0 := by decide
  have hbroken : ¬ stub.Complete 0 := by decide
  obtain ⟨-, -, hqueue⟩ := replacement_is_safe_iff hmeets hrole hfind hbroken (by decide) queue
  obtain ⟨-, -, hcrossing⟩ :=
    replacement_is_safe_iff hmeets hrole hfind hbroken (by decide) crossing
  refine ⟨hmeets, hrole, hfind, hbroken, by decide, ?_, fun hspares => ?_⟩
  · exact (hqueue (by decide +kernel)).2.mpr (by decide +kernel)
  · exact absurd ((hcrossing (by decide +kernel)).2.mp hspares) (by decide +kernel)

/-- The removal takes the name from the region of the first, who stays master there. -/
theorem replacement_removes_a_new_region :
    let c := (threesome fun _ => .master).after ((threesome fun _ => .master).start stub) crossing
    ¬ stub.Complete 0 ∧ c.regions.find? "/eshm_a" = some 2 ∧
      List.ofFn (fun i => (c.stage i).holds) = [some (1, .master), some (2, .master), none] := by
  decide +kernel

end PeerLink.Gathering
