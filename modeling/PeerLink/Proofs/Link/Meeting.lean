import Mathlib.Algebra.BigOperators.Group.Finset.Piecewise
import Mathlib.Data.Fintype.EquivFin
import PeerLink.Proofs.Link.Seats

/-! # Meeting under a usable name

Any number of live processes open an endpoint as master or undecided, all under one name that is
free or stands for a complete region without a live side. However their steps interleave, they come
together: the name never changes its region once it has one, and the sides of that region are taken
one after the other.

* `Gathering.Gathered`: everybody who has a region mapped has the one under the name.
* `Gathering.Pace`: how far a call has come after so many of its own steps, if nothing but the
  others stands in its way.

Main statement: `Gathering.meeting_is_race_free`.
-/

namespace PeerLink
set_option autoImplicit false

namespace Gathering

variable {ι : Type} {g : Gathering ι} {n : String} {i : ι} {c : Crowd ι} {id : ObjectId}
  {r r' : Regions} {m : ℕ} {s s' : CallStage}

/-! ## One region -/

/-- Nobody removes the name, it stands for a region that can be used, and that is the one that
everybody has. -/
structure Gathered (n : String) (c : Crowd ι) : Prop where
  opens : Opens c
  keeps : ∀ i left, c.stage i ≠ .approaching (.discard left)
  usable : ∀ id, c.regions.find? n = some id → c.regions.Complete id
  together : ∀ i id, (c.stage i).mapped = some id → c.regions.find? n = some id

theorem gathered_start (g : Gathering ι) (husable : ∀ id, r.find? n = some id → r.Complete id) :
    Gathered n (g.start r) where
  opens := opens_start g r
  keeps i left h := by
    rcases stage_start g r i with hstart | ⟨err, hstart⟩
    all_goals
      rw [hstart] at h
      cases h
  usable := husable
  together i id h := by
    rw [(views_start g r i).1] at h
    cases h

section

variable [DecidableEq ι]

theorem Gathered.find?_turn (h : Gathered n c) (hseated : g.Seated n c) (hmeets : g.Meets n)
    (i : ι) (hfind : c.regions.find? n = some id) : (g.turn c i).regions.find? n = some id :=
  (hseated.passage hmeets i).find?_eq (h.keeps i) (CallStage.ne_removing (h.opens i)) hfind

theorem Gathered.turn (h : Gathered n c) (hseated : g.Seated n c) (hmeets : g.Meets n) (i : ι) :
    Gathered n (g.turn c i) := by
  have hpassage := hseated.passage hmeets i
  refine ⟨h.opens.turn hseated hmeets i, fun j left hj => ?_, fun id hfind => ?_,
    fun j id hmapped => ?_⟩
  · by_cases hown : j = i
    · subst hown
      obtain ⟨-, id, hfind, hbroken⟩ := hpassage.unusable_of hj
      exact hbroken (h.usable id hfind)
    · rw [stage_turn_of_ne g c hown] at hj
      exact h.keeps j left hj
  · rcases hpassage.find?_of hfind with hold | ⟨-, -, hcomplete, -⟩
    · exact hpassage.complete (h.usable id hold)
    · exact hcomplete
  · by_cases hown : j = i
    · subst hown
      rcases hpassage.mapped_of hmapped with hold | ⟨hfind, -⟩
      · exact h.find?_turn hseated hmeets j (h.together j id hold)
      · exact hfind
    · rw [stage_turn_of_ne g c hown] at hmapped
      exact h.find?_turn hseated hmeets i (h.together j id hmapped)

end

/-! ## The pace of a call -/

/-- Nothing but the others stands in a call's way: the settings are sound, the system lets regions
be made, and the region, if there is one, has both sides free and a lock that can be had. -/
structure Clear (g : Gathering ι) (n : String) (r : Regions) : Prop where
  valid : ∀ i, (g.opening i).config.validate = .ok ()
  willing : g.kernel.Willing
  free : ∀ id side, r.find? n = some id → side ≠ .auto → g.live (r.slot id side) = false
  lock : ∀ i id, r.find? n = some id → (r.layout id).header.lock.Available (g.process i)

/-- How far a call has come after so many of its own steps. It looks at the name a second time only
if somebody was faster to make the region, and it is refused only for want of a side. -/
inductive Pace (g : Gathering ι) (n : String) (i : ι) (r : Regions) : ℕ → CallStage → Prop where
  | look : Pace g n i r 0 (.approaching .start)
  | make : Pace g n i r 1 (.approaching (.make 2))
  | again {id : ObjectId} {err : LinkError} (hfind : r.find? n = some id) :
      Pace g n i r 2 (.approaching (.look 2 (some err)))
  | attached {m : ℕ} {handle : RegionHandle} (hm : m ≤ 3)
      (hfind : r.find? n = some handle.object) : Pace g n i r m (.approaching (.attached handle))
  | opened {m : ℕ} {e : Endpoint} (hfind : r.find? n = some e.region) : Pace g n i r m (.opened e)
  | refused {m : ℕ} {id : ObjectId} {reason : String} (hfind : r.find? n = some id)
      (hmaster : g.live (r.slot id .master) = true)
      (hslave : (g.opening i).config.role = .auto → g.live (r.slot id .slave) = true) :
      Pace g n i r m (.refused (.roleMismatch (g.opening i).config.role reason))

theorem Pace.congr (h : g.Pace n i r m s)
    (hfind : ∀ id, r.find? n = some id → r'.find? n = some id)
    (hlive : ∀ id side, side ≠ .auto → g.live (r.slot id side) = true →
      g.live (r'.slot id side) = true) : g.Pace n i r' m s := by
  cases h with
  | look => exact .look
  | make => exact .make
  | again hbound => exact .again (hfind _ hbound)
  | attached hm hbound => exact .attached hm (hfind _ hbound)
  | opened hbound => exact .opened (hfind _ hbound)
  | refused hbound hmaster hslave =>
    exact .refused (hfind _ hbound) (hlive _ _ nofun hmaster)
      fun hauto => hlive _ _ nofun (hslave hauto)

theorem Pace.passage (h : g.Pace n i r m s) (hpassage : g.Passage n i s r s' r')
    (hwilling : g.kernel.Willing) (hrole : (g.opening i).config.role ≠ .slave)
    (husable : ∀ id, r.find? n = some id → r.Complete id)
    (hlock : ∀ id, r.find? n = some id → (r.layout id).header.lock.Available (g.process i)) :
    g.Pace n i r' (m + 1) s' := by
  cases h with
  | look =>
    generalize hs : CallStage.approaching .start = s at hpassage
    rw [Approach.start, Approach.looks] at hs
    cases hpassage with
    | attached hfind =>
      exact .attached (by decide) hfind
    | missed =>
      cases hs
      exact .make
    | condemned hmine hfind hbroken => exact absurd (husable _ hfind) hbroken
    | turnedAway hslave => exact absurd hslave hrole
    | exhausted ha =>
      cases hs
      rcases ha with ⟨last, ha⟩ | ⟨err, ha⟩ <;> cases ha
    | idle hover =>
      subst hs
      exact hover.elim
    | _ => cases hs
  | make =>
    cases hpassage with
    | made hmine hfind hnew =>
      refine .attached (by decide) ?_
      rw [Regions.find?_found _ hfind, if_pos rfl, hnew]
    | forestalled hfind => exact .again hfind
    | unmade hunwilling => exact absurd hwilling hunwilling
    | exhausted ha => rcases ha with ⟨last, ha⟩ | ⟨err, ha⟩ <;> cases ha
    | idle hover => exact hover.elim
  | again hbound =>
    cases hpassage with
    | attached hfind => exact .attached (by decide) hfind
    | missed hmine hfind =>
      rw [hfind] at hbound
      cases hbound
    | condemned hmine hfind hbroken => exact absurd (husable _ hfind) hbroken
    | turnedAway hslave => exact absurd hslave hrole
    | exhausted ha => rcases ha with ⟨last, ha⟩ | ⟨err, ha⟩ <;> cases ha
    | idle hover => exact hover.elim
  | attached hm hbound =>
    cases hpassage with
    | seated hmapped hregion hgrants hstays =>
      refine .opened ?_
      rw [hstays.find?_eq, hregion]
      exact hbound
    | denied hstays hslot hreason =>
      obtain ⟨hdenied, reason, rfl⟩ := hreason (hlock _ hbound)
      have hmaster := Header.isLive_of_not_grants hrole (hdenied .master)
      refine .refused ((hstays.find?_eq n).trans hbound) (by rw [hslot]; exact hmaster)
        fun hauto => ?_
      rw [hslot, ← Bool.not_eq_false]
      intro hfree
      rw [hauto] at hdenied
      exact hdenied .slave (.inr ⟨rfl, hmaster, hfree⟩)
    | exhausted ha => rcases ha with ⟨last, ha⟩ | ⟨err, ha⟩ <;> cases ha
    | idle hover => exact hover.elim
  | opened hbound =>
    cases hpassage
    exact .opened hbound
  | refused hbound hmaster hslave =>
    cases hpassage
    exact .refused hbound hmaster hslave

section

variable [DecidableEq ι]

/-- Everybody keeps pace, and the lock of the region stays to be had. -/
structure Brisk (g : Gathering ι) (n : String) (turns : ι → ℕ) (c : Crowd ι) : Prop where
  pace : ∀ i, g.Pace n i c.regions (turns i) (c.stage i)
  lock : ∀ i id, c.regions.find? n = some id →
    (c.regions.layout id).header.lock.Available (g.process i)

omit [DecidableEq ι] in
theorem brisk_start (hclear : g.Clear n r) : g.Brisk n (fun _ => 0) (g.start r) where
  pace i := by
    have hstart : (g.start r).stage i = .approaching .start := by
      simp only [start, Opening.start, hclear.valid i]
    rw [hstart]
    exact .look
  lock := hclear.lock

theorem Brisk.turn {turns : ι → ℕ} (h : g.Brisk n turns c) (hgathered : Gathered n c)
    (hseated : g.Seated n c) (hmeets : g.Meets n) (hwilling : g.kernel.Willing)
    (hrole : ∀ i, (g.opening i).config.role ≠ .slave) (i : ι) :
    g.Brisk n (fun j => turns j + [i].count j) (g.turn c i) := by
  have hpassage := hseated.passage hmeets i
  refine ⟨fun j => ?_, fun j id hfind => ?_⟩
  · by_cases hown : j = i
    · subst hown
      rw [List.count_singleton_self]
      exact (h.pace j).passage hpassage hwilling (hrole j) hgathered.usable (h.lock j)
    · rw [stage_turn_of_ne g c hown, List.count_singleton, if_neg (by simpa using Ne.symm hown)]
      exact (h.pace j).congr (fun id => hgathered.find?_turn hseated hmeets i)
        fun id side => hseated.live_turn hmeets (CallStage.ne_releasing (hgathered.opens i))
  · rcases hpassage.find?_of hfind with hold | ⟨-, hnew, -⟩
    · exact hpassage.available (h.lock j id hold)
    · refine hpassage.available (.inl ?_)
      exact (Regions.vacant_of_length_le (Nat.le_of_eq hnew.symm)).1

theorem Brisk.after {turns : ι → ℕ} (h : g.Brisk n turns c) (hgathered : Gathered n c)
    (hseated : g.Seated n c) (hmeets : g.Meets n) (hwilling : g.kernel.Willing)
    (hrole : ∀ i, (g.opening i).config.role ≠ .slave) (schedule : List ι) :
    g.Brisk n (fun j => turns j + schedule.count j) (g.after c schedule) := by
  induction schedule generalizing c turns with
  | nil => exact h
  | cons i schedule ih =>
    have hturn := h.turn hgathered hseated hmeets hwilling hrole i
    have hrest := ih hturn (hgathered.turn hseated hmeets i) (hseated.turn hmeets i)
    have hcount (j : ι) : [i].count j + schedule.count j = (i :: schedule).count j :=
      List.count_append.symm
    simp only [Nat.add_assoc, hcount] at hrest
    exact hrest

end

end Gathering

/-! ## What comes of it -/

namespace CallStage

/-- Whether a call was refused for want of a side. -/
def isMismatch : CallStage → Bool
  | .refused (.roleMismatch _ _) => true
  | _ => false

end CallStage

namespace Gathering

variable {ι : Type} {g : Gathering ι} {n : String} {i j : ι} {c : Crowd ι} {r : Regions}

theorem Pace.over {m : ℕ} {s : CallStage} (h : g.Pace n i r m s) (hm : 4 ≤ m) : s.Over := by
  cases h with
  | look | make | again => exact absurd hm (by decide)
  | attached hless => exact absurd (Nat.le_trans hm hless) (by decide)
  | opened | refused => trivial

/-- Who has come to the end has an endpoint or found no side. -/
theorem Pace.outcome {m : ℕ} {s : CallStage} (h : g.Pace n i r m s) (hover : s.Over) :
    (∃ e, s = .opened e) ∨
      ∃ id reason, s = .refused (.roleMismatch (g.opening i).config.role reason) ∧
        r.find? n = some id ∧ g.live (r.slot id .master) = true ∧
        ((g.opening i).config.role = .auto → g.live (r.slot id .slave) = true) := by
  cases h with
  | look | make | again | attached => exact hover.elim
  | opened => exact .inl ⟨_, rfl⟩
  | refused hfind hmaster hslave => exact .inr ⟨_, _, rfl, hfind, hmaster, hslave⟩

/-- One master, one slave, and all the others refused, if both sides are taken and nobody is still
at it. -/
theorem card_outcomes [Fintype ι] (hmaster : ∃ i, (c.stage i).seat = some .master)
    (hslave : ∃ i, (c.stage i).seat = some .slave)
    (halone : ∀ i j side, (c.stage i).seat = some side → (c.stage j).seat = some side → i = j)
    (houtcome : ∀ i, (c.stage i).seat = some .master ∨ (c.stage i).seat = some .slave ∨
      (c.stage i).isMismatch = true) :
    (Finset.univ.filter fun i => (c.stage i).seat = some .master).card = 1 ∧
      (Finset.univ.filter fun i => (c.stage i).seat = some .slave).card = 1 ∧
      (Finset.univ.filter fun i => (c.stage i).isMismatch = true).card = Fintype.card ι - 2 := by
  have hone (side : Role) (h : ∃ i, (c.stage i).seat = some side) :
      (Finset.univ.filter fun i => (c.stage i).seat = some side).card = 1 := by
    obtain ⟨i, hi⟩ := h
    refine Finset.card_eq_one.mpr ⟨i, Finset.ext fun j => ?_⟩
    rw [Finset.mem_filter_univ, Finset.mem_singleton]
    exact ⟨fun hj => halone j i side hj hi, fun hj => hj ▸ hi⟩
  have hsum : (Finset.univ.filter fun i => (c.stage i).seat = some .master).card +
      (Finset.univ.filter fun i => (c.stage i).seat = some .slave).card +
      (Finset.univ.filter fun i => (c.stage i).isMismatch = true).card = Fintype.card ι := by
    rw [Finset.card_filter, Finset.card_filter, Finset.card_filter, ← Finset.sum_add_distrib,
      ← Finset.sum_add_distrib, ← Finset.card_univ, Finset.card_eq_sum_ones]
    refine Finset.sum_congr rfl fun i _ => ?_
    rcases houtcome i with h | h | h
    · obtain ⟨e, hi, hrole⟩ := CallStage.eq_opened_of_seat h
      simp [hi, hrole, CallStage.seat, CallStage.isMismatch]
    · obtain ⟨e, hi, hrole⟩ := CallStage.eq_opened_of_seat h
      simp [hi, hrole, CallStage.seat, CallStage.isMismatch]
    · have hnone : (c.stage i).seat = none := by
        cases hi : c.stage i with
        | opened e =>
          rw [hi] at h
          cases h
        | _ => rfl
      simp [h, hnone]
  have hmasters := hone .master hmaster
  have hslaves := hone .slave hslave
  exact ⟨hmasters, hslaves, by omega⟩

/-- The live sides of the region under the name are those of endpoints, and so will be those of
regions still to be made. -/
structure Settled (g : Gathering ι) (n : String) (r : Regions) (c : Crowd ι) : Prop where
  accounted : g.Accounted (fun id => r.find? n = some id ∨ r.objects.length ≤ id) c
  named : ∀ id, c.regions.find? n = some id → r.find? n = some id ∨ r.objects.length ≤ id
  length_le : r.objects.length ≤ c.regions.objects.length

theorem settled_start (hclear : g.Clear n r) : g.Settled n r (g.start r) where
  accounted := by
    rintro id side (hfind | hnew) hside hlive
    · have hfree := hclear.free id side hfind hside
      exact absurd (hlive.symm.trans hfree) nofun
    · have hvacant := ((Regions.vacant_of_length_le hnew).2 side).1
      simp only [start, live, RoleSlot.isLive, Regions.slot, hvacant] at hlive
      cases hlive
  named id := .inl
  length_le := Nat.le_refl _

theorem Settled.turn [DecidableEq ι] (h : g.Settled n r c) (hopens : Opens c)
    (hseated : g.Seated n c) (hmeets : g.Meets n) (i : ι) : g.Settled n r (g.turn c i) where
  accounted := h.accounted.turn hseated hmeets (CallStage.ne_releasing (hopens i))
  named id hfind := by
    rcases (hseated.passage hmeets i).find?_of hfind with hold | ⟨-, hnew, -⟩
    · exact h.named id hold
    · exact .inr (hnew ▸ h.length_le)
  length_le := Nat.le_trans h.length_le (hseated.passage hmeets i).length_le

/-- Two live sides of the region under the name are the sides of two endpoints. -/
theorem Settled.both_seats {id : ObjectId} (h : g.Settled n r c) (hopens : Opens c)
    (hfind : c.regions.find? n = some id)
    (hmaster : g.live (c.regions.slot id .master) = true)
    (hslave : g.live (c.regions.slot id .slave) = true) :
    (∃ i, (c.stage i).seat = some .master) ∧ ∃ i, (c.stage i).seat = some .slave := by
  have hseat (side : Role) (hside : side ≠ .auto)
      (hlive : g.live (c.regions.slot id side) = true) : ∃ i, (c.stage i).seat = some side := by
    obtain ⟨i, hi⟩ := h.accounted id side (h.named id hfind) hside hlive
    obtain ⟨e, he, hholds⟩ := CallStage.eq_opened_of_holds (hopens i) hi
    cases hholds
    exact ⟨i, by rw [he]; rfl⟩
  exact ⟨hseat .master nofun hmaster, hseat .slave nofun hslave⟩

theorem Seated.role_of_opened {e : Endpoint} (h : g.Seated n c) (hi : c.stage i = .opened e) :
    e.role = .master ∨ e.role = .slave := by
  have hside := (h.fits i).decided e.region e.role (by rw [hi]; rfl)
  cases hrole : e.role with
  | master => exact .inl rfl
  | slave => exact .inr rfl
  | auto => exact absurd hrole hside

/-- Two endpoints on one region have both its sides. -/
theorem Seated.both_seats {e e' : Endpoint} (h : g.Seated n c) (hi : c.stage i = .opened e)
    (hj : c.stage j = .opened e') (hregion : e.region = e'.region) (hne : i ≠ j) :
    (∃ i, (c.stage i).seat = some .master) ∧ ∃ i, (c.stage i).seat = some .slave := by
  have hdiffer : e.role ≠ e'.role := fun hrole => hne (h.eq_of_opened hi hj hregion hrole)
  have hseat {i : ι} {e : Endpoint} {side : Role} (hi : c.stage i = .opened e)
      (hrole : e.role = side) : ∃ i, (c.stage i).seat = some side :=
    ⟨i, by rw [hi, CallStage.seat, hrole]⟩
  rcases h.role_of_opened hi with hrole | hrole <;> rcases h.role_of_opened hj with hrole' | hrole'
  · exact absurd (hrole.trans hrole'.symm) hdiffer
  · exact ⟨hseat hi hrole, hseat hj hrole'⟩
  · exact ⟨hseat hj hrole', hseat hi hrole⟩
  · exact absurd (hrole.trans hrole'.symm) hdiffer

/-- Calls that open an endpoint as master or undecided, under a name that is free or stands for a
complete region, come to an end whatever the schedule, all on the region under the name, and no two
on one side. If nothing else stands in their way they do so in four steps, that is with two looks at
the name, only the lack of a side refuses any of them, and of two or more undecided ones exactly one
becomes master, one slave. -/
theorem meeting_is_race_free [DecidableEq ι] [Fintype ι] (hmeets : g.Meets n)
    (hrole : ∀ i, (g.opening i).config.role ≠ .slave)
    (husable : ∀ id, r.find? n = some id → r.Complete id) (schedule : List ι) :
    let c := g.after (g.start r) schedule
    (∀ i, Approach.maxSteps + 1 ≤ schedule.count i → (c.stage i).Over) ∧
    (∀ i e, c.stage i = .opened e → c.regions.find? n = some e.region) ∧
    (∀ i j side, (c.stage i).seat = some side → (c.stage j).seat = some side → i = j) ∧
    (∀ i e, c.stage i = .opened e → e.role = .master ∨ e.role = .slave) ∧
    (g.Clear n r →
      (∀ i, 4 ≤ schedule.count i → (c.stage i).Over) ∧
      (∀ i err, c.stage i = .refused err →
        ∃ reason, err = .roleMismatch (g.opening i).config.role reason) ∧
      ((∀ i, (g.opening i).config.role = .auto) → 2 ≤ Fintype.card ι →
        (∀ i, (c.stage i).Over) →
        (Finset.univ.filter fun i => (c.stage i).seat = some .master).card = 1 ∧
        (Finset.univ.filter fun i => (c.stage i).seat = some .slave).card = 1 ∧
        (Finset.univ.filter fun i => (c.stage i).isMismatch = true).card =
          Fintype.card ι - 2)) := by
  intro c
  have hstart := seated_start g n r
  have hseated : g.Seated n c := hstart.after hmeets schedule
  have hgathered : Gathered n c := hstart.after_of_passage hmeets
    (fun c i hc h _ => h.turn hc hmeets i) (gathered_start g husable) schedule
  have hnamed (i : ι) (e : Endpoint) (hi : c.stage i = .opened e) :
      c.regions.find? n = some e.region := hgathered.together i e.region (by rw [hi]; rfl)
  have halone (i j : ι) (side : Role) (hi : (c.stage i).seat = some side)
      (hj : (c.stage j).seat = some side) : i = j := by
    obtain ⟨e, he, rfl⟩ := CallStage.eq_opened_of_seat hi
    obtain ⟨e', he', hrole⟩ := CallStage.eq_opened_of_seat hj
    have hregion := Option.some.inj ((hnamed i e he).symm.trans (hnamed j e' he'))
    exact hseated.eq_of_opened he he' hregion hrole.symm
  refine ⟨fun i => over_of_count, hnamed, halone, fun i e => hseated.role_of_opened,
    fun hclear => ?_⟩
  have hbrisk := (brisk_start hclear).after (gathered_start g husable) hstart hmeets
    hclear.willing hrole schedule
  have hoverpace (i : ι) (hi : 4 ≤ schedule.count i) : (c.stage i).Over :=
    (hbrisk.pace i).over (Nat.le_trans hi (Nat.le_add_left ..))
  refine ⟨hoverpace, fun i err hi => ?_, fun hauto hcard hover => ?_⟩
  · rcases (hbrisk.pace i).outcome (by rw [hi]; trivial) with ⟨e, h⟩ | ⟨id, reason, h, -⟩
    · cases h.symm.trans hi
    · cases h.symm.trans hi
      exact ⟨reason, rfl⟩
  · have houtcome (i : ι) := (hbrisk.pace i).outcome (hover i)
    have hseats : (∃ i, (c.stage i).seat = some .master) ∧
        ∃ i, (c.stage i).seat = some .slave := by
      by_cases hall : ∀ i, ∃ e, c.stage i = .opened e
      · obtain ⟨i, j, hne⟩ := Fintype.exists_pair_of_one_lt_card hcard
        obtain ⟨e, hi⟩ := hall i
        obtain ⟨e', hj⟩ := hall j
        have hregion := Option.some.inj ((hnamed i e hi).symm.trans (hnamed j e' hj))
        exact hseated.both_seats hi hj hregion hne
      · rw [not_forall] at hall
        obtain ⟨i, hi⟩ := hall
        obtain ⟨id, reason, -, hfind, hmaster, hslave⟩ := (houtcome i).resolve_left hi
        have hsettled := hstart.after_of_passage (I := fun c => g.Settled n r c ∧ Opens c) hmeets
          (fun c i hc h _ => ⟨h.1.turn h.2 hc hmeets i, h.2.turn hc hmeets i⟩)
          ⟨settled_start hclear, opens_start g r⟩ schedule
        exact hsettled.1.both_seats hsettled.2 hfind hmaster (hslave (hauto i))
    refine card_outcomes hseats.1 hseats.2 halone fun i => ?_
    rcases houtcome i with ⟨e, hi⟩ | ⟨id, reason, hi, -⟩
    · rcases hseated.role_of_opened hi with hside | hside
      · exact .inl (by rw [hi, CallStage.seat, hside])
      · exact .inr (.inl (by rw [hi, CallStage.seat, hside]))
    · exact .inr (.inr (by rw [hi]; rfl))

/-- Everybody in turn, four times over. -/
def rounds : List (Fin 3) :=
  [callA, callB, callC, callA, callB, callC, callA, callB, callC, callA, callB, callC]

/-- Three undecided processes, step by step at the same time, make a pair and one refusal. -/
theorem meeting_is_race_free_rounds :
    let g := threesome fun _ => .auto
    let c := g.after (g.start .empty) rounds
    g.Meets "/eshm_a" ∧ (∀ i, (g.opening i).config.role ≠ .slave) ∧ g.Clear "/eshm_a" .empty ∧
      (∀ i, 4 ≤ rounds.count i) ∧
      (Finset.univ.filter fun i => (c.stage i).seat = some .master).card = 1 ∧
      (Finset.univ.filter fun i => (c.stage i).seat = some .slave).card = 1 ∧
      (Finset.univ.filter fun i => (c.stage i).isMismatch = true).card = 1 := by
  intro g c
  have hmeets := meets_threesome fun _ => .auto
  have hrole (i : Fin 3) : (g.opening i).config.role ≠ .slave := nofun
  have hclear : g.Clear "/eshm_a" .empty := by
    refine ⟨fun _ => ?_, ⟨rfl, by decide⟩, nofun, nofun⟩
    exact (rfl : EndpointConfig.validate { name := "a", role := .auto } = .ok ())
  have hturns : ∀ i, 4 ≤ rounds.count i := by decide
  obtain ⟨-, -, -, -, h⟩ := meeting_is_race_free (r := .empty) hmeets hrole nofun rounds
  obtain ⟨hover, -, hcards⟩ := h hclear
  exact ⟨hmeets, hrole, hclear, hturns,
    hcards (fun _ => rfl) (by decide) fun i => hover i (hturns i)⟩

end Gathering
end PeerLink
