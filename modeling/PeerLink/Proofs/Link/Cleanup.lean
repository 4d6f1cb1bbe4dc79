import PeerLink.Proofs.Link.Meeting

/-! # Closing while others open

One endpoint is closed while any number of live processes open one under the same name. The closer
gives its side up under the lock, and removes the name if it then sees no live peer. Somebody may
have the region mapped by that time without having claimed a side, and is left on a region without a
name. That is the one thing that can go wrong.

* `Gathering.Parting`: an endpoint that is about to close, and the others about to open.
* `Gathering.Staying`: what holds until the name is removed.
* `Gathering.Occupied`: a region that somebody has mapped; by `Adrift.turn` somebody always has it
  from then on, since a side is refused only if it is another's.
* `Gathering.Unattended`: a schedule in which the name is only removed while nobody else has the
  region mapped.

Main statement: `Gathering.cleanup_is_safe_iff`.
-/

namespace PeerLink
set_option autoImplicit false

/-- A request that is granted no side has found a live one. -/
theorem Header.exists_isLive_of_not_grants {p : Process} {h : Header} {requested : Role}
    (hdenied : ∀ side, ¬ h.Grants p requested side) :
    ∃ side, side ≠ .auto ∧ (h.slot side).isLive p = true := by
  by_cases hrole : requested = .slave
  · subst hrole
    refine ⟨.slave, nofun, ?_⟩
    rw [← Bool.not_eq_false]
    exact fun hfree => hdenied .slave ⟨rfl, hfree⟩
  · exact ⟨.master, nofun, isLive_of_not_grants hrole (hdenied .master)⟩

namespace Gathering

variable {ι : Type} {g : Gathering ι} {n : String} {i j k : ι} {c : Crowd ι} {e : Endpoint}
  {id : ObjectId} {s' : CallStage} {r r' : Regions}

/-! ## The closer's steps -/

/-- Whoever gives a side up and goes on to the name leaves a region without a live side. -/
theorem Passage.of_releasing (h : g.Passage n i (.releasing e) r s' r') (hrole : e.role ≠ .auto)
    (hown : (r.slot e.region e.role).pid = (g.opening i).pid) :
    (∃ result, s' = .left result) ∨
      s' = .checking e ∧ (r'.layout e.region).header.lock.owner = 0 ∧
        ∀ side, side ≠ .auto → g.live (r'.slot e.region side) = false := by
  cases h with
  | idle hover => exact hover.elim
  | stuck => exact .inl ⟨_, rfl⟩
  | released hstays hslot hfree hs =>
    rcases hs with rfl | ⟨rfl, hpeer⟩
    · exact .inl ⟨_, rfl⟩
    · refine .inr ⟨rfl, hfree, fun side hside => ?_⟩
      rw [hslot _ _ hside]
      by_cases hsame : side = e.role
      · rw [if_pos ⟨rfl, hsame⟩, hsame, ← Bool.not_eq_true]
        exact fun hlive => (RoleSlot.isLive_of_vacateIfOwn hlive).2 hown
      · have hother : side = e.role.peer := by
          revert hside hsame hrole
          cases side <;> cases e.role <;> decide
        rw [if_neg fun h => hsame h.2, hother]
        exact hpeer

theorem Passage.of_checking (h : g.Passage n i (.checking e) r s' r') :
    r' = r ∧ ((∃ result, s' = .left result) ∨ s' = .removing e) := by
  cases h with
  | idle hover => exact hover.elim
  | superseded => exact ⟨rfl, .inl ⟨_, rfl⟩⟩
  | confirmed => exact ⟨rfl, .inr rfl⟩

theorem Passage.of_removing (h : g.Passage n i (.removing e) r s' r') :
    s' = .left (.ok ()) ∧ r' = r.free n := by
  cases h with
  | idle hover => exact hover.elim
  | removed => exact ⟨rfl, rfl⟩

theorem Passage.of_left {result : Except LinkError Unit}
    (h : g.Passage n i (.left result) r s' r') : s' = .left result := by
  cases h
  rfl

/-! ## While the name stands -/

/-- An endpoint about to be closed under a name that stands for its region; the others are about to
open one, or have one on the same region. -/
structure Parting (g : Gathering ι) (n : String) (k : ι) (e : Endpoint) (c : Crowd ι) : Prop where
  seated : g.Seated n c
  closer : c.stage k = .releasing e
  others : ∀ i ≠ k, c.stage i = (g.opening i).start ∨ ∃ e', c.stage i = .opened e' ∧
    e'.region = e.region
  own : (c.regions.slot e.region e.role).pid = (g.opening k).pid
  named : c.regions.find? n = some e.region
  usable : c.regions.Complete e.region

/-- What holds until the name is removed: there is but one region. Once the closer has found it
empty, its live sides are those of others who have come since. -/
structure Staying (g : Gathering ι) (n : String) (k : ι) (e : Endpoint) (c : Crowd ι) : Prop where
  closer : c.stage k = .releasing e ∨ c.stage k = .checking e ∨ c.stage k = .removing e ∨
    ∃ result, c.stage k = .left result
  others : ∀ i ≠ k, (c.stage i).closing = none
  keeps : ∀ i left, c.stage i ≠ .approaching (.discard left)
  named : c.regions.find? n = some e.region
  usable : c.regions.Complete e.region
  together : ∀ i id, (c.stage i).mapped = some id → id = e.region
  own : c.stage k = .releasing e → (c.regions.slot e.region e.role).pid = (g.opening k).pid
  accounted : c.stage k = .checking e ∨ c.stage k = .removing e →
    g.Accounted (· = e.region) c ∧ (c.regions.layout e.region).header.lock.owner = 0

theorem Parting.staying (h : g.Parting n k e c) : g.Staying n k e c := by
  have hviews (i : ι) (hi : i ≠ k) : (c.stage i).closing = none ∧
      (∀ left, c.stage i ≠ .approaching (.discard left)) ∧
      ∀ id, (c.stage i).mapped = some id → id = e.region := by
    rcases h.others i hi with hstart | ⟨e', he', hregion⟩
    · rcases (g.opening i).start_cases with hs | ⟨err, hs⟩
      all_goals
        rw [hstart, hs]
        exact ⟨rfl, nofun, nofun⟩
    · rw [he']
      exact ⟨rfl, nofun, fun id hid => (Option.some.inj hid).symm.trans hregion⟩
  refine ⟨.inl h.closer, fun i hi => (hviews i hi).1, fun i => ?_, h.named, h.usable, fun i => ?_,
    fun _ => h.own, fun hpast => ?_⟩
  · by_cases hi : i = k
    · rw [hi, h.closer]
      exact nofun
    · exact (hviews i hi).2.1
  · by_cases hi : i = k
    · rw [hi, h.closer]
      exact fun id hid => (Option.some.inj hid).symm
    · exact (hviews i hi).2.2
  · rw [h.closer] at hpast
    rcases hpast with hpast | hpast <;> cases hpast

/-- Nobody but the closer removes the name. -/
theorem Staying.eq_of_removing {e' : Endpoint} (h : g.Staying n k e c)
    (hi : c.stage i = .removing e') : i = k ∧ e' = e := by
  by_cases hown : i = k
  · subst hown
    rcases h.closer with hk | hk | hk | ⟨result, hk⟩ <;> cases hk.symm.trans hi
    exact ⟨rfl, rfl⟩
  · exact absurd hi (CallStage.ne_removing (h.others i hown) e')

section

variable [DecidableEq ι]

/-- The turns of the closer until it removes the name. -/
theorem Staying.closer_turn (h : g.Staying n k e c) (hseated : g.Seated n c)
    (hmeets : g.Meets n) (hstays : c.stage k ≠ .removing e) :
    (∃ result, (g.turn c k).stage k = .left result) ∨
      (g.turn c k).stage k ≠ .releasing e ∧
        ((g.turn c k).stage k = .checking e ∨ (g.turn c k).stage k = .removing e) ∧
        g.Accounted (· = e.region) (g.turn c k) ∧
        ((g.turn c k).regions.layout e.region).header.lock.owner = 0 := by
  have hpassage := hseated.passage hmeets k
  rcases h.closer with hk | hk | hk | ⟨result, hk⟩
  · have hrole := (hseated.fits k).decided e.region e.role (by rw [hk]; rfl)
    rw [hk] at hpassage
    rcases hpassage.of_releasing hrole (h.own hk) with hleft | ⟨hs, hfree, hempty⟩
    · exact .inl hleft
    · refine .inr ⟨by rw [hs]; exact nofun, .inl hs, ?_, hfree⟩
      rintro id side rfl hside hlive
      exact absurd ((hempty side hside).symm.trans hlive) nofun
  · obtain ⟨haccounted, hfree⟩ := h.accounted (.inl hk)
    rw [hk] at hpassage
    obtain ⟨hregions, hleft | hs⟩ := hpassage.of_checking
    · exact .inl hleft
    · have hkeeps (e' : Endpoint) : c.stage k ≠ .releasing e' := by rw [hk]; exact nofun
      exact .inr ⟨by rw [hs]; exact nofun, .inr hs, haccounted.turn hseated hmeets hkeeps,
        by rw [hregions]; exact hfree⟩
  · exact absurd hk hstays
  · rw [hk] at hpassage
    exact .inl ⟨result, hpassage.of_left⟩

theorem Staying.turn (h : g.Staying n k e c) (hseated : g.Seated n c) (hmeets : g.Meets n)
    (hstays : c.stage i ≠ .removing e) : g.Staying n k e (g.turn c i) := by
  have hpassage := hseated.passage hmeets i
  have hkept (e' : Endpoint) (hi : c.stage i = .removing e') : False :=
    hstays ((h.eq_of_removing hi).2 ▸ hi)
  have hnamed : (g.turn c i).regions.find? n = some e.region :=
    hpassage.find?_eq (h.keeps i) hkept h.named
  have hcommon : (∀ j ≠ k, ((g.turn c i).stage j).closing = none) ∧
      (∀ j left, (g.turn c i).stage j ≠ .approaching (.discard left)) ∧
      ∀ j id, ((g.turn c i).stage j).mapped = some id → id = e.region := by
    refine ⟨fun j hj => ?_, fun j left hs => ?_, fun j id hmapped => ?_⟩
    · by_cases hown : j = i
      · subst hown
        rw [Option.eq_none_iff_forall_not_mem]
        intro e' he'
        cases (h.others j hj).symm.trans (hpassage.closing_of he')
      · rw [stage_turn_of_ne g c hown]
        exact h.others j hj
    · by_cases hown : j = i
      · subst hown
        obtain ⟨-, id, hfind, hbroken⟩ := hpassage.unusable_of hs
        cases h.named.symm.trans hfind
        exact hbroken h.usable
      · rw [stage_turn_of_ne g c hown] at hs
        exact h.keeps j left hs
    · by_cases hown : j = i
      · subst hown
        rcases hpassage.mapped_of hmapped with hold | ⟨hfind, -⟩
        · exact h.together j id hold
        · exact Option.some.inj (hfind.symm.trans hnamed)
      · rw [stage_turn_of_ne g c hown] at hmapped
        exact h.together j id hmapped
  obtain ⟨hothers, hkeeps, htogether⟩ := hcommon
  by_cases hown : i = k
  · subst hown
    rcases h.closer_turn hseated hmeets hstays with ⟨result, hs⟩ | ⟨hne, hs, haccounted⟩
    · refine ⟨.inr (.inr (.inr ⟨result, hs⟩)), hothers, hkeeps, hnamed, hpassage.complete h.usable,
        htogether, fun hk => ?_, fun hk => ?_⟩
      · cases hs.symm.trans hk
      · rcases hk with hk | hk <;> cases hs.symm.trans hk
    · exact ⟨.inr (hs.imp_right .inl), hothers, hkeeps, hnamed, hpassage.complete h.usable,
        htogether, fun hk => absurd hk hne, fun _ => haccounted⟩
  · have hcloser : (g.turn c i).stage k = c.stage k := stage_turn_of_ne g c (Ne.symm hown)
    refine ⟨by rw [hcloser]; exact h.closer, hothers, hkeeps, hnamed, hpassage.complete h.usable,
      htogether, fun hk => ?_, fun hk => ?_⟩
    · rw [hcloser] at hk
      have hholds : (c.stage k).holds = some (e.region, e.role) := by rw [hk]; rfl
      have hside := (hseated.fits k).decided _ _ hholds
      rw [hpassage.pid_eq hside (hseated.live k _ _ hholds)]
      exact h.own hk
    · rw [hcloser] at hk
      obtain ⟨haccounted, hfree⟩ := h.accounted hk
      have hkeeps := CallStage.ne_releasing (h.others i hown)
      exact ⟨haccounted.turn hseated hmeets hkeeps, hpassage.unlocked hfree⟩

end

/-! ## After the name is gone -/

/-- Somebody has the region mapped. -/
def Occupied (id : ObjectId) (c : Crowd ι) : Prop := ∃ i, (c.stage i).mapped = some id

/-- Who has a region mapped keeps it, or finds a live side there. -/
theorem Passage.mapped_or_live {s : CallStage} (h : g.Passage n i s r s' r')
    (hclosing : s.closing = none) (hmapped : s.mapped = some id)
    (hlock : (r.layout id).header.lock.Available (g.process i)) :
    s'.mapped = some id ∨ ∃ side, side ≠ .auto ∧ g.live (r.slot id side) = true := by
  cases h with
  | idle => exact .inl hmapped
  | seated _ hregion =>
    cases hmapped
    exact .inl (congrArg some hregion)
  | denied hstays hslot hreason =>
    cases hmapped
    exact .inr (Header.exists_isLive_of_not_grants (hreason hlock).1)
  | released | stuck | superseded | confirmed | removed => cases hclosing
  | exhausted ha => rcases ha with ⟨last, rfl⟩ | ⟨err, rfl⟩ <;> cases hmapped
  | _ => cases hmapped

/-- Nobody closes, and the live sides of a region are those of endpoints. -/
structure Adrift (g : Gathering ι) (id : ObjectId) (c : Crowd ι) : Prop where
  opens : Opens c
  accounted : g.Accounted (· = id) c
  unlocked : (c.regions.layout id).header.lock.owner = 0
  occupied : Occupied id c

section

variable [DecidableEq ι]

theorem Adrift.turn (h : g.Adrift id c) (hseated : g.Seated n c) (hmeets : g.Meets n) (i : ι) :
    g.Adrift id (g.turn c i) := by
  have hpassage := hseated.passage hmeets i
  have hkeeps := CallStage.ne_releasing (h.opens i)
  refine ⟨h.opens.turn hseated hmeets i, h.accounted.turn hseated hmeets hkeeps,
    hpassage.unlocked h.unlocked, ?_⟩
  obtain ⟨j, hj⟩ := h.occupied
  by_cases hown : j = i
  · subst hown
    rcases hpassage.mapped_or_live (h.opens j) hj (.inl h.unlocked) with
      hmapped | ⟨side, hside, hlive⟩
    · exact ⟨j, hmapped⟩
    · -- A side is refused only if it is somebody's, and whoever has it stays.
      obtain ⟨other, hother⟩ := h.accounted id side rfl hside hlive
      exact ⟨other, CallStage.mapped_of_holds (hseated.holds_turn hmeets hkeeps hother)⟩
  · exact ⟨j, by rw [stage_turn_of_ne g c hown]; exact hj⟩

/-- Nobody else has the region mapped when the name is removed. -/
def Unattended (g : Gathering ι) : Crowd ι → List ι → Prop
  | _, [] => True
  | c, i :: schedule =>
    (∀ e, c.stage i = .removing e → ∀ j ≠ i, (c.stage j).mapped ≠ some e.region) ∧
    g.Unattended (g.turn c i) schedule

theorem unattended_of_opens (h : Opens c) (hseated : g.Seated n c) (hmeets : g.Meets n)
    (schedule : List ι) : g.Unattended c schedule := by
  induction schedule generalizing c with
  | nil => trivial
  | cons i schedule ih =>
    have hnever (e : Endpoint) : c.stage i ≠ .removing e := CallStage.ne_removing (h i) e
    exact ⟨fun e hi => absurd hi (hnever e), ih (h.turn hseated hmeets i) (hseated.turn hmeets i)⟩

/-- The removal of the name. -/
theorem Staying.removal (h : g.Staying n k e c) (hseated : g.Seated n c) (hmeets : g.Meets n)
    (hk : c.stage k = .removing e) :
    Opens (g.turn c k) ∧ (g.turn c k).regions.Complete e.region ∧
      (g.turn c k).regions.find? n = none ∧
      ((∀ j ≠ k, (c.stage j).mapped ≠ some e.region) → Gathered n (g.turn c k)) ∧
      ((∃ j ≠ k, (c.stage j).mapped = some e.region) → g.Adrift e.region (g.turn c k)) := by
  have hpassage := hseated.passage hmeets k
  have hcomplete := hpassage.complete h.usable
  have hkeeps (e' : Endpoint) : c.stage k ≠ .releasing e' := by rw [hk]; exact nofun
  obtain ⟨haccounted, hfree⟩ := h.accounted (.inr hk)
  rw [hk] at hpassage
  obtain ⟨hs, hregions⟩ := hpassage.of_removing
  have hfind : (g.turn c k).regions.find? n = none := by
    rw [hregions, Regions.find?_free, if_pos rfl]
  have hopens : Opens (g.turn c k) := fun j => by
    by_cases hown : j = k
    · rw [hown, hs]
      rfl
    · rw [stage_turn_of_ne g c hown]
      exact h.others j hown
  refine ⟨hopens, hcomplete, hfind, fun halone => ?_, fun ⟨j, hj, hmapped⟩ => ?_⟩
  · have hunmapped (j : ι) (id : ObjectId) : ((g.turn c k).stage j).mapped ≠ some id := by
      intro hmapped
      by_cases hown : j = k
      · rw [hown, hs] at hmapped
        cases hmapped
      · rw [stage_turn_of_ne g c hown] at hmapped
        exact halone j hown (h.together j id hmapped ▸ hmapped)
    refine ⟨hopens, fun j left hj => ?_, fun id hid => ?_, fun j id hid => absurd hid
      (hunmapped j id)⟩
    · by_cases hown : j = k
      · rw [hown, hs] at hj
        cases hj
      · rw [stage_turn_of_ne g c hown] at hj
        exact h.keeps j left hj
    · rw [hfind] at hid
      cases hid
  · refine ⟨hopens, haccounted.turn hseated hmeets hkeeps, hpassage.unlocked hfree, j, ?_⟩
    rw [stage_turn_of_ne g c hj]
    exact hmapped

/-- All that can come of a schedule: everybody is on the region under the name and the schedule was
unattended; or it was not, and somebody is on the region that has lost the name. -/
theorem Staying.after (h : g.Staying n k e c) (hseated : g.Seated n c) (hmeets : g.Meets n)
    (schedule : List ι) :
    (g.Unattended c schedule ∧ ∀ i id side, ((g.after c schedule).stage i).holds = some (id, side) →
      (g.after c schedule).regions.find? n = some id) ∨
    (¬ g.Unattended c schedule ∧ g.Adrift e.region (g.after c schedule) ∧
      (g.after c schedule).regions.find? n ≠ some e.region) := by
  induction schedule generalizing c with
  | nil =>
    refine .inl ⟨trivial, fun i id side hi => ?_⟩
    exact h.together i id (CallStage.mapped_of_holds hi) ▸ h.named
  | cons i schedule ih =>
    have hturn := hseated.turn hmeets i
    rw [after_cons, Unattended]
    by_cases hstays : c.stage i = .removing e
    · obtain ⟨rfl, -⟩ := h.eq_of_removing hstays
      obtain ⟨hopens, hcomplete, hfind, hgathered, hadrift⟩ := h.removal hseated hmeets hstays
      have hrest := unattended_of_opens hopens hturn hmeets schedule
      by_cases halone : ∀ j ≠ i, (c.stage j).mapped ≠ some e.region
      · have hend := hturn.after_of_passage hmeets (fun c i hc h _ => h.turn hc hmeets i)
          (hgathered halone) schedule
        refine .inl ⟨⟨fun e' he' => ?_, hrest⟩, fun j id side hj => ?_⟩
        · cases hstays.symm.trans he'
          exact halone
        · exact hend.together j id (CallStage.mapped_of_holds hj)
      · refine .inr ⟨fun hall => halone (hall.1 e hstays), ?_, ?_⟩
        · simp only [ne_eq, not_forall, not_not] at halone
          obtain ⟨j, hj, hmapped⟩ := halone
          exact hturn.after_of_passage hmeets (fun c i hc h _ => h.turn hc hmeets i)
            (hadrift ⟨j, hj, hmapped⟩) schedule
        · exact (hturn.lost_after hmeets hcomplete (by rw [hfind]; exact nofun) schedule).2
    · have hfirst (e' : Endpoint) (hi : c.stage i = .removing e') :
          ∀ j ≠ i, (c.stage j).mapped ≠ some e'.region :=
        absurd ((h.eq_of_removing hi).2 ▸ hi) hstays
      rw [and_iff_right hfirst]
      exact ih (h.turn hseated hmeets hstays) hturn

end

/-- An endpoint is closed under a name that stands for its region, while any number of calls open
one under that name. No two endpoints that are open at a time ever have the same side of a region.
If nobody else has the region mapped when the name is removed, everybody is on the region under the
name, and at most one endpoint is a master. When all have come to an end the converse holds too: if
somebody had the region mapped, there is an endpoint on a region without the name. -/
theorem cleanup_is_safe_iff [DecidableEq ι] (hmeets : g.Meets n) (h : g.Parting n k e c)
    (schedule : List ι) :
    let last := g.after c schedule
    let named := ∀ i e', last.stage i = .opened e' → last.regions.find? n = some e'.region
    (∀ i j x, (last.stage i).holds = some x → (last.stage j).holds = some x → i = j) ∧
    (g.Unattended c schedule → named ∧
      ∀ i j id id', (last.stage i).holds = some (id, .master) →
        (last.stage j).holds = some (id', .master) → i = j) ∧
    ((∀ i, (last.stage i).Over) → (g.Unattended c schedule ↔ named)) := by
  intro last named
  have hseated : g.Seated n last := h.seated.after hmeets schedule
  have hcases := h.staying.after h.seated hmeets schedule
  have hnamed (hholds : ∀ i id side, (last.stage i).holds = some (id, side) →
      last.regions.find? n = some id) : named := fun i e' hi =>
    hholds i e'.region e'.role (by rw [hi]; rfl)
  refine ⟨hseated.alone, fun hspared => ?_, fun hover => ?_⟩
  · obtain ⟨-, hholds⟩ := hcases.resolve_right fun hno => hno.1 hspared
    refine ⟨hnamed hholds, fun i j id id' hi hj => ?_⟩
    have hsame := Option.some.inj ((hholds i id _ hi).symm.trans (hholds j id' _ hj))
    exact hseated.alone i j (id, .master) hi (hsame ▸ hj)
  · rcases hcases with ⟨hspared, hholds⟩ | ⟨hspared, hadrift, hlost⟩
    · exact iff_of_true hspared (hnamed hholds)
    · -- Somebody is left on the region, and has an endpoint there by now.
      refine iff_of_false hspared fun hall => ?_
      obtain ⟨i, hi⟩ := hadrift.occupied
      obtain ⟨e', he', hregion⟩ := CallStage.eq_opened_of_mapped (hadrift.opens i) (hover i) hi
      exact hlost (hregion ▸ hall i e' he')

/-! ## A race -/

/-- One call is about to close an endpoint, the others are about to open one. -/
def startClosing [DecidableEq ι] (g : Gathering ι) (k : ι) (e : Endpoint) (r : Regions) : Crowd ι :=
  ⟨r, Function.update (g.start r).stage k (.releasing e)⟩

theorem parting_startClosing [DecidableEq ι] (k : ι)
    (hname : RegionName.object e.config.name = .ok n) (hrole : e.role ≠ .auto)
    (hlive : g.live (r.slot e.region e.role) = true)
    (hown : (r.slot e.region e.role).pid = (g.opening k).pid)
    (hfind : r.find? n = some e.region) (husable : r.Complete e.region) :
    g.Parting n k e (g.startClosing k e r) := by
  have hcloser : (g.startClosing k e r).stage k = .releasing e := Function.update_self ..
  have hother {i : ι} (hi : i ≠ k) : (g.startClosing k e r).stage i = (g.start r).stage i :=
    Function.update_of_ne hi ..
  have hholds (i : ι) (x : ObjectId × Role) (hx : ((g.startClosing k e r).stage i).holds = some x) :
      i = k ∧ x = (e.region, e.role) := by
    by_cases hi : i = k
    · rw [hi, hcloser] at hx
      exact ⟨hi, (Option.some.inj hx).symm⟩
    · rw [hother hi, (views_start g r i).2.1] at hx
      cases hx
  refine ⟨⟨fun i => ?_, fun i id side hi => ?_, fun i j x hi hj => ?_⟩, hcloser,
    fun i hi => .inl (hother hi), hown, hfind, husable⟩
  · by_cases hi : i = k
    · rw [hi, hcloser]
      refine ⟨fun id hid => ?_, fun id side hside => ?_, fun e' he' => ?_⟩
      · cases hid
        exact husable.lt_length
      · cases hside
        exact hrole
      · cases he'
        exact hname
    · rw [hother hi]
      exact (seated_start g n r).fits i
  · obtain ⟨-, hx⟩ := hholds i _ hi
    cases hx
    exact hlive
  · exact (hholds i x hi).1.trans (hholds j x hj).1.symm

/-- The first of three has opened an endpoint as master. -/
def keeper : Endpoint where
  config := { name := "a", role := .master }
  role := .master
  region := 0
  monitor := .start (.ofConfig { name := "a", role := .master } .master (.ofMillis 100)) false 0
  closed := false
  baseline := none

def kept : Regions := (Regions.empty.found "/eshm_a" (.ofMillis 100)).take 7 0 .master

example : Endpoint.open .able ⟨7, fun pid => pid ∈ [7, 8, 9]⟩ 0 { name := "a", role := .master }
    .empty = (some (.ok keeper), kept) := by rfl

/-- The second has the region mapped before the keeper gives its side up, and takes a side before
the name goes. The third makes a region. -/
def ambush : List (Fin 3) :=
  [callB, callA, callA, callB, callA, callC, callC, callC]

/-- The keeper is gone before the others come. -/
def handover : List (Fin 3) :=
  [callA, callA, callA, callB, callB, callB, callC, callC]

/-- The one schedule leaves nobody behind, the other does. -/
theorem cleanup_is_safe_iff_handover :
    let g := threesome fun _ => .auto
    g.Meets "/eshm_a" ∧ g.Parting "/eshm_a" 0 keeper (g.startClosing 0 keeper kept) ∧
      g.Unattended (g.startClosing 0 keeper kept) handover ∧
      ¬ g.Unattended (g.startClosing 0 keeper kept) ambush := by
  intro g
  have hmeets := meets_threesome fun _ => .auto
  have hparting : g.Parting "/eshm_a" 0 keeper (g.startClosing 0 keeper kept) :=
    parting_startClosing 0 rfl nofun (by decide +kernel) (by decide +kernel) (by decide +kernel)
      (by decide +kernel)
  obtain ⟨-, -, hhandover⟩ := cleanup_is_safe_iff hmeets hparting handover
  obtain ⟨-, -, hambush⟩ := cleanup_is_safe_iff hmeets hparting ambush
  refine ⟨hmeets, hparting, (hhandover (by decide +kernel)).mpr fun i e' hi => ?_,
    fun hspared => ?_⟩
  · have hregions : ∀ i, ∀ x ∈ ((g.after (g.startClosing 0 keeper kept) handover).stage i).holds,
        (g.after (g.startClosing 0 keeper kept) handover).regions.find? "/eshm_a" = some x.1 := by
      decide +kernel
    exact hregions i (e'.region, e'.role) (by rw [hi]; rfl)
  · have hsecond : ((g.after (g.startClosing 0 keeper kept) ambush).stage 1).holds =
        some (0, .master) := by
      decide +kernel
    have hclosing : ((g.after (g.startClosing 0 keeper kept) ambush).stage 1).closing = none := by
      decide +kernel
    obtain ⟨e', he', hholds⟩ := CallStage.eq_opened_of_holds hclosing hsecond
    have hfind := (hambush (by decide +kernel)).mp hspared 1 e' he'
    rw [(Prod.mk.inj hholds).1] at hfind
    exact absurd hfind (by decide +kernel)

/-- Two masters under one name, and one of them on a region that has lost it. -/
theorem cleanup_orphans_an_attacher :
    let g := threesome fun _ => .auto
    let c := g.after (g.startClosing 0 keeper kept) ambush
    c.regions.find? "/eshm_a" = some 1 ∧
      List.ofFn (fun i => (c.stage i).holds) = [none, some (0, .master), some (1, .master)] := by
  decide +kernel

end Gathering
end PeerLink
