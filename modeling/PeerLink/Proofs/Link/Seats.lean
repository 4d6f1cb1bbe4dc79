import PeerLink.Proofs.Link.Passage

/-! # Who holds which side

While calls meet under one name, a side is only taken while it is free, and only its holder gives it
up. So no two of them ever hold the same side of a region.

* `Gathering.Passage.live_of`, `Gathering.Passage.live_or_held`, `Gathering.Passage.gain`: what a
  step does to the sides.
* `Gathering.Meets`: live processes under one name.
* `Gathering.Seated`: every endpoint holds its side, and it alone does.
* `Gathering.Accounted`: every claimed side has its endpoint.
* `Gathering.Sought`: a region with a live master, or soon to have one.
-/

namespace PeerLink
set_option autoImplicit false

namespace Regions

variable {r r' : Regions} {id : ObjectId}

/-- New objects have no live side, and objects that are not there have none either. -/
theorem Grows.slot_live (h : r.Grows r') (p : Process) (id : ObjectId) (role : Role) :
    (r'.slot id role).isLive p = (r.slot id role).isLive p := by
  by_cases hid : id < r.objects.length
  · rw [slot, slot, h.layout_eq hid]
  · have hid := Nat.le_of_not_lt hid
    have hnew := ((h.fresh id hid).2 role).1
    have hold := ((vacant_of_length_le hid).2 role).1
    rw [slot, slot, RoleSlot.isLive, RoleSlot.isLive, hnew, hold]
    rfl

end Regions

/-- A side that is wanted and not granted as the master's has a live master. -/
theorem Header.isLive_of_not_grants {p : Process} {h : Header} {requested : Role}
    (hrole : requested ≠ .slave) (hg : ¬ h.Grants p requested .master) :
    (h.slot .master).isLive p = true := by
  cases requested with
  | slave => exact absurd rfl hrole
  | master | auto =>
    rw [← Bool.not_eq_false]
    intro hfree
    exact hg (by simp_all [Grants, slot])

/-- Somebody else gives a side up, or it was the caller's. -/
theorem RoleSlot.isLive_of_vacateIfOwn {p : Process} {s : RoleSlot} {pid : UInt32}
    (h : (s.vacateIfOwn pid).isLive p = true) : s.isLive p = true ∧ s.pid ≠ pid := by
  rw [isLive, Bool.and_eq_true, isClaimed_vacateIfOwn, pid_vacateIfOwn] at h
  refine ⟨?_, h.1.1⟩
  rw [isLive, h.1.2, h.2]
  rfl

namespace Gathering

variable {ι : Type} {g : Gathering ι} {n : String} {i j : ι} {s s' : CallStage} {r r' : Regions}
  {id : ObjectId} {side : Role} {c : Crowd ι}

theorem live_occupy (halive : (g.process i).alive (g.opening i).pid = true) (s : RoleSlot) :
    g.live ((s.occupy (g.opening i).pid).beat) = true := by
  rw [live, RoleSlot.isLive]
  exact halive

namespace Passage

/-! ## One step -/

theorem length_le (h : g.Passage n i s r s' r') : r.objects.length ≤ r'.objects.length := by
  cases h with
  | made => exact (Regions.grows_found ..).length
  | unmade hunwilling hs hgrows => exact hgrows.length
  | seated hmapped hregion hgrants hstays => exact Nat.le_of_eq hstays.length.symm
  | denied hstays | released hstays => exact Nat.le_of_eq hstays.length.symm
  | _ => exact Nat.le_refl _

theorem complete_iff (h : g.Passage n i s r s' r') (hid : id < r.objects.length) :
    r'.Complete id ↔ r.Complete id := by
  cases h with
  | made => exact (Regions.grows_found ..).complete_iff hid
  | unmade hunwilling hs hgrows => exact hgrows.complete_iff hid
  | seated hmapped hregion hgrants hstays => exact hstays.complete_iff id
  | denied hstays | released hstays => exact hstays.complete_iff id
  | _ => exact Iff.rfl

theorem complete (h : g.Passage n i s r s' r') (hcomplete : r.Complete id) : r'.Complete id :=
  (h.complete_iff hcomplete.lt_length).mpr hcomplete

/-- A region that can be used could be before, or the caller has just made it. -/
theorem complete_of (h : g.Passage n i s r s' r') (hcomplete : r'.Complete id) :
    r.Complete id ∨
      id = r.objects.length ∧ r.find? n = none ∧ r'.find? n = some id ∧ g.kernel.Willing ∧
        ∃ handle, s' = .approaching (.attached handle) ∧ handle.object = id := by
  by_cases hid : id < r.objects.length
  · exact .inl ((h.complete_iff hid).mp hcomplete)
  · have hid := Nat.le_of_not_lt hid
    cases h with
    | made hwilling hfind hnew =>
      have hlast := hcomplete.lt_length
      rw [Regions.length_found] at hlast
      have hsame := Nat.le_antisymm (Nat.le_of_lt_succ hlast) hid
      refine .inr ⟨hsame, hfind, ?_, hwilling, _, rfl, hnew.trans hsame.symm⟩
      rw [Regions.find?_found _ hfind, if_pos rfl, hsame]
    | unmade hunwilling hs hgrows hnames hbroken => exact absurd hcomplete (hbroken id hid)
    | seated hmapped hregion hgrants hstays => exact .inl ((hstays.complete_iff id).mp hcomplete)
    | denied hstays | released hstays => exact .inl ((hstays.complete_iff id).mp hcomplete)
    | _ => exact .inl hcomplete

/-- A lock can only become free, and those of new objects are. -/
theorem lock (h : g.Passage n i s r s' r') (id : ObjectId) :
    (r'.layout id).header.lock = (r.layout id).header.lock ∨
      (r'.layout id).header.lock.owner = 0 := by
  have hgrown {r' : Regions} (hgrows : r.Grows r') :
      (r'.layout id).header.lock = (r.layout id).header.lock ∨
        (r'.layout id).header.lock.owner = 0 := by
    by_cases hid : id < r.objects.length
    · rw [hgrows.layout_eq hid]
      exact .inl rfl
    · exact .inr (hgrows.fresh id (Nat.le_of_not_lt hid)).1
  cases h with
  | made => exact hgrown (Regions.grows_found ..)
  | unmade hunwilling hs hgrows => exact hgrown hgrows
  | seated hmapped hregion hgrants hstays => exact hstays.lock id
  | denied hstays | released hstays => exact hstays.lock id
  | _ => exact .inl rfl

theorem unlocked (h : g.Passage n i s r s' r') (hfree : (r.layout id).header.lock.owner = 0) :
    (r'.layout id).header.lock.owner = 0 := by
  rcases h.lock id with hsame | hfreed
  · rwa [hsame]
  · exact hfreed

theorem available {p : Process} (h : g.Passage n i s r s' r')
    (ha : (r.layout id).header.lock.Available p) : (r'.layout id).header.lock.Available p := by
  rcases h.lock id with hsame | hfree
  · rwa [hsame]
  · exact .inl hfree

/-- A side that is live has been so before, or the caller has just taken it. -/
theorem live_of (h : g.Passage n i s r s' r') (hside : side ≠ .auto)
    (hlive : g.live (r'.slot id side) = true) :
    g.live (r.slot id side) = true ∨ s'.holds = some (id, side) := by
  cases h with
  | made =>
    rw [live, (Regions.grows_found ..).slot_live] at hlive
    exact .inl hlive
  | unmade hunwilling hs hgrows =>
    rw [live, hgrows.slot_live] at hlive
    exact .inl hlive
  | seated hmapped hregion hgrants hstays hslot =>
    rw [hslot id side hside] at hlive
    split at hlive
    · rename_i hsame
      rw [hsame.1, hsame.2]
      exact .inr rfl
    · exact .inl hlive
  | denied hstays hslot =>
    rw [hslot] at hlive
    exact .inl hlive
  | released hstays hslot =>
    rw [hslot id side hside] at hlive
    split at hlive
    · exact .inl (RoleSlot.isLive_of_vacateIfOwn hlive).1
    · exact .inl hlive
  | _ => exact .inl hlive

/-- A side that was live still is, unless it was the caller's. -/
theorem live_or_held (h : g.Passage n i s r s' r') (hside : side ≠ .auto)
    (halive : (g.process i).alive (g.opening i).pid = true)
    (hlive : g.live (r.slot id side) = true) :
    g.live (r'.slot id side) = true ∨ s.holds = some (id, side) ∧ s'.holds = none := by
  cases h with
  | made =>
    rw [live, (Regions.grows_found ..).slot_live]
    exact .inl hlive
  | unmade hunwilling hs hgrows =>
    rw [live, hgrows.slot_live]
    exact .inl hlive
  | seated hmapped hregion hgrants hstays hslot =>
    rw [hslot id side hside]
    split
    · exact .inl (live_occupy halive _)
    · exact .inl hlive
  | denied hstays hslot =>
    rw [hslot]
    exact .inl hlive
  | @released e _ _ _ hstays hslot hfree hs =>
    rw [hslot id side hside]
    split
    · rename_i hsame
      rw [hsame.1, hsame.2]
      rcases hs with rfl | ⟨rfl, -⟩ <;> exact .inr ⟨rfl, rfl⟩
    · exact .inl hlive
  | _ => exact .inl hlive

/-- Nobody else's number comes into a slot while it is live. -/
theorem pid_eq (h : g.Passage n i s r s' r') (hside : side ≠ .auto)
    (hlive : g.live (r.slot id side) = true) : (r'.slot id side).pid = (r.slot id side).pid := by
  have hgrown {r' : Regions} (hgrows : r.Grows r') :
      (r'.slot id side).pid = (r.slot id side).pid := by
    by_cases hid : id < r.objects.length
    · rw [Regions.slot, Regions.slot, hgrows.layout_eq hid]
    · have hvacant := ((Regions.vacant_of_length_le (Nat.le_of_not_lt hid)).2 side).1
      rw [live, RoleSlot.isLive, Regions.slot, hvacant] at hlive
      cases hlive
  cases h with
  | made => exact hgrown (Regions.grows_found ..)
  | unmade hunwilling hs hgrows => exact hgrown hgrows
  | seated hmapped hregion hgrants hstays hslot =>
    rw [hslot id side hside]
    split
    · rename_i hsame
      rw [hsame.1, hsame.2, hregion] at hlive
      cases hlive.symm.trans hgrants.free.2
    · rfl
  | denied hstays hslot => rw [hslot]
  | released hstays hslot =>
    rw [hslot id side hside]
    split
    · exact RoleSlot.pid_vacateIfOwn ..
    · rfl
  | _ => rfl

/-- A call that holds a side has held it before, or has found it free and taken it. -/
theorem gain (h : g.Passage n i s r s' r')
    (halive : (g.process i).alive (g.opening i).pid = true)
    (hholds : s'.holds = some (id, side)) :
    s' = s ∧ r' = r ∨
      side ≠ .auto ∧ id < r.objects.length ∧ g.live (r.slot id side) = false ∧
        g.live (r'.slot id side) = true := by
  cases h with
  | idle => exact .inl ⟨rfl, rfl⟩
  | seated hmapped hregion hgrants hstays hslot =>
    cases hholds
    obtain ⟨hside, hfree⟩ := hgrants.free
    rw [hslot _ _ hside, if_pos ⟨rfl, rfl⟩, hregion]
    exact .inr ⟨hside, hmapped, hfree, live_occupy halive _⟩
  | unmade hunwilling hs => rcases hs with ⟨err, rfl⟩ | ⟨err, rfl⟩ <;> cases hholds
  | released hstays hslot hfree hs => rcases hs with rfl | ⟨rfl, -⟩ <;> cases hholds
  | _ => cases hholds

/-- Who has a region mapped has had it mapped before, or it is complete and has the name. -/
theorem mapped_of (h : g.Passage n i s r s' r') (hmapped : s'.mapped = some id) :
    s.mapped = some id ∨ r'.find? n = some id ∧ r'.Complete id := by
  cases h with
  | idle => exact .inl hmapped
  | attached hfind hcomplete =>
    cases hmapped
    exact .inr ⟨hfind, hcomplete⟩
  | made hwilling hfind hnew =>
    cases hmapped
    rw [hnew]
    refine .inr ⟨?_, Regions.complete_found ..⟩
    rw [Regions.find?_found _ hfind, if_pos rfl]
  | seated _ hregion =>
    cases hmapped
    exact .inl (congrArg some hregion.symm)
  | unmade hunwilling hs => rcases hs with ⟨err, rfl⟩ | ⟨err, rfl⟩ <;> cases hmapped
  | released hstays hslot hfree hs =>
    rcases hs with rfl | ⟨rfl, -⟩
    · cases hmapped
    · exact .inl hmapped
  | confirmed => exact .inl hmapped
  | _ => cases hmapped

/-- A region that has the name has had it before, or the caller has just made it. -/
theorem find?_of (h : g.Passage n i s r s' r') (hfind : r'.find? n = some id) :
    r.find? n = some id ∨
      r.find? n = none ∧ id = r.objects.length ∧ r'.Complete id ∧ g.kernel.Willing ∧
        ∃ handle, s' = .approaching (.attached handle) ∧ handle.object = id := by
  cases h with
  | made hwilling hnone hnew =>
    rw [Regions.find?_found _ hnone, if_pos rfl] at hfind
    cases hfind
    exact .inr ⟨hnone, rfl, Regions.complete_found .., hwilling, _, rfl, hnew⟩
  | unmade hunwilling hs hgrows hnames =>
    rw [Regions.find?_congr hnames] at hfind
    exact .inl hfind
  | seated hmapped hregion hgrants hstays =>
    rw [hstays.find?_eq] at hfind
    exact .inl hfind
  | denied hstays | released hstays =>
    rw [hstays.find?_eq] at hfind
    exact .inl hfind
  | discarded | removed =>
    rw [Regions.find?_free, if_pos rfl] at hfind
    cases hfind
  | _ => exact .inl hfind

/-- The name stays with its region unless the caller removes it. -/
theorem find?_eq (h : g.Passage n i s r s' r') (hkeeps : ∀ left, s ≠ .approaching (.discard left))
    (hstays : ∀ e, s ≠ .removing e) (hfind : r.find? n = some id) : r'.find? n = some id := by
  cases h with
  | made hwilling hnone =>
    rw [hnone] at hfind
    cases hfind
  | unmade hunwilling hs hgrows hnames => rwa [Regions.find?_congr hnames]
  | seated hmapped hregion hgrants hstays => rwa [hstays.find?_eq]
  | denied hstays | released hstays => rwa [hstays.find?_eq]
  | discarded => exact absurd rfl (hkeeps _)
  | removed => exact absurd rfl (hstays _)
  | _ => exact hfind

/-- Only a region that cannot be used is discarded. -/
theorem unusable_of {left : Nat} (h : g.Passage n i s r s' r')
    (hs' : s' = .approaching (.discard left)) :
    r' = r ∧ ∃ id, r.find? n = some id ∧ ¬ r.Complete id := by
  cases h with
  | idle hover =>
    subst hs'
    exact hover.elim
  | condemned hrole hfind hbroken => exact ⟨rfl, _, hfind, hbroken⟩
  | unmade hunwilling hs =>
    subst hs'
    rcases hs with ⟨err, hs⟩ | ⟨err, hs⟩ <;> cases hs
  | released hstays hslot hfree hs =>
    subst hs'
    rcases hs with hs | ⟨hs, -⟩ <;> cases hs
  | _ => cases hs'

theorem closing_of {e : Endpoint} (h : g.Passage n i s r s' r') (hclosing : s'.closing = some e) :
    s.closing = some e := by
  cases h with
  | idle | confirmed => exact hclosing
  | unmade hunwilling hs => rcases hs with ⟨err, rfl⟩ | ⟨err, rfl⟩ <;> cases hclosing
  | released hstays hslot hfree hs =>
    rcases hs with rfl | ⟨rfl, -⟩
    · cases hclosing
    · exact hclosing
  | _ => cases hclosing

theorem fits (h : g.Passage n i s r s' r')
    (halive : (g.process i).alive (g.opening i).pid = true) (hfits : s.Fits n r) :
    s'.Fits n r' where
  mapped id hmapped := by
    rcases h.mapped_of hmapped with hold | ⟨-, hcomplete⟩
    · exact Nat.lt_of_lt_of_le (hfits.mapped id hold) h.length_le
    · exact hcomplete.lt_length
  decided id side hholds := by
    rcases h.gain halive hholds with ⟨rfl, -⟩ | ⟨hside, -⟩
    · exact hfits.decided id side hholds
    · exact hside
  named e hclosing := hfits.named e (h.closing_of hclosing)

/-- Only who gives a side up ever loses it. -/
theorem holds_eq (h : g.Passage n i s r s' r') (hkeeps : ∀ e, s ≠ .releasing e)
    (hholds : s.holds = some (id, side)) : s' = s := by
  cases h with
  | idle => rfl
  | released | stuck => exact absurd rfl (hkeeps _)
  | _ => cases hholds

end Passage

/-! ## The crowd -/

/-- Live processes open endpoints under one object name. -/
structure Meets (g : Gathering ι) (n : String) : Prop where
  named : ∀ i, RegionName.object (g.opening i).config.name = .ok n
  alive : ∀ i, (g.process i).alive (g.opening i).pid = true

theorem meets_threesome (roles : Fin 3 → Role) : (threesome roles).Meets "/eshm_a" where
  named _ := (rfl : RegionName.object "a" = .ok "/eshm_a")
  alive i := by
    have halive (i : Fin 3) : Process.alive ⟨0, fun pid => pid ∈ [7, 8, 9]⟩ ([7, 8, 9].get i) =
        true := by
      revert i
      decide
    exact halive i

/-- Everybody stands where a call can have come to, every endpoint has its side, and no two have the
same. -/
structure Seated (g : Gathering ι) (n : String) (c : Crowd ι) : Prop where
  fits : ∀ i, (c.stage i).Fits n c.regions
  live : ∀ i id side, (c.stage i).holds = some (id, side) →
    g.live (c.regions.slot id side) = true
  alone : ∀ i j x, (c.stage i).holds = some x → (c.stage j).holds = some x → i = j

/-- No two endpoints on one region have the same side. -/
theorem Seated.eq_of_opened (h : g.Seated n c) {e e' : Endpoint} (hi : c.stage i = .opened e)
    (hj : c.stage j = .opened e') (hregion : e.region = e'.region) (hrole : e.role = e'.role) :
    i = j := by
  refine h.alone i j (e.region, e.role) ?_ ?_
  · rw [hi]
    rfl
  · rw [hj, hregion, hrole]
    rfl

/-- Nobody is closing an endpoint. -/
def Opens (c : Crowd ι) : Prop := ∀ i, (c.stage i).closing = none

theorem views_start (g : Gathering ι) (r : Regions) (i : ι) :
    ((g.start r).stage i).mapped = none ∧ ((g.start r).stage i).holds = none ∧
      ((g.start r).stage i).closing = none := by
  rcases stage_start g r i with h | ⟨err, h⟩
  all_goals
    rw [h]
    exact ⟨rfl, rfl, rfl⟩

theorem seated_start (g : Gathering ι) (n : String) (r : Regions) : g.Seated n (g.start r) := by
  have hstart := views_start g r
  refine ⟨fun i => ⟨fun id h => ?_, fun id side h => ?_, fun e h => ?_⟩, fun i id side h => ?_,
    fun i j x h _ => ?_⟩
  · rw [(hstart i).1] at h
    cases h
  · rw [(hstart i).2.1] at h
    cases h
  · rw [(hstart i).2.2] at h
    cases h
  · rw [(hstart i).2.1] at h
    cases h
  · rw [(hstart i).2.1] at h
    cases h

theorem opens_start (g : Gathering ι) (r : Regions) : Opens (g.start r) :=
  fun i => (views_start g r i).2.2

section

variable [DecidableEq ι]

theorem Seated.passage (h : g.Seated n c) (hmeets : g.Meets n) (i : ι) :
    g.Passage n i (c.stage i) c.regions ((g.turn c i).stage i) (g.turn c i).regions := by
  rw [stage_turn_self]
  exact passage_next (hmeets.named i) (h.fits i)

theorem Seated.turn (h : g.Seated n c) (hmeets : g.Meets n) (i : ι) :
    g.Seated n (g.turn c i) := by
  have hpassage := h.passage hmeets i
  have hstage {j : ι} (hj : j ≠ i) := stage_turn_of_ne g c hj
  -- Whoever gains a side found it free, so that nobody else holds it.
  have hunique {j : ι} (hj : j ≠ i) {x : ObjectId × Role}
      (hi : ((g.turn c i).stage i).holds = some x)
      (hother : (c.stage j).holds = some x) : False := by
    rcases hpassage.gain (hmeets.alive i) hi with ⟨hsame, -⟩ | ⟨-, -, hfree, -⟩
    · rw [hsame] at hi
      exact hj (h.alone j i x hother hi)
    · exact absurd ((h.live j x.1 x.2 hother).symm.trans hfree) nofun
  refine ⟨fun j => ?_, fun j id side hholds => ?_, fun j k x hj hk => ?_⟩
  · by_cases hown : j = i
    · subst hown
      exact hpassage.fits (hmeets.alive j) (h.fits j)
    · rw [hstage hown]
      have hfits := h.fits j
      exact ⟨fun id hid => Nat.lt_of_lt_of_le (hfits.mapped id hid) hpassage.length_le,
        hfits.decided, hfits.named⟩
  · by_cases hown : j = i
    · subst hown
      rcases hpassage.gain (hmeets.alive j) hholds with ⟨hsame, hregions⟩ | ⟨-, -, -, hlive⟩
      · rw [hsame] at hholds
        rw [hregions]
        exact h.live j id side hholds
      · exact hlive
    · rw [hstage hown] at hholds
      have hside := (h.fits j).decided id side hholds
      rcases hpassage.live_or_held hside (hmeets.alive i) (h.live j id side hholds) with
        hlive | ⟨hheld, -⟩
      · exact hlive
      · exact absurd (h.alone j i _ hholds hheld) hown
  · by_cases hji : j = i
    · by_cases hki : k = i
      · exact hji.trans hki.symm
      · subst hji
        rw [hstage hki] at hk
        exact (hunique hki hj hk).elim
    · rw [hstage hji] at hj
      by_cases hki : k = i
      · subst hki
        exact (hunique hji hk hj).elim
      · rw [hstage hki] at hk
        exact h.alone j k x hj hk

theorem Seated.after (h : g.Seated n c) (hmeets : g.Meets n) (schedule : List ι) :
    g.Seated n (g.after c schedule) :=
  after_of_turn (fun _ i hc => hc.turn hmeets i) h schedule

/-- What every passage keeps holds in the end. -/
theorem Seated.after_of_passage {I : Crowd ι → Prop} (h : g.Seated n c) (hmeets : g.Meets n)
    (hturn : ∀ c i, g.Seated n c → I c →
      g.Passage n i (c.stage i) c.regions ((g.turn c i).stage i) (g.turn c i).regions →
      I (g.turn c i))
    (hc : I c) (schedule : List ι) : I (g.after c schedule) :=
  (after_of_turn (I := fun c => g.Seated n c ∧ I c)
    (fun c i hc => ⟨hc.1.turn hmeets i, hturn c i hc.1 hc.2 (hc.1.passage hmeets i)⟩)
    ⟨h, hc⟩ schedule).2

/-- A region that has lost the name never gets it back. -/
theorem Seated.lost_after (h : g.Seated n c) (hmeets : g.Meets n)
    (hcomplete : c.regions.Complete id) (hlost : c.regions.find? n ≠ some id)
    (schedule : List ι) :
    (g.after c schedule).regions.Complete id ∧
      (g.after c schedule).regions.find? n ≠ some id := by
  refine h.after_of_passage
    (I := fun c => c.regions.Complete id ∧ c.regions.find? n ≠ some id) hmeets
    (fun c i _ hlost hpassage => ⟨hpassage.complete hlost.1, fun hfind => ?_⟩)
    ⟨hcomplete, hlost⟩ schedule
  rcases hpassage.find?_of hfind with hold | ⟨-, rfl, -⟩
  · exact hlost.2 hold
  · exact Nat.lt_irrefl _ hlost.1.lt_length

/-! ### Crowds in which nobody closes -/

/-- Every live side of these objects is somebody's. -/
def Accounted (g : Gathering ι) (objects : ObjectId → Prop) (c : Crowd ι) : Prop :=
  ∀ id side, objects id → side ≠ .auto → g.live (c.regions.slot id side) = true →
    ∃ i, (c.stage i).holds = some (id, side)

/-- The region has a live master, or somebody is about to become it. -/
def Sought (g : Gathering ι) (id : ObjectId) (c : Crowd ι) : Prop :=
  (∃ i handle, c.stage i = .approaching (.attached handle) ∧ handle.object = id ∧
    (g.opening i).config.role ≠ .slave) ∨
  g.live (c.regions.slot id .master) = true

theorem Opens.turn (h : Opens c) (hseated : g.Seated n c) (hmeets : g.Meets n) (i : ι) :
    Opens (g.turn c i) := by
  intro j
  by_cases hown : j = i
  · subst hown
    rw [Option.eq_none_iff_forall_not_mem]
    intro e he
    cases (h j).symm.trans ((hseated.passage hmeets j).closing_of he)
  · rw [stage_turn_of_ne g c hown]
    exact h j

/-- Who does not give a side up makes nobody lose one. -/
theorem Seated.holds_turn (h : g.Seated n c) (hmeets : g.Meets n)
    (hkeeps : ∀ e, c.stage i ≠ .releasing e) (hholds : (c.stage j).holds = some (id, side)) :
    ((g.turn c i).stage j).holds = some (id, side) := by
  by_cases hown : j = i
  · subst hown
    rw [(h.passage hmeets j).holds_eq hkeeps hholds]
    exact hholds
  · rw [stage_turn_of_ne g c hown]
    exact hholds

theorem Seated.live_turn (h : g.Seated n c) (hmeets : g.Meets n)
    (hkeeps : ∀ e, c.stage i ≠ .releasing e) (hside : side ≠ .auto)
    (hlive : g.live (c.regions.slot id side) = true) :
    g.live ((g.turn c i).regions.slot id side) = true := by
  rcases (h.passage hmeets i).live_or_held hside (hmeets.alive i) hlive with
    hlive | ⟨hholds, hlost⟩
  · exact hlive
  · rw [h.holds_turn hmeets hkeeps hholds] at hlost
    cases hlost

theorem Accounted.turn {objects : ObjectId → Prop} (h : g.Accounted objects c)
    (hseated : g.Seated n c) (hmeets : g.Meets n) (hkeeps : ∀ e, c.stage i ≠ .releasing e) :
    g.Accounted objects (g.turn c i) := by
  intro id side hid hside hlive
  rcases (hseated.passage hmeets i).live_of hside hlive with hold | hholds
  · obtain ⟨j, hj⟩ := h id side hid hside hold
    exact ⟨j, hseated.holds_turn hmeets hkeeps hj⟩
  · exact ⟨i, hholds⟩

theorem Sought.turn (h : g.Sought id c) (hseated : g.Seated n c) (hmeets : g.Meets n)
    (hlock : ∀ i, (c.regions.layout id).header.lock.Available (g.process i))
    (hkeeps : ∀ e, c.stage i ≠ .releasing e) : g.Sought id (g.turn c i) := by
  have hmaster : Role.master ≠ .auto := nofun
  by_cases hlive : g.live (c.regions.slot id .master) = true
  · exact .inr (hseated.live_turn hmeets hkeeps hmaster hlive)
  · obtain ⟨j, handle, hj, rfl, hrole⟩ := h.resolve_right hlive
    by_cases hown : j = i
    · -- The master's side is free and the lock can be had, so it is granted.
      subst hown
      have hgrants : (c.regions.layout handle.object).header.Grants (g.process j)
          (g.opening j).config.role .master :=
        Classical.byContradiction fun hg => hlive (Header.isLive_of_not_grants hrole hg)
      have hpassage := hseated.passage hmeets j
      rw [hj] at hpassage
      generalize (g.turn c j).stage j = s' at hpassage
      generalize hr' : (g.turn c j).regions = r' at hpassage
      cases hpassage with
      | idle hover => exact hover.elim
      | exhausted ha => rcases ha with ⟨last, ha⟩ | ⟨err, ha⟩ <;> cases ha
      | seated hmapped hregion hg hstays hslot =>
        refine .inr ?_
        rw [hr', hslot _ _ hmaster, if_pos ⟨hregion.symm, hgrants.eq hg⟩]
        exact live_occupy (hmeets.alive j) _
      | denied hstays hslot hreason => exact absurd hgrants ((hreason (hlock j)).1 .master)
    · refine .inl ⟨j, handle, ?_, rfl, hrole⟩
      rw [stage_turn_of_ne g c hown]
      exact hj

end
end Gathering
end PeerLink
