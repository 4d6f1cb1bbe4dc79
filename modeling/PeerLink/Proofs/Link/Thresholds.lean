import PeerLink.Proofs.Link.Refusals

/-! # The silence that both sides agree on

Who makes a region records in its header how long a peer may be silent, in whole milliseconds. Who
opens an endpoint on the region reads the header once, and keeps to what it has read for the rest of
the endpoint's life, also in another region. A silence below a millisecond is recorded as zero, and
zero stands for whatever the reader's own settings say.

* `Header.recordedThreshold_eq_zero_iff`, `Header.agreedThreshold_of_ne_zero`: what is recorded, and
  whom it binds.
* `Company.kept_records`: what a region has recorded does not change.
* `Company.Opened`: an endpoint was opened in a run, on a region that it made or found.
* `Company.threshold_of_opened`: its threshold, for the rest of the run.

Main statements: `Company.thresholds_agree_iff_recorded_alike`, for endpoints of any two regions, and
`Company.thresholds_agree_iff_recorded_or_alike`, for the two sides of one.
-/

namespace PeerLink
set_option autoImplicit false

/-! ## What is recorded -/

namespace Header

variable {h : Header} {d d' : Duration}

theorem toNat_recordedThreshold (d : Duration) :
    (recordedThreshold d).toNat = min d.toMillis maxThresholdMs :=
  UInt64.toNat_ofNat_of_lt' (Nat.lt_of_le_of_lt (Nat.min_le_right ..) (by decide))

theorem recordedThreshold_eq_zero_iff : recordedThreshold d = 0 ↔ d < .ofMillis 1 := by
  have hpositive : maxThresholdMs ≠ 0 := by decide
  rw [← UInt64.toNat_inj, toNat_recordedThreshold, UInt64.toNat_zero, Nat.min_eq_zero_iff, or_iff_left hpositive,
    Duration.toMillis, Nat.div_eq_zero_iff_lt (by decide)]
  rfl

/-- What was recorded binds everybody, unless it is zero. -/
theorem agreedThreshold_of_ne_zero (c : EndpointConfig) (hrecorded : h.staleThresholdMs ≠ 0) :
    h.agreedThreshold c = .ofMillis h.staleThresholdMs.toNat := if_neg hrecorded

theorem agreedThreshold_of_eq_zero (c : EndpointConfig) (hrecorded : h.staleThresholdMs = 0) :
    h.agreedThreshold c = c.staleThreshold := if_pos hrecorded

theorem ofMillis_toNat_inj {a b : UInt64} :
    Duration.ofMillis a.toNat = .ofMillis b.toNat ↔ a = b := by
  rw [Duration.ofMillis, Duration.ofMillis, Nat.mul_left_inj (by decide), UInt64.toNat_inj]

end Header

/-- What is done with an endpoint leaves what regions have recorded. -/
theorem Endpoint.Move.threshold_eq {p : Process} {e : Endpoint} {r : Regions}
    {out : Endpoint × Regions} (hmove : Endpoint.Move p (e, r) out) (id : ObjectId) :
    (out.2.layout id).header.staleThresholdMs = (r.layout id).header.staleThresholdMs := by
  cases hmove with
  | passed hopen hkeeps => exact hkeeps.staleThresholdMs id
  | beaten => exact (Regions.keeps_mapSlot ..).staleThresholdMs id
  | judged => rfl
  | moved => exact ((Regions.keeps_take ..).trans (Regions.keeps_vacate ..)).staleThresholdMs id
  | left | removed => exact (Regions.keeps_vacate ..).staleThresholdMs id

namespace Company

variable {p : Process} {c : Company} {id : ObjectId}

/-- This object exists, and this is what it has recorded. -/
structure Records (id : ObjectId) (recorded : UInt64) (c : Company) : Prop where
  mapped : id < c.regions.objects.length
  threshold : (c.regions.layout id).header.staleThresholdMs = recorded

theorem kept_records (p : Process) (id : ObjectId) (recorded : UInt64) :
    Kept p (Records id recorded) where
  grown _ h hgrows :=
    ⟨Nat.lt_of_lt_of_le h.mapped hgrows.length, by rw [hgrows.layout_eq h.mapped]; exact h.threshold⟩
  entered _ _ _ _ h _ _ :=
    ⟨by rw [(Regions.keeps_take ..).length]; exact h.mapped,
      ((Regions.keeps_take ..).staleThresholdMs id).trans h.threshold⟩
  dismissed {c id side} _ h _ _ _ := by
    have hkeeps := (Regions.keeps_take p.pid id side c.regions).trans
      (Regions.keeps_vacate p.pid id side _)
    exact ⟨by rw [hkeeps.length]; exact h.mapped, (hkeeps.staleThresholdMs _).trans h.threshold⟩
  moved _ h _ hmove :=
    ⟨by rw [put, hmove.length_eq]; exact h.mapped, (hmove.threshold_eq id).trans h.threshold⟩

/-! ## Openings -/

/-- In a run, the endpoint of this number was opened with these settings, and on this object. It
made the object or found it there. -/
inductive Opened (p : Process) : List Act → Nat → ObjectId → EndpointConfig → Bool → Prop where
  | intro {before later : List Act} {k : Kernel} {now : Instant} {config : EndpointConfig}
      {handle : RegionHandle} {mapped r : Regions} {e : Endpoint}
      (hacquire : (empty.after p before).regions.acquire k p config = (.ok handle, mapped))
      (hopen : Endpoint.open k p now config (empty.after p before).regions =
        (some (.ok e), r)) :
      Opened p (before ++ .openEndpoint k now config :: later)
        (empty.after p before).endpoints.length handle.object config handle.created

/-- Once opened, an endpoint judges its peer by what was then recorded. -/
theorem eq_of_open {k : Kernel} {now : Instant} {config : EndpointConfig} {r r' mapped : Regions}
    {handle : RegionHandle} {e : Endpoint} (hfree : ∀ id, (r.layout id).header.lock.owner = 0)
    (hacquire : r.acquire k p config = (.ok handle, mapped))
    (hopen : Endpoint.open k p now config r = (some (.ok e), r')) :
    mapped.Keeps r' ∧ e.config = config ∧
      e.monitor.policy.staleThreshold =
        (mapped.layout handle.object).header.agreedThreshold config := by
  obtain ⟨hgrows, -⟩ := Regions.grows_acquire k p config r
  rw [hacquire] at hgrows
  have henters := (Endpoint.of_board hacquire (Endpoint.open_eq_ok_iff.mp hopen).1).2
  have hsuits := (Regions.grows_acquire k p config r).2 handle
  rw [hacquire] at hsuits
  rcases Endpoint.enter_cases p now config (hsuits rfl).mapped
      (hgrows.free hfree handle.object) with
    ⟨side, present, -, henter⟩ | ⟨err, -, henter⟩
  · cases henter.symm.trans henters
    exact ⟨Regions.keeps_take .., rfl, rfl⟩
  · cases henter.symm.trans henters

variable {acts : List Act} {i j : Nat} {other : ObjectId} {config config' : EndpointConfig}
  {made made' : Bool}

/-- What an endpoint was opened with and on says how it judges its peer, for the rest of the run and
wherever it is. -/
theorem threshold_of_opened (h : Opened p acts i id config made) :
    (∃ e, (empty.after p acts).endpoints[i]? = some e ∧ e.config = config ∧
      e.monitor.policy.staleThreshold =
        ((empty.after p acts).regions.layout id).header.agreedThreshold config) ∧
      (made = true → ((empty.after p acts).regions.layout id).header.staleThresholdMs =
        Header.recordedThreshold config.staleThreshold) := by
  cases h with
  | @intro before later k now _ handle mapped r e hacquire hopen =>
    have ho := orderly_empty.after p before
    have hsuits := (Regions.grows_acquire k p config (empty.after p before).regions).2 handle
    rw [hacquire] at hsuits
    obtain ⟨hkeeps, hconfig, hthreshold⟩ := eq_of_open ho.free hacquire hopen
    have hperform : (empty.after p before).perform p (.openEndpoint k now config) =
        ⟨r, (empty.after p before).endpoints ++ [e]⟩ := by
      rw [perform, hopen]
    have hsplit : empty.after p (before ++ .openEndpoint k now config :: later) =
        ((empty.after p before).perform p (.openEndpoint k now config)).after p later :=
      after_append ..
    have ho' := ho.perform p (.openEndpoint k now config)
    rw [hsplit, hperform]
    rw [hperform] at ho'
    -- The rest of the run leaves the policy and the record alone.
    obtain ⟨e', he', hconfig', -, calls, hmonitor⟩ := ho'.evolves_after p
      (List.getElem?_concat_length ..) later
    have hrecords : Records handle.object (mapped.layout handle.object).header.staleThresholdMs
        ⟨r, (empty.after p before).endpoints ++ [e]⟩ :=
      ⟨by rw [hkeeps.length]; exact (hsuits rfl).mapped, hkeeps.staleThresholdMs _⟩
    have hlast := ((kept_records p _ _).after ho' hrecords later).2.threshold
    refine ⟨⟨e', he', hconfig'.trans hconfig, ?_⟩, fun hmade => ?_⟩
    · rw [hmonitor, Monitor.policy_after, hthreshold]
      exact (Header.agreedThreshold_congr config hlast).symm
    · rw [hlast, (hsuits rfl).made hmade]
      rfl

/-- Two endpoints of a run, opened on two regions or on one, of which the second one has recorded a
silence of a millisecond at least. The one that was opened on it judges its peer by what is recorded
there. The other one judges its own by what is recorded where it was opened, or by its own settings
if nothing is: wherever it is by now, also if it has moved to the second region and the first one is
its peer. So the two agree if and only if the two regions have recorded the same. -/
theorem thresholds_agree_iff_recorded_alike (hslave : Opened p acts i id config made)
    (hmaster : Opened p acts j other config' made')
    (hrecorded : ((empty.after p acts).regions.layout other).header.staleThresholdMs ≠ 0) :
    let header := fun id => ((empty.after p acts).regions.layout id).header
    ∃ e e', (empty.after p acts).endpoints[i]? = some e ∧
      (empty.after p acts).endpoints[j]? = some e' ∧
      e.monitor.policy.staleThreshold = (header id).agreedThreshold config ∧
      e'.monitor.policy.staleThreshold = .ofMillis (header other).staleThresholdMs.toNat ∧
      ((header id).staleThresholdMs ≠ 0 →
        (e.monitor.policy.staleThreshold = e'.monitor.policy.staleThreshold ↔
          (header id).staleThresholdMs = (header other).staleThresholdMs)) ∧
      (id = other → e.monitor.policy.staleThreshold = e'.monitor.policy.staleThreshold) := by
  intro header
  obtain ⟨⟨e, he, -, hthreshold⟩, -⟩ := threshold_of_opened hslave
  obtain ⟨⟨e', he', -, hthreshold'⟩, -⟩ := threshold_of_opened hmaster
  rw [Header.agreedThreshold_of_ne_zero config' hrecorded] at hthreshold'
  have halike (hfirst : (header id).staleThresholdMs ≠ 0) :
      e.monitor.policy.staleThreshold = e'.monitor.policy.staleThreshold ↔
        (header id).staleThresholdMs = (header other).staleThresholdMs := by
    rw [hthreshold, hthreshold', Header.agreedThreshold_of_ne_zero config hfirst]
    exact Header.ofMillis_toNat_inj
  refine ⟨e, e', he, he', hthreshold, hthreshold', halike, fun hsame => ?_⟩
  subst hsame
  exact (halike hrecorded).mpr rfl

/-- Two endpoints of a run, one of which made the region that both were opened on. They judge each
other by the same silence if and only if its maker asked for a millisecond at least, or both asked
for the same. -/
theorem thresholds_agree_iff_recorded_or_alike (hmaker : Opened p acts i id config true)
    (hjoiner : Opened p acts j id config' made) :
    ∃ e e', (empty.after p acts).endpoints[i]? = some e ∧
      (empty.after p acts).endpoints[j]? = some e' ∧ e.config = config ∧ e'.config = config' ∧
      (e.monitor.policy.staleThreshold = e'.monitor.policy.staleThreshold ↔
        .ofMillis 1 ≤ config.staleThreshold ∨ config.staleThreshold = config'.staleThreshold) := by
  obtain ⟨⟨e, he, hconfig, hthreshold⟩, hmade⟩ := threshold_of_opened hmaker
  obtain ⟨⟨e', he', hconfig', hthreshold'⟩, -⟩ := threshold_of_opened hjoiner
  refine ⟨e, e', he, he', hconfig, hconfig', ?_⟩
  rw [hthreshold, hthreshold']
  by_cases hshort : config.staleThreshold < .ofMillis 1
  · -- Zero is recorded, and each keeps to its own settings.
    have hzero := (hmade rfl).trans (Header.recordedThreshold_eq_zero_iff.mpr hshort)
    rw [Header.agreedThreshold_of_eq_zero _ hzero, Header.agreedThreshold_of_eq_zero _ hzero]
    exact (or_iff_right (Nat.not_le_of_lt hshort)).symm
  · have hrecorded := hmade rfl ▸ fun hzero => hshort (Header.recordedThreshold_eq_zero_iff.mp hzero)
    rw [Header.agreedThreshold_of_ne_zero _ hrecorded, Header.agreedThreshold_of_ne_zero _ hrecorded]
    exact iff_of_true rfl (.inl (Nat.le_of_not_lt hshort))

/-! ## A successor and a hasty master -/

theorem Opened.of_acquired (before later : List Act) (k : Kernel) (now : Instant)
    (hacts : acts = before ++ .openEndpoint k now config :: later)
    (hindex : (empty.after p before).endpoints.length = i)
    (hacquire : ((empty.after p before).regions.acquire k p config).1.toOption.map
      (fun handle => (handle.object, handle.created)) = some (id, made))
    (hopen : ((Endpoint.open k p now config (empty.after p before).regions).1.bind
      (·.toOption)).isSome) :
    Opened p acts i id config made := by
  subst hacts hindex
  rcases hacquired : (empty.after p before).regions.acquire k p config with ⟨err | handle, mapped⟩
  · rw [hacquired] at hacquire
    cases hacquire
  · rcases hopened : Endpoint.open k p now config (empty.after p before).regions with
      ⟨_ | err | e, r⟩
    · rw [hopened] at hopen
      cases hopen
    · rw [hopened] at hopen
      cases hopen
    · rw [hacquired] at hacquire
      cases hacquire
      exact .intro hacquired hopened

/-- The thresholds of two endpoints. -/
def thresholds (i j : Nat) (c : Company) : Option (Duration × Duration) :=
  match c.endpoints[i]?, c.endpoints[j]? with
  | some e, some e' => some (e.monitor.policy.staleThreshold, e'.monitor.policy.staleThreshold)
  | _, _ => none

/-- The settings of a master. -/
def masterOf (staleThreshold : Duration) : EndpointConfig :=
  { name := "a", role := .master, staleThreshold, heartbeatInterval := 1 }

/-- The settings of its slave. -/
def slaveOf (staleThreshold : Duration) : EndpointConfig :=
  { name := "a", role := .slave, staleThreshold, heartbeatInterval := 1 }

/-- A master is followed by a more patient one, to whose region the slave moves. -/
def inheritance : List Act :=
  [.openEndpoint .able 0 (masterOf (.ofMillis 100)), .openEndpoint .able 0 (slaveOf (.ofMillis 100)),
    .on 0 .close, .unlink "a", .openEndpoint .able 0 (masterOf (.ofMillis 250)),
    .on 1 (.tick 200000000), .on 1 (.tick 201000000)]

theorem thresholds_agree_iff_recorded_alike_inheritance :
    Opened lonely inheritance 1 0 (slaveOf (.ofMillis 100)) false ∧
      Opened lonely inheritance 2 1 (masterOf (.ofMillis 250)) true ∧
      ((empty.after lonely inheritance).regions.layout 1).header.staleThresholdMs ≠ 0 ∧
      ∃ e e', (empty.after lonely inheritance).endpoints[1]? = some e ∧
        (empty.after lonely inheritance).endpoints[2]? = some e' ∧
        e.monitor.policy.staleThreshold ≠ e'.monitor.policy.staleThreshold := by
  have hslave : Opened lonely inheritance 1 0 (slaveOf (.ofMillis 100)) false :=
    .of_acquired (inheritance.take 1) (inheritance.drop 2) .able 0 rfl (by decide +kernel)
      (by decide +kernel) (by decide +kernel)
  have hmaster : Opened lonely inheritance 2 1 (masterOf (.ofMillis 250)) true :=
    .of_acquired (inheritance.take 4) (inheritance.drop 5) .able 0 rfl (by decide +kernel)
      (by decide +kernel) (by decide +kernel)
  have hrecorded : ((empty.after lonely inheritance).regions.layout 1).header.staleThresholdMs ≠
      0 := by
    decide +kernel
  have hfirst : ((empty.after lonely inheritance).regions.layout 0).header.staleThresholdMs = 100 ∧
      ((empty.after lonely inheritance).regions.layout 1).header.staleThresholdMs = 250 := by
    decide +kernel
  obtain ⟨e, e', he, he', -, -, hagree, -⟩ :=
    thresholds_agree_iff_recorded_alike hslave hmaster hrecorded
  dsimp only at hagree
  rw [hfirst.1, hfirst.2] at hagree
  refine ⟨hslave, hmaster, hrecorded, e, e', he, he', fun hsame => ?_⟩
  exact absurd ((hagree (by decide)).mp hsame) (by decide)

/-- A slave that has moved may judge its new master by another silence than the one that is recorded
where they both are, and by which its master judges it. -/
theorem thresholds_differ_after_move :
    (empty.after lonely inheritance).endpoints.map
        (fun e => (e.region, e.role, e.linkState)) =
      [(0, .master, .detached), (1, .slave, .attachedLive), (1, .master, .attachedLive)] ∧
    ((empty.after lonely inheritance).regions.layout 1).header.staleThresholdMs = 250 ∧
    (empty.after lonely inheritance).thresholds 1 2 = some (.ofMillis 100, .ofMillis 250) := by
  decide +kernel

/-- A master and a slave that joins it. -/
def joining (master slave : Duration) : List Act :=
  [.openEndpoint .able 0 (masterOf master), .openEndpoint .able 0 (slaveOf slave)]

/-- A millisecond and a half is recorded as one, and both keep to that. -/
theorem thresholds_agree_iff_recorded_or_alike_joining :
    Opened lonely (joining 1500000 700000) 0 0 (masterOf 1500000) true ∧
      Opened lonely (joining 1500000 700000) 1 0 (slaveOf 700000) false ∧
      ∃ e e', (empty.after lonely (joining 1500000 700000)).endpoints[0]? = some e ∧
        (empty.after lonely (joining 1500000 700000)).endpoints[1]? = some e' ∧
        e.monitor.policy.staleThreshold = e'.monitor.policy.staleThreshold := by
  have hmaker : Opened lonely (joining 1500000 700000) 0 0 (masterOf 1500000) true :=
    .of_acquired [] _ .able 0 rfl (by decide +kernel) (by decide +kernel) (by decide +kernel)
  have hjoiner : Opened lonely (joining 1500000 700000) 1 0 (slaveOf 700000) false :=
    .of_acquired [.openEndpoint .able 0 (masterOf 1500000)] [] .able 0 rfl (by decide +kernel)
      (by decide +kernel) (by decide +kernel)
  obtain ⟨e, e', he, he', -, -, hagree⟩ := thresholds_agree_iff_recorded_or_alike hmaker hjoiner
  have hlong : Duration.ofMillis 1 ≤ (masterOf 1500000).staleThreshold := by decide
  exact ⟨hmaker, hjoiner, e, e', he, he', hagree.mpr (.inl hlong)⟩

/-- Half a millisecond is recorded as zero, so that each side keeps to its own settings. -/
theorem thresholds_differ_below_a_millisecond :
    (masterOf 500000).validate.isOk = true ∧ (slaveOf (.ofMillis 100)).validate.isOk = true ∧
      (empty.after lonely (joining 500000 (.ofMillis 100))).endpoints.map
        (fun e => (e.region, e.role)) = [(0, .master), (0, .slave)] ∧
      (empty.after lonely (joining 500000 (.ofMillis 100))).thresholds 0 1 =
        some (500000, .ofMillis 100) := by
  decide +kernel

end Company

end PeerLink
