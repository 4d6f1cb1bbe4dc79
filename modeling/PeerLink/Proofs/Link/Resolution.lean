import PeerLink.Proofs.Link.Samples
import PeerLink.Proofs.Link.Thresholds

/-! # The resolution of a threshold

Settings are compared to the nanosecond, and a heartbeat interval must be shorter than the
threshold. What is recorded of a threshold, and what the maker of a region itself keeps to, are its
whole milliseconds. If the interval lies between these and the threshold, a peer that beats as it is
told is called stale between two beats.

* `Monitor.Timely`, `Monitor.Bears`: a run in which the peer never pauses for longer than this, and
  a threshold that no such run exceeds.
* `Monitor.bears_iff`: these are the thresholds above the longest pause.
* `Header.lt_agreedThreshold_published_iff`: the spans below a threshold that has been recorded.

Main statement: `Endpoint.bears_own_interval_iff`.
-/

namespace PeerLink
set_option autoImplicit false

/-! ## Pauses -/

namespace Monitor

variable {m : Monitor} {calls : List Call} {samples : List Sample} {created : Instant}
  {pause : Duration} {policy : ReconnectPolicy} {present : Bool}

/-- No sample of a run comes later than this after the sign before it, or after the start. -/
def Timely (pause : Duration) (created : Instant) (samples : List Sample) : Prop :=
  ∀ front s rest, samples = front ++ s :: rest →
    s.now ≤ lastSign created ((front ++ [s]).map Sample.call) + pause

/-- A peer that never pauses for longer than this is live all the time. -/
def Bears (policy : ReconnectPolicy) (pause : Duration) : Prop :=
  ∀ (present : Bool) (created : Instant) (samples : List Sample),
    InOrder created (samples.map Sample.call) → Timely pause created samples →
      ((start policy present created).shown samples).state = .attachedLive

theorem Timely.init {s : Sample} (h : Timely pause created (samples ++ [s])) :
    Timely pause created samples := by
  intro front latest rest hsplit
  refine h front latest (rest ++ [s]) ?_
  rw [hsplit, List.append_assoc, List.cons_append]

/-- Reconnection is given up only while it is under way. -/
theorem Move.ne_gaveUp {m' : Monitor} {call : Call} {e : LivenessEvent} (hmove : Move m call m' e)
    (hstate : m.state ≠ .reconnecting) (failure : ReconnectFailure) : e ≠ .gaveUp failure := by
  cases hmove with
  | exhausted hseeking | spent hseeking => exact absurd hseeking hstate
  | _ => nofun

theorem undisturbed_nil (m : Monitor) : m.Undisturbed [] :=
  ⟨fun _ hcall => absurd hcall List.not_mem_nil, fun _ hentry => absurd hentry List.not_mem_nil⟩

theorem Undisturbed.concat_sample (h : m.Undisturbed calls)
    (hlive : (m.after calls).state = .attachedLive) (s : Sample) :
    m.Undisturbed (calls ++ [s.call]) := by
  have hstate : (m.after calls).state ≠ .reconnecting := by simp [hlive]
  refine ⟨fun call hcall => ?_, fun entry hentry => ?_⟩
  · rcases List.mem_append.mp hcall with hold | hnew
    · exact h.1 call hold
    · rw [List.mem_singleton.mp hnew]
      nofun
  · rw [log_concat] at hentry
    rcases List.mem_append.mp hentry with hold | hnew
    · exact h.2 entry hold
    · rw [List.mem_singleton.mp hnew]
      exact ((m.after calls).perform_move s.call).ne_gaveUp hstate

/-- A sample of a peer that was live so far finds it live if the last sign is recent enough. -/
theorem live_concat_iff {s : Sample} (hpos : 0 < policy.staleThreshold)
    (hordered : InOrder created ((samples ++ [s]).map Sample.call))
    (hcalls : (start policy present created).Undisturbed (samples.map Sample.call))
    (hlive : ((start policy present created).shown samples).state = .attachedLive) :
    let run := (samples ++ [s]).map Sample.call
    (start policy present created).Undisturbed run ∧
      (((start policy present created).shown (samples ++ [s])).state = .attachedLive ↔
        s.now < lastSign created run + policy.staleThreshold) := by
  intro run
  have hrun : run = samples.map Sample.call ++ [s.call] := List.map_append
  have hundisturbed := hcalls.concat_sample hlive s
  obtain ⟨hpast, hjudged, -⟩ := attachedLive_iff_recent_sign hpos (hrun ▸ hordered) hundisturbed
  rw [shown_concat, hrun]
  exact ⟨hundisturbed, hjudged.trans (Nat.sub_lt_iff_lt_add' hpast)⟩

/-- A threshold bears the pauses that are shorter than itself, and no others. -/
theorem bears_iff (hpos : 0 < policy.staleThreshold) :
    Bears policy pause ↔ pause < policy.staleThreshold := by
  constructor
  · -- A peer that is sampled once, so late, and has not moved.
    intro h
    let late : List Sample := [] ++ [⟨pause, 0⟩]
    have hordered : InOrder 0 (late.map Sample.call) := by simp [late, InOrder, Sample.call]
    have htimely : Timely pause 0 late := by
      intro front s rest hsplit
      rcases List.append_eq_singleton_iff.mp hsplit.symm with ⟨rfl, hs⟩ | ⟨-, hs⟩
      · cases hs
        exact Nat.le_add_left ..
      · cases hs
    have hjudged := (live_concat_iff hpos hordered (undisturbed_nil _) rfl).2.mp
      (h true 0 late hordered htimely)
    exact (Nat.zero_add policy.staleThreshold) ▸ hjudged
  · intro hlt present created samples hordered htimely
    -- That reconnection is never given up goes along with the induction.
    suffices hboth : (start policy present created).Undisturbed (samples.map Sample.call) ∧
        ((start policy present created).shown samples).state = .attachedLive from hboth.2
    induction samples using List.reverseRecOn with
    | nil => exact ⟨undisturbed_nil _, rfl⟩
    | append_singleton samples s ih =>
      have hinit : InOrder created (samples.map Sample.call) := by
        rw [List.map_append] at hordered
        exact hordered.init
      obtain ⟨hcalls, hlive⟩ := ih hinit htimely.init
      obtain ⟨hcalls', hlive'⟩ := live_concat_iff hpos hordered hcalls hlive
      have hrecent := htimely samples s [] rfl
      exact ⟨hcalls', hlive'.mpr (Nat.lt_of_le_of_lt hrecent (Nat.add_lt_add_left hlt _))⟩

end Monitor

/-! ## Whole milliseconds -/

theorem Duration.lt_ofMillis_iff {d : Duration} {n : Nat} : d < .ofMillis n ↔ d.toMillis < n :=
  (Nat.div_lt_iff_lt_mul (by decide)).symm

/-- A span below a threshold is also below what is recorded of it, if nothing is, or if a whole
number of milliseconds lies between the two. -/
theorem Header.lt_agreedThreshold_published_iff {c : EndpointConfig} {d : Duration}
    (hlt : d < c.staleThreshold) :
    d < (published c.staleThreshold).agreedThreshold c ↔
      c.staleThreshold < .ofMillis 1 ∨
        d.toMillis < c.staleThreshold.toMillis ∧ d < .ofMillis maxThresholdMs := by
  have hrecorded : (published c.staleThreshold).staleThresholdMs =
      recordedThreshold c.staleThreshold := rfl
  by_cases hshort : c.staleThreshold < .ofMillis 1
  · have hzero := hrecorded.trans (recordedThreshold_eq_zero_iff.mpr hshort)
    rw [agreedThreshold_of_eq_zero c hzero]
    exact iff_of_true hlt (.inl hshort)
  · have hsome : (published c.staleThreshold).staleThresholdMs ≠ 0 :=
      fun hzero => hshort (recordedThreshold_eq_zero_iff.mp hzero)
    rw [agreedThreshold_of_ne_zero c hsome, hrecorded, toNat_recordedThreshold,
      Duration.lt_ofMillis_iff, Nat.lt_min, or_iff_right hshort, Duration.lt_ofMillis_iff]

theorem Header.agreedThreshold_pos {c : EndpointConfig} (h : Header)
    (hpos : 0 < c.staleThreshold) : 0 < h.agreedThreshold c := by
  by_cases hrecorded : h.staleThresholdMs = 0
  · rw [agreedThreshold_of_eq_zero c hrecorded]
    exact hpos
  · rw [agreedThreshold_of_ne_zero c hrecorded]
    have hms : 0 < h.staleThresholdMs.toNat :=
      Nat.pos_of_ne_zero fun hzero => hrecorded (UInt64.toNat_inj.mp hzero)
    exact Nat.mul_pos hms (by decide)

/-! ## Makers of regions -/

theorem EndpointConfig.heartbeat_lt_of_validate {c : EndpointConfig} (h : c.validate = .ok ()) :
    c.heartbeatInterval < c.staleThreshold := by
  refine Nat.lt_of_not_le fun hslow => ?_
  rw [validate, fault?] at h
  split at h
  · cases h
  · rename_i hfault
    rw [if_pos hslow] at hfault
    split at hfault
    · cases hfault
    · split at hfault <;> cases hfault

namespace Endpoint

variable {k : Kernel} {p : Process} {now : Instant} {c : EndpointConfig} {r mapped r' : Regions}
  {handle : RegionHandle} {e : Endpoint}

/-- Who makes a region keeps to what it has itself recorded there. -/
theorem threshold_of_made (hacquire : r.acquire k p c = (.ok handle, mapped))
    (hmade : handle.created = true)
    (hopen : Endpoint.open k p now c r = (some (.ok e), r')) :
    c.validate = .ok () ∧ e.monitor.policy.staleThreshold =
      (Header.published c.staleThreshold).agreedThreshold c := by
  have hsuits := (Regions.grows_acquire k p c r).2 handle
  rw [hacquire] at hsuits
  have hheader := (hsuits rfl).made hmade
  have hfree : (mapped.layout handle.object).header.lock.owner = 0 := by
    rw [hheader]
    rfl
  obtain ⟨hvalid, henters⟩ := of_board hacquire (open_eq_ok_iff.mp hopen).1
  rcases enter_cases p now c (hsuits rfl).mapped hfree with
    ⟨side, present, -, henter⟩ | ⟨err, -, henter⟩
  · cases henter.symm.trans henters
    rw [← hheader]
    exact ⟨hvalid, rfl⟩
  · cases henter.symm.trans henters

/-- Settings that are accepted have a heartbeat interval below the threshold. Whether the one who
makes a region by them also works with a threshold above it is a matter of whole milliseconds:
either the threshold is less than one, and then nothing is recorded, or the interval has fewer of
them, and not so many that they cannot be recorded. This is also when it never calls a peer stale
that keeps to the interval. -/
theorem bears_own_interval_iff (hacquire : r.acquire k p c = (.ok handle, mapped))
    (hmade : handle.created = true)
    (hopen : Endpoint.open k p now c r = (some (.ok e), r')) :
    let resolved := c.staleThreshold < .ofMillis 1 ∨
      c.heartbeatInterval.toMillis < c.staleThreshold.toMillis ∧
        c.heartbeatInterval < .ofMillis Header.maxThresholdMs
    c.heartbeatInterval < c.staleThreshold ∧
      (c.heartbeatInterval < e.monitor.policy.staleThreshold ↔ resolved) ∧
      (Monitor.Bears e.monitor.policy c.heartbeatInterval ↔ resolved) := by
  intro resolved
  obtain ⟨hvalid, hthreshold⟩ := threshold_of_made hacquire hmade hopen
  have hlt := c.heartbeat_lt_of_validate hvalid
  have hresolved : c.heartbeatInterval < e.monitor.policy.staleThreshold ↔ resolved := by
    rw [hthreshold]
    exact Header.lt_agreedThreshold_published_iff hlt
  have hpos : 0 < e.monitor.policy.staleThreshold := by
    rw [hthreshold]
    exact Header.agreedThreshold_pos _ (Nat.zero_lt_of_lt hlt)
  exact ⟨hlt, hresolved, (Monitor.bears_iff hpos).trans hresolved⟩

/-! ## Two masters -/

/-- The settings of a master that beats at this interval. -/
def masterAt (staleThreshold heartbeatInterval : Duration) : EndpointConfig :=
  { name := "a", role := .master, staleThreshold, heartbeatInterval }

/-- Opened by a process that runs alone, an endpoint makes its region and works with this
threshold. -/
def Makes (c : EndpointConfig) (threshold : Duration) : Prop :=
  ∃ handle mapped e r', Regions.empty.acquire .able Company.lonely c = (.ok handle, mapped) ∧
    handle.created = true ∧ Endpoint.open .able Company.lonely 0 c .empty = (some (.ok e), r') ∧
    e.monitor.policy.staleThreshold = threshold

theorem Makes.of_opened {threshold : Duration}
    (hmade : (Regions.empty.acquire .able Company.lonely c).1.toOption.map
      RegionHandle.created = some true)
    (hopen : ((Endpoint.open .able Company.lonely 0 c .empty).1.bind (·.toOption)).map
      (·.monitor.policy.staleThreshold) = some threshold) : Makes c threshold := by
  rcases hacquired : Regions.empty.acquire .able Company.lonely c with ⟨err | handle, mapped⟩
  · rw [hacquired] at hmade
    cases hmade
  · rcases hopened : Endpoint.open .able Company.lonely 0 c .empty with ⟨_ | err | e, r'⟩
    · rw [hopened] at hopen
      cases hopen
    · rw [hopened] at hopen
      cases hopen
    · rw [hacquired] at hmade
      rw [hopened] at hopen
      exact ⟨handle, mapped, e, r', hacquired, Option.some.inj hmade, hopened,
        Option.some.inj hopen⟩

/-- Three milliseconds, and two and a half between two beats. -/
theorem bears_own_interval_iff_masterAt :
    ∃ handle mapped e r',
      Regions.empty.acquire .able Company.lonely (masterAt 3000000 2500000) =
        (.ok handle, mapped) ∧ handle.created = true ∧
      Endpoint.open .able Company.lonely 0 (masterAt 3000000 2500000) .empty = (some (.ok e), r') ∧
      2500000 < e.monitor.policy.staleThreshold ∧ Monitor.Bears e.monitor.policy 2500000 := by
  obtain ⟨handle, mapped, e, r', hacquire, hmade, hopen, -⟩ :
      Makes (masterAt 3000000 2500000) 3000000 := .of_opened (by decide +kernel) (by decide +kernel)
  obtain ⟨-, hlt, hbears⟩ := bears_own_interval_iff hacquire hmade hopen
  have hresolved : (masterAt 3000000 2500000).heartbeatInterval.toMillis <
      (masterAt 3000000 2500000).staleThreshold.toMillis ∧
      (masterAt 3000000 2500000).heartbeatInterval < .ofMillis Header.maxThresholdMs := by decide
  exact ⟨handle, mapped, e, r', hacquire, hmade, hopen, hlt.mpr (.inr hresolved),
    hbears.mpr (.inr hresolved)⟩

/-- An hour and half a millisecond, and an hour and two fifths of a millisecond between two beats:
the settings are accepted, and the threshold that is kept to is shorter than the interval. -/
theorem threshold_lt_interval_masterAt :
    (masterAt 3600000500000 3600000400000).validate = .ok () ∧
      Makes (masterAt 3600000500000 3600000400000) 3600000000000 ∧
      ¬ (masterAt 3600000500000 3600000400000).heartbeatInterval < 3600000000000 :=
  ⟨by decide +kernel, .of_opened (by decide +kernel) (by decide +kernel), by decide⟩

end Endpoint

end PeerLink
