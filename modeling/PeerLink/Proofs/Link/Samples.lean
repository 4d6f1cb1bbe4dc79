import Mathlib.Data.List.Basic
import Mathlib.Data.List.Induction
import PeerLink.Proofs.Link.Silence

/-! # What samples show

A monitor that is shown samples of its peer's heartbeat, and nothing else. It measures silence from
the last sample that differed from the one before it, and as long as there is none from its own
start. A start is no sample: nobody looked at the peer then. So a peer that has never been seen to
move is called stale once the start is long enough ago, however short a time the samples cover, and
a first sample that comes late decides alone.

* `Monitor.Sample`, `Monitor.shown`: the samples, and a monitor that was shown some.
* `Monitor.SilenceSeen`: two samples of one heartbeat, so far apart, with no other one between them.
* `Monitor.StillSince`: since when the samples of a run have been the same.
* `Monitor.history_shown`: what a monitor keeps of the samples.

Main statement: `Monitor.peerStale_iff_silence_seen_or_never_moved`.
-/

namespace PeerLink.Monitor
set_option autoImplicit false

/-! ## Samples -/

/-- One look at the peer. -/
structure Sample where
  now : Instant
  heartbeat : UInt64
  deriving DecidableEq

/-- What a monitor is asked with a sample. -/
def Sample.call (s : Sample) : Call := ⟨s.now, .observe s.heartbeat⟩

/-- A monitor that was shown samples. -/
def shown (m : Monitor) (samples : List Sample) : Monitor := m.after (samples.map Sample.call)

/-- An earlier sample and the last one show the same heartbeat and are at least `threshold` apart,
and so do all samples between them. -/
def SilenceSeen (threshold : Duration) (samples : List Sample) (last : Sample) : Prop :=
  ∃ front first stretch, samples = front ++ first :: stretch ∧
    (∀ s ∈ first :: stretch, s.heartbeat = last.heartbeat) ∧ first.now + threshold ≤ last.now

/-- Since when the samples of a run have been the same: since the one that differed from the one
before it, or since the start. -/
inductive StillSince (created : Instant) : List Sample → Instant → Prop where
  | start {samples : List Sample} (heartbeat : UInt64)
      (hsame : ∀ s ∈ samples, s.heartbeat = heartbeat) : StillSince created samples created
  | change {front stretch : List Sample} {prev first : Sample} (hprev : front.getLast? = some prev)
      (hdiffers : prev.heartbeat ≠ first.heartbeat)
      (hsame : ∀ s ∈ stretch, s.heartbeat = first.heartbeat) :
      StillSince created (front ++ first :: stretch) first.now

variable {m m' : Monitor} {e : LivenessEvent} {created now t : Instant} {heartbeat : UInt64}
  {samples : List Sample} {s last : Sample} {threshold : Duration}

/-! ## One more sample -/

theorem StillSince.concat_of_differs (h : samples.getLast? = some s)
    (hdiffers : s.heartbeat ≠ last.heartbeat) :
    StillSince created (samples ++ [last]) last.now :=
  .change h hdiffers fun _ hs => absurd hs List.not_mem_nil

theorem StillSince.concat_of_same (h : StillSince created samples t)
    (hsame : ∀ s, samples.getLast? = some s → s.heartbeat = last.heartbeat) :
    StillSince created (samples ++ [last]) t := by
  cases h with
  | start heartbeat hall =>
    refine .start last.heartbeat fun s hs => ?_
    rcases List.mem_append.mp hs with hold | hnew
    · -- They all equal the latest of them.
      have hne : samples ≠ [] := List.ne_nil_of_mem hold
      have hlast := List.getLast?_eq_some_getLast hne
      rw [← hsame _ hlast, hall s hold, hall _ (List.getLast_mem hne)]
    · rw [List.mem_singleton.mp hnew]
  | @change front stretch prev first hprev hdiffers hall =>
    have hlast := List.getLast?_eq_some_getLast (List.cons_ne_nil first stretch)
    have hfirst : first.heartbeat = last.heartbeat := by
      rw [← hsame _ ((List.getLast?_append_of_ne_nil front (List.cons_ne_nil _ _)).trans hlast)]
      rcases List.mem_cons.mp (List.getLast_mem (List.cons_ne_nil first stretch)) with heq | hmem
      · rw [heq]
      · rw [hall _ hmem]
    rw [List.append_assoc, List.cons_append]
    refine .change hprev hdiffers fun s hs => ?_
    rcases List.mem_append.mp hs with hold | hnew
    · exact hall s hold
    · rw [List.mem_singleton.mp hnew, hfirst]

/-- What a sample leaves in a monitor, whatever else it brings about. -/
theorem Move.noted_eq (hmove : Move m ⟨now, .observe heartbeat⟩ m' e)
    (hopen : m.state ≠ .detached) :
    m'.state ≠ .detached ∧ m'.lastHeartbeat = some heartbeat ∧
      m'.lastChange = if m.moves heartbeat then now else m.lastChange := by
  cases hmove with
  | closed hstate => exact absurd hstate hopen
  | fresh | waiting | announced | silent => exact ⟨hopen, rfl, rfl⟩
  | recovered | begun | lost | exhausted => exact ⟨by simp [recover], rfl, rfl⟩

/-- A peer is called stale if it was live so far and has not moved for the threshold. -/
theorem Move.peerStale_iff_still (hmove : Move m ⟨now, .observe heartbeat⟩ m' e) :
    (∃ silence, e = .peerStale silence) ↔ m.state = .attachedLive ∧
      m.policy.staleThreshold ≤ now.since (m.noted heartbeat now).lastChange := by
  cases hmove with
  | begun hstate hlong | lost hstate hlong => exact iff_of_true ⟨_, rfl⟩ ⟨hstate, hlong⟩
  | fresh hstate hshort => exact iff_of_false (by simp) fun h => Nat.not_le_of_lt hshort h.2
  | recovered _ _ hstate => exact iff_of_false (by simp) fun h => hstate h.1
  | closed hstate | exhausted hstate | waiting hstate | announced hstate | silent hstate =>
    exact iff_of_false (by simp) fun h => by simp [hstate] at h

/-! ## Runs -/

theorem shown_concat (m : Monitor) (samples : List Sample) (s : Sample) :
    m.shown (samples ++ [s]) = ((m.shown samples).observe s.heartbeat s.now).1 := by
  rw [shown, List.map_append]
  exact after_concat ..

/-- The state of a monitor that is only shown samples is never the final one; it keeps the last
heartbeat, and since when the heartbeats have been the same. -/
theorem history_shown (policy : ReconnectPolicy) (present : Bool) (created : Instant)
    (samples : List Sample) :
    ((start policy present created).shown samples).state ≠ .detached ∧
      ((start policy present created).shown samples).lastHeartbeat =
        samples.getLast?.map Sample.heartbeat ∧
      StillSince created samples ((start policy present created).shown samples).lastChange := by
  induction samples using List.reverseRecOn with
  | nil => exact ⟨nofun, rfl, .start 0 fun s hs => absurd hs List.not_mem_nil⟩
  | append_singleton samples s ih =>
    obtain ⟨hopen, hheartbeat, hsince⟩ := ih
    rw [shown_concat]
    generalize (start policy present created).shown samples = m at *
    obtain ⟨hopen', hheartbeat', hchange⟩ := (m.observe_move s.heartbeat s.now).noted_eq hopen
    refine ⟨hopen', ?_, ?_⟩
    · rw [hheartbeat', List.getLast?_concat]
      rfl
    · rw [hchange, moves, hheartbeat]
      rcases hlast : samples.getLast? with _ | prev
      · exact hsince.concat_of_same fun s hs => by cases hlast.symm.trans hs
      · by_cases hsame : prev.heartbeat = s.heartbeat
        · have hstill : ¬ (prev.heartbeat != s.heartbeat) = true := by simp [hsame]
          rw [Option.map_some, Option.any_some, if_neg hstill]
          refine hsince.concat_of_same fun latest hs => ?_
          cases hlast.symm.trans hs
          exact hsame
        · rw [Option.map_some, Option.any_some, if_pos (bne_iff_ne.mpr hsame)]
          exact .concat_of_differs hlast hsame

/-! ## Evidence -/

theorem SilenceSeen.of_getLast? (h : SilenceSeen threshold samples last)
    (hlast : samples.getLast? = some s) : s.heartbeat = last.heartbeat := by
  obtain ⟨front, first, stretch, rfl, hsame, -⟩ := h
  rw [List.getLast?_append_of_ne_nil _ (List.cons_ne_nil _ _)] at hlast
  exact hsame s (List.mem_of_getLast? hlast)

/-- Samples that have been the same since a change cannot show a longer silence than from there. -/
theorem SilenceSeen.after_change {front stretch : List Sample} {prev first : Sample}
    (h : SilenceSeen threshold (front ++ first :: stretch) last)
    (hprev : front.getLast? = some prev) (hdiffers : prev.heartbeat ≠ last.heartbeat)
    (hordered : ∀ s ∈ stretch, first.now ≤ s.now) : first.now + threshold ≤ last.now := by
  obtain ⟨front', first', stretch', hsplit, hsame, hlong⟩ := h
  rcases List.append_eq_append_iff.mp hsplit with ⟨between, -, hrest⟩ | ⟨between, hfront, hrest⟩
  · -- The silence begins with the change or after it.
    have hmem : first' ∈ first :: stretch := by
      rw [hrest]
      exact List.mem_append_right _ List.mem_cons_self
    rcases List.mem_cons.mp hmem with rfl | hlater
    · exact hlong
    · exact Nat.le_trans (Nat.add_le_add_right (hordered first' hlater) threshold) hlong
  · rcases List.eq_nil_or_concat' between with rfl | ⟨init, latest, rfl⟩
    · cases hrest
      exact hlong
    · -- Otherwise the sample before the change would be one of those that are the same.
      rw [hfront, ← List.append_assoc, List.getLast?_concat] at hprev
      cases hprev
      refine absurd (hsame _ ?_) hdiffers
      rw [hrest]
      simp

theorem le_of_inOrder (h : InOrder created (samples.map Sample.call)) (hs : s ∈ samples) :
    created ≤ s.now := by
  rw [InOrder, List.pairwise_cons] at h
  exact h.1 s.now (List.mem_map_of_mem (List.mem_map_of_mem hs))

theorem le_of_inOrder_append {front stretch : List Sample} {first : Sample}
    (h : InOrder created ((front ++ first :: stretch).map Sample.call)) (hs : s ∈ stretch) :
    first.now ≤ s.now := by
  rw [InOrder, List.map_map, List.map_append, ← List.cons_append, List.pairwise_append,
    List.map_cons] at h
  exact (List.pairwise_cons.mp h.2.1).1 s.now (List.mem_map_of_mem hs)

theorem le_since_iff (hpos : 0 < threshold) : threshold ≤ now.since t ↔ t + threshold ≤ now := by
  rw [Instant.since]
  constructor
  · intro hlong
    have hpast : t < now := Nat.lt_of_sub_pos (Nat.lt_of_lt_of_le hpos hlong)
    exact Nat.add_le_of_le_sub' (Nat.le_of_lt hpast) hlong
  · exact Nat.le_sub_of_add_le'

/-- A run of samples, the last of which finds the peer silent for the threshold: either two of them
show it, or none has ever differed from another and the start is that long ago. -/
theorem StillSince.threshold_le_iff (h : StillSince created (samples ++ [last]) t)
    (hpos : 0 < threshold) (hordered : InOrder created ((samples ++ [last]).map Sample.call)) :
    threshold ≤ last.now.since t ↔ SilenceSeen threshold samples last ∨
      (∀ s ∈ samples, s.heartbeat = last.heartbeat) ∧ created + threshold ≤ last.now := by
  generalize hrun : samples ++ [last] = run at h
  rw [le_since_iff hpos]
  cases h with
  | start heartbeat hall =>
    have hsame : ∀ s ∈ samples, s.heartbeat = last.heartbeat := by
      intro s hs
      rw [hall s (hrun ▸ List.mem_append_left _ hs),
        hall last (hrun ▸ List.mem_append_right _ List.mem_cons_self)]
    refine ⟨fun hlong => .inr ⟨hsame, hlong⟩, ?_⟩
    rintro (⟨front, first, stretch, rfl, -, hlong⟩ | ⟨-, hlong⟩)
    · have hcreated : created ≤ first.now := le_of_inOrder hordered (by simp)
      exact Nat.le_trans (Nat.add_le_add_right hcreated threshold) hlong
    · exact hlong
  | @change front stretch prev first hprev hdiffers hall =>
    rcases List.eq_nil_or_concat' stretch with rfl | ⟨stretch, s, rfl⟩
    · -- The last sample is the one that differs.
      obtain ⟨rfl, hfirst⟩ := List.append_inj' hrun rfl
      cases hfirst
      refine iff_of_false (Nat.not_le_of_lt (Nat.lt_add_of_pos_right hpos)) ?_
      rintro (hseen | ⟨hsame, -⟩)
      · exact hdiffers (hseen.of_getLast? hprev)
      · exact hdiffers (hsame prev (List.mem_of_getLast? hprev))
    · rw [← List.cons_append, ← List.append_assoc] at hrun
      obtain ⟨rfl, hlast⟩ := List.append_inj' hrun rfl
      cases hlast
      have hheartbeat : last.heartbeat = first.heartbeat :=
        hall last (List.mem_append_right _ List.mem_cons_self)
      have hstretch : ∀ s ∈ first :: stretch, s.heartbeat = last.heartbeat := by
        intro s hs
        rw [hheartbeat]
        rcases List.mem_cons.mp hs with rfl | hmem
        · rfl
        · exact hall s (List.mem_append_left _ hmem)
      refine ⟨fun hlong => .inl ⟨front, first, stretch, rfl, hstretch, hlong⟩, ?_⟩
      rintro (hseen | ⟨hsame, -⟩)
      · refine hseen.after_change hprev (hheartbeat ▸ hdiffers) fun s hs => ?_
        rw [List.append_assoc, List.cons_append] at hordered
        exact le_of_inOrder_append hordered (List.mem_append_left _ hs)
      · exact absurd (hsame prev (by simp [List.mem_of_getLast? hprev]))
          (hheartbeat ▸ hdiffers)

/-! ## When a peer is called stale -/

/-- In a run of samples whose times do not go backwards, a sample finds a live peer stale if and
only if an earlier one, at least the threshold before it, showed the same heartbeat and none between
them another one; or if no sample has ever differed from another and the start of the monitor is
that long ago. In the second case alone a peer is called stale without evidence: if all samples, the
first one too, are less than the threshold old. -/
theorem peerStale_iff_silence_seen_or_never_moved {policy : ReconnectPolicy} {present : Bool}
    {created : Instant} {samples : List Sample} {last : Sample} (hpos : 0 < policy.staleThreshold)
    (hordered : InOrder created ((samples ++ [last]).map Sample.call)) :
    let before := (start policy present created).shown samples
    let stale := ∃ silence, (before.observe last.heartbeat last.now).2 = .peerStale silence
    let neverMoved := ∀ s ∈ samples, s.heartbeat = last.heartbeat
    (stale ↔ before.state = .attachedLive ∧
      (SilenceSeen policy.staleThreshold samples last ∨
        neverMoved ∧ created + policy.staleThreshold ≤ last.now)) ∧
    (stale ∧ ¬ SilenceSeen policy.staleThreshold samples last ↔
      before.state = .attachedLive ∧ neverMoved ∧ created + policy.staleThreshold ≤ last.now ∧
        ∀ s ∈ samples, last.now < s.now + policy.staleThreshold) := by
  intro before stale neverMoved
  obtain ⟨hopen, -, -⟩ := history_shown policy present created samples
  have hmove := before.observe_move last.heartbeat last.now
  have hchange : (before.observe last.heartbeat last.now).1.lastChange =
      (before.noted last.heartbeat last.now).lastChange := (hmove.noted_eq hopen).2.2
  obtain ⟨-, -, hsince⟩ := history_shown policy present created (samples ++ [last])
  rw [shown_concat, hchange] at hsince
  have hpolicy : before.policy = policy := policy_after _ _
  have hstale : stale ↔ before.state = .attachedLive ∧
      (SilenceSeen policy.staleThreshold samples last ∨
        neverMoved ∧ created + policy.staleThreshold ≤ last.now) := by
    refine hmove.peerStale_iff_still.trans ?_
    rw [hpolicy, hsince.threshold_le_iff hpos hordered]
  refine ⟨hstale, ?_⟩
  rw [hstale]
  constructor
  · rintro ⟨⟨hlive, hseen | ⟨hsame, hlong⟩⟩, hnone⟩
    · exact absurd hseen hnone
    · refine ⟨hlive, hsame, hlong, fun s hs => Nat.lt_of_not_le fun hold => hnone ?_⟩
      obtain ⟨front, stretch, rfl⟩ := List.append_of_mem hs
      exact ⟨front, s, stretch, rfl, fun s' hs' => hsame s' (List.mem_append_right _ hs'), hold⟩
  · rintro ⟨hlive, hsame, hlong, hyoung⟩
    refine ⟨⟨hlive, .inr ⟨hsame, hlong⟩⟩, ?_⟩
    rintro ⟨front, first, stretch, rfl, -, hold⟩
    exact Nat.not_le_of_lt (hyoung first (by simp)) hold

/-- A peer that moves once and then stands still. -/
def standstill : List Sample := [⟨0, 5⟩, ⟨50, 6⟩]

/-- It is called stale because it was seen to stand still for the threshold. -/
theorem peerStale_iff_silence_seen_or_never_moved_standstill :
    0 < patient.staleThreshold ∧
      InOrder 0 ((standstill ++ [(⟨150, 6⟩ : Sample)]).map Sample.call) ∧
      SilenceSeen patient.staleThreshold standstill ⟨150, 6⟩ ∧
      ∃ silence, (((start patient true 0).shown standstill).observe 6 150).2 =
        .peerStale silence := by
  have hpos : 0 < patient.staleThreshold := by decide
  have hordered : InOrder 0 ((standstill ++ [(⟨150, 6⟩ : Sample)]).map Sample.call) := by
    rw [InOrder]
    decide
  have hseen : SilenceSeen patient.staleThreshold standstill ⟨150, 6⟩ :=
    ⟨[⟨0, 5⟩], ⟨50, 6⟩, [], rfl, by decide, by decide⟩
  have hlive : ((start patient true 0).shown standstill).state = .attachedLive := by decide
  have hstale := (peerStale_iff_silence_seen_or_never_moved hpos hordered).1.mpr
    ⟨hlive, .inl hseen⟩
  exact ⟨hpos, hordered, hseen, hstale⟩

/-- A peer that was there at the start is called stale on the evidence of a single sample, if that
one comes late: the threshold or more after the start. -/
theorem peerStale_of_single_late_sample :
    0 < patient.staleThreshold ∧ InOrder 0 [Sample.call ⟨150, 5⟩] ∧
      (start patient true 0).log [Sample.call ⟨150, 5⟩] =
        [⟨Sample.call ⟨150, 5⟩, .peerStale 150⟩] ∧
      ¬ SilenceSeen patient.staleThreshold [] ⟨150, 5⟩ := by
  refine ⟨by decide, ?_, by decide, ?_⟩
  · rw [InOrder]
    decide
  · rintro ⟨front, first, stretch, hsplit, -⟩
    simp at hsplit

end PeerLink.Monitor
