import PeerLink.Proofs.Link.Moves

/-! # Giving up and closing

Two states of a monitor are final: that after reconnection was given up, and that after the link
was closed. The rest of a run is silence.

* `Monitor.Consistent`: how state, failure and settings go together in every run.
* `Monitor.Move.of_failed`, `Monitor.Move.of_detached`: nothing happens after the end.
* `Monitor.Move.gaveUp_iff`: a failure is reported when it is recorded, and only then.

Main statement: `Monitor.failure_is_final`.
-/

namespace PeerLink.Monitor
set_option autoImplicit false

variable {m m' : Monitor} {call : Call} {e : LivenessEvent}

/-- What holds of a monitor in every run. -/
structure Consistent (m : Monitor) : Prop where
  bounded : m.failure.isSome = true → m.isBounded = true
  stopped : m.failure.isSome = true → m.state = .peerStale ∨ m.state = .detached
  seeking : m.state = .reconnecting →
    m.policy.behavior ≠ .immediately ∧ m.peerSeen = true ∧ m.failure = none
  lost : m.state = .peerStale → m.peerSeen = true →
    m.policy.behavior = .immediately ∨ m.failure.isSome = true

theorem consistent_start (policy : ReconnectPolicy) (present : Bool) (created : Instant) :
    (start policy present created).Consistent := by
  constructor <;> simp [start]

theorem isBounded_iff (m : Monitor) :
    m.isBounded = true ↔ m.policy.behavior = .onTimeout ∧ m.policy.givesUp = true := by
  rw [isBounded, Bool.and_eq_true, beq_iff_eq, and_comm]

/-- Fields of a monitor in a state in which no failure is recorded. -/
theorem Consistent.unfailed (h : m.Consistent)
    (hstate : m.state = .attachedLive ∨ m.state = .reconnecting) : m.failure = none := by
  rcases hfailure : m.failure with _ | failure
  · rfl
  · have hsome : m.failure.isSome = true := by simp [hfailure]
    rcases h.stopped hsome with hs | hs <;> simp [hs] at hstate

theorem Consistent.step (h : m.Consistent) (hmove : Move m call m' e) : m'.Consistent := by
  cases hmove with
  | closed | missed | late => exact h
  | recovered _ _ _ hfailure | moved _ hfailure =>
    constructor <;> simp [recover, noted, hfailure]
  | fresh hstate =>
    have hfailure := h.unfailed (.inl hstate)
    constructor <;> simp [noted, hfailure, hstate]
  | begun hstate _ hseen hbehavior =>
    have hfailure := h.unfailed (.inl hstate)
    exact ⟨h.bounded, by simp [noted, hfailure], fun _ => ⟨hbehavior, hseen, hfailure⟩, by simp⟩
  | lost hstate _ hidle =>
    have hfailure := h.unfailed (.inl hstate)
    refine ⟨h.bounded, by simp, by simp, fun _ hseen => .inl ?_⟩
    exact hidle.resolve_left (by rw [Bool.not_eq_false]; exact hseen)
  | exhausted _ _ hbounded | spent _ hbounded =>
    exact ⟨fun _ => hbounded, by simp, by simp, fun _ _ => .inr rfl⟩
  | waiting hstate hquiet | announced hstate hquiet =>
    obtain ⟨hbehavior, hseen, hfailure⟩ := h.seeking hstate
    exact ⟨h.bounded, h.stopped, fun _ => ⟨hbehavior, by simp [noted, hseen], hfailure⟩,
      by simp [noted, hstate]⟩
  | silent hstate hquiet =>
    refine ⟨h.bounded, h.stopped, by simp [noted, hstate], fun _ hseen => ?_⟩
    -- Movement without a failure would have been a recovery.
    rcases hquiet with hstill | hfailure
    · exact h.lost hstate (by simpa [noted, hstill] using hseen)
    · exact .inr hfailure
  | detached => exact ⟨h.bounded, fun _ => .inr rfl, by simp [detach], by simp [detach]⟩

theorem consistent_after (m : Monitor) (h : m.Consistent) (calls : List Call) :
    (m.after calls).Consistent :=
  (run_induction (Q := fun _ => True) (fun h hmove => ⟨h.step hmove, trivial⟩) h calls).1

/-! ## The end -/

theorem Move.of_detached (hmove : Move m call m' e) (hstate : m.state = .detached) :
    m'.state = .detached ∧ e = .steady := by
  cases hmove with
  | closed | missed | late => exact ⟨hstate, rfl⟩
  | detached => exact ⟨rfl, rfl⟩
  | recovered _ hopen | moved hopen => exact absurd hstate hopen
  | fresh hs | begun hs | lost hs | exhausted hs | waiting hs | announced hs | silent hs
  | spent hs => simp [hs] at hstate

theorem Move.of_failed {failure : ReconnectFailure} (hmove : Move m call m' e)
    (h : m.Consistent) (hfailure : m.failure = some failure) :
    m'.failure = some failure ∧ e = .steady := by
  cases hmove with
  | closed | missed | late | silent | waiting | detached => exact ⟨hfailure, rfl⟩
  | recovered _ _ _ hnone | moved _ hnone => simp [hnone] at hfailure
  | fresh hstate | begun hstate | lost hstate => simp [h.unfailed (.inl hstate)] at hfailure
  | exhausted hstate | announced hstate | spent hstate =>
    simp [h.unfailed (.inr hstate)] at hfailure

/-- A failure is reported when it is recorded, and only then. -/
theorem Move.gaveUp_iff {failure : ReconnectFailure} (hmove : Move m call m' e)
    (h : m.Consistent) :
    e = .gaveUp failure ↔ m.failure = none ∧ m'.failure = some failure := by
  cases hmove with
  | exhausted hstate | spent hstate => simp [h.unfailed (.inr hstate)]
  | _ => simp +contextual [noted, recover, detach]

/-- Without bounds nothing is given up. -/
theorem unfailed_of_not_isBounded (hfailure : m.failure = none) (hbounded : m.isBounded = false)
    (calls : List Call) :
    (m.after calls).failure = none ∧
      ∀ entry ∈ m.log calls, ∀ failure, entry.event ≠ .gaveUp failure := by
  have hstep {m call m' e} (h : m.failure = none ∧ m.isBounded = false) (hmove : Move m call m' e) :
      (m'.failure = none ∧ m'.isBounded = false) ∧ ∀ failure, e ≠ .gaveUp failure := by
    have hpolicy : m'.isBounded = m.isBounded := by rw [isBounded, hmove.policy_eq, isBounded]
    rw [hpolicy]
    cases hmove with
    | exhausted _ _ hbounded | spent _ hbounded => simp [h.2] at hbounded
    | recovered _ _ _ hnone | moved _ hnone => exact ⟨⟨hnone, h.2⟩, by simp⟩
    | _ => exact ⟨⟨h.1, h.2⟩, by simp⟩
  have hrun := run_induction hstep ⟨hfailure, hbounded⟩ calls
  exact ⟨hrun.1.1, hrun.2⟩

theorem failed_after {failure : ReconnectFailure} (h : m.Consistent)
    (hfailure : m.failure = some failure) (calls : List Call) :
    ((m.after calls).Consistent ∧ (m.after calls).failure = some failure) ∧
      ∀ entry ∈ m.log calls, entry.event = .steady :=
  run_induction (P := fun m => m.Consistent ∧ m.failure = some failure)
    (fun h hmove => ⟨⟨h.1.step hmove, (hmove.of_failed h.1 h.2).1⟩, (hmove.of_failed h.1 h.2).2⟩)
    ⟨h, hfailure⟩ calls

theorem detached_after (hstate : m.state = .detached) (calls : List Call) :
    (m.after calls).state = .detached ∧ ∀ entry ∈ m.log calls, entry.event = .steady :=
  run_induction (P := (·.state = .detached)) (fun h hmove => hmove.of_detached h) hstate calls

theorem Consistent.not_isPeerAlive (h : m.Consistent) (hfailure : m.failure.isSome = true) :
    m.isPeerAlive = false := by
  rcases h.stopped hfailure with hstate | hstate <;> simp [isPeerAlive, hstate]

/-- In every run, in whatever order and at whatever times: only a slave that reconnects within a
bound ever records a failure, the failure is reported once and for good, and a closed link stays
closed. A monitor that seeks its peer has not failed, and a peer that is lost without a failure was
lost to somebody who does not seek it. -/
theorem failure_is_final (policy : ReconnectPolicy) (present : Bool) (created : Instant)
    (calls later : List Call) :
    let m := (start policy present created).after calls
    (m.failure.isSome = true → policy.behavior = .onTimeout ∧ policy.givesUp = true) ∧
      (∀ call failure, (m.perform call).2 = .gaveUp failure ↔
        m.failure = none ∧ (m.perform call).1.failure = some failure) ∧
      (∀ failure, m.failure = some failure →
        (m.after later).failure = some failure ∧ (m.after later).isPeerAlive = false ∧
          ∀ entry ∈ m.log later, entry.event = .steady) ∧
      (m.state = .reconnecting →
        policy.behavior ≠ .immediately ∧ m.peerSeen = true ∧ m.failure = none) ∧
      (m.peerLost = true → policy.behavior = .immediately ∨ m.failure.isSome = true) ∧
      ((m.detach.after later).state = .detached ∧
        ∀ entry ∈ m.detach.log later, entry.event = .steady) ∧
      (policy.behavior = .never ∨
          (∃ config threshold, policy = .ofConfig config .master threshold) →
        m.failure = none ∧ ∀ entry ∈ (start policy present created).log calls,
          ∀ failure, entry.event ≠ .gaveUp failure) := by
  intro m
  have hpolicy : m.policy = policy := policy_after _ _
  have hm : m.Consistent := consistent_after _ (consistent_start policy present created) calls
  refine ⟨fun hfailure => ?_, fun call failure => (m.perform_move call).gaveUp_iff hm, ?_, ?_, ?_,
    detached_after rfl later, ?_⟩
  · rw [← hpolicy]
    exact m.isBounded_iff.mp (hm.bounded hfailure)
  · intro failure hfailure
    obtain ⟨⟨hlater, hkept⟩, hevents⟩ := failed_after hm hfailure later
    exact ⟨hkept, hlater.not_isPeerAlive (by simp [hkept]), hevents⟩
  · rw [← hpolicy]
    exact hm.seeking
  · intro hlost
    rw [peerLost, Bool.and_eq_true, beq_iff_eq] at hlost
    rw [← hpolicy]
    exact hm.lost hlost.2 hlost.1
  · intro hpatient
    refine unfailed_of_not_isBounded rfl ?_ calls
    rcases hpatient with hnever | ⟨config, threshold, rfl⟩
    · simp [isBounded, start, hnever]
    · rfl

end PeerLink.Monitor
