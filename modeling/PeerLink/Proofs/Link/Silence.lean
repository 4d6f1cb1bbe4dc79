import PeerLink.Proofs.Link.Moves

/-! # Silence

As long as reconnection is not given up, how a monitor stands after a sample is told by the run
alone: the peer counts as live if its last sign is less than the threshold ago.

* `Monitor.Call.showsPeer`: a sample that differs from the one before it, or a move to another
  region.
* `Monitor.signs`, `Monitor.lastSign`: when a run saw a sign of the peer, and the latest of them.
* `Monitor.InOrder`: time does not run backwards.
* `Monitor.Listening`: what every call keeps.

Main statement: `Monitor.attachedLive_iff_recent_sign`.
-/

namespace PeerLink.Monitor
set_option autoImplicit false

/-! ## Signs of the peer -/

/-- The last sample after a call, given the one before it. -/
def Call.sample (last : Option UInt64) (call : Call) : Option UInt64 :=
  match call.request with
  | .observe heartbeat | .reattached heartbeat => some heartbeat
  | .attemptFailed | .detach => last

/-- Whether a call is a sign of the peer, given the sample before it. -/
def Call.showsPeer (last : Option UInt64) (call : Call) : Bool :=
  match call.request with
  | .observe heartbeat => last.any (· != heartbeat)
  | .reattached _ => true
  | .attemptFailed | .detach => false

/-- The times of all signs in a run, given the sample before it. -/
def signs : Option UInt64 → List Call → List Instant
  | _, [] => []
  | last, call :: calls =>
    if call.showsPeer last then call.now :: signs (call.sample last) calls
    else signs (call.sample last) calls

/-- The latest sign in a run, or the start of the run. -/
def lastSign (created : Instant) (calls : List Call) : Instant :=
  (signs none calls).foldl max created

/-- No call of a run comes before an earlier one or before the start. -/
def InOrder (created : Instant) (calls : List Call) : Prop :=
  (created :: calls.map Call.now).Pairwise (· ≤ ·)

variable {m m' : Monitor} {call : Call} {e : LivenessEvent} {created now : Instant}
  {heartbeat : UInt64}

theorem InOrder.head_le {calls : List Call} (h : InOrder created (call :: calls)) :
    created ≤ call.now := by
  rw [InOrder, List.map_cons, List.pairwise_cons] at h
  exact h.1 call.now List.mem_cons_self

theorem InOrder.tail {calls : List Call} (h : InOrder created (call :: calls)) :
    InOrder call.now calls := by
  rw [InOrder, List.map_cons, List.pairwise_cons] at h
  exact h.2

theorem InOrder.init {calls : List Call} (h : InOrder created (calls ++ [call])) :
    InOrder created calls := by
  rw [InOrder, List.map_append, ← List.cons_append, List.pairwise_append] at h
  exact h.1

theorem InOrder.le_last {calls : List Call} (h : InOrder created (calls ++ [call])) :
    created ≤ call.now ∧ ∀ earlier ∈ calls, earlier.now ≤ call.now := by
  rw [InOrder, List.map_append, ← List.cons_append, List.pairwise_append] at h
  have hlast : ∀ t ∈ created :: calls.map Call.now, t ≤ call.now :=
    fun t ht => h.2.2 t ht call.now List.mem_cons_self
  refine ⟨hlast created List.mem_cons_self, fun earlier hearlier => ?_⟩
  exact hlast earlier.now (List.mem_cons_of_mem _ (List.mem_map_of_mem hearlier))

/-! ## One call -/

/-- What holds of a monitor at a point in time until reconnection is given up or the link closed:
a peer that does not count as live has been still for the threshold. -/
structure Listening (m : Monitor) (now : Instant) : Prop where
  opened : m.state ≠ .detached
  unfailed : m.failure = none
  past : m.lastChange ≤ now
  still : m.state ≠ .attachedLive → m.lastChange + m.policy.staleThreshold ≤ now

theorem listening_start (policy : ReconnectPolicy) (present : Bool) (created : Instant) :
    (start policy present created).Listening created :=
  ⟨by simp [start], rfl, Nat.le_refl _, fun h => absurd rfl h⟩

theorem Listening.mono (h : m.Listening created) (hle : created ≤ now) : m.Listening now :=
  ⟨h.opened, h.unfailed, Nat.le_trans h.past hle, fun hs => Nat.le_trans (h.still hs) hle⟩

theorem lastChange_noted (m : Monitor) (heartbeat : UInt64) (now : Instant) :
    (m.noted heartbeat now).lastChange = if m.moves heartbeat then now else m.lastChange := rfl

theorem Listening.lastChange_noted_le (h : m.Listening now) (heartbeat : UInt64) :
    (m.noted heartbeat now).lastChange ≤ now := by
  rw [lastChange_noted]
  split
  · exact Nat.le_refl _
  · exact h.past

/-- A sample that brings nothing new leaves a still peer still. -/
theorem Listening.noted_still (h : m.Listening now) (hquiet : m.Quiet heartbeat)
    (hstate : m.state ≠ .attachedLive) :
    (m.noted heartbeat now).lastChange + m.policy.staleThreshold ≤ now := by
  have hmoves : m.moves heartbeat = false := hquiet.resolve_right (by simp [h.unfailed])
  rw [lastChange_noted, hmoves]
  exact h.still hstate

/-- A peer that has been still for the threshold when the sample is judged. -/
theorem Listening.noted_still_of_since (h : m.Listening now)
    (hlong : m.policy.staleThreshold ≤ now.since (m.noted heartbeat now).lastChange) :
    (m.noted heartbeat now).lastChange + m.policy.staleThreshold ≤ now :=
  Nat.add_le_of_le_sub' (h.lastChange_noted_le heartbeat) hlong

theorem Listening.step (h : m.Listening call.now) (hmove : Move m call m' e)
    (hopen : call.request ≠ .detach) (hkept : ∀ failure, e ≠ .gaveUp failure) :
    m'.Listening call.now := by
  cases hmove with
  | closed hstate => exact absurd hstate h.opened
  | recovered => exact ⟨by simp [recover], h.unfailed, h.lastChange_noted_le _, absurd rfl⟩
  | fresh hstate => exact ⟨h.opened, h.unfailed, h.lastChange_noted_le _, absurd hstate⟩
  | begun hstate hlong =>
    exact ⟨by simp, h.unfailed, h.lastChange_noted_le _, fun _ => h.noted_still_of_since hlong⟩
  | lost hstate hlong =>
    exact ⟨by simp, h.unfailed, h.lastChange_noted_le _, fun _ => h.noted_still_of_since hlong⟩
  | exhausted => exact absurd rfl (hkept _)
  | waiting hstate hquiet =>
    exact ⟨h.opened, h.unfailed, h.lastChange_noted_le _, h.noted_still hquiet⟩
  | announced hstate hquiet =>
    exact ⟨h.opened, h.unfailed, h.lastChange_noted_le _, h.noted_still hquiet⟩
  | silent hstate hquiet =>
    exact ⟨h.opened, h.unfailed, h.lastChange_noted_le _, h.noted_still hquiet⟩
  | missed => exact h
  | spent => exact absurd rfl (hkept _)
  | late => exact h
  | moved => exact ⟨by simp [recover], h.unfailed, Nat.le_refl _, absurd rfl⟩
  | detached => exact absurd rfl hopen

/-- What a call makes of the fields that the signs are kept in. -/
theorem Listening.history (h : m.Listening now) (hmove : Move m call m' e) :
    m'.lastHeartbeat = call.sample m.lastHeartbeat ∧
      m'.lastChange = (if call.showsPeer m.lastHeartbeat then call.now else m.lastChange) ∧
      m'.peerSeen = (m.peerSeen || call.showsPeer m.lastHeartbeat) := by
  cases hmove with
  | closed hstate => exact absurd hstate h.opened
  | late hfailure => exact absurd hfailure (by simp [h.unfailed])
  | missed | spent | detached => exact ⟨rfl, rfl, (Bool.or_false _).symm⟩
  | moved => exact ⟨rfl, rfl, (Bool.or_true _).symm⟩
  | _ => exact ⟨rfl, rfl, rfl⟩

/-- After a sample, a peer counts as live exactly if it has not been still for the threshold. -/
theorem Listening.live_iff (h : m.Listening now) (hpos : 0 < m.policy.staleThreshold)
    (hmove : Move m ⟨now, .observe heartbeat⟩ m' e) :
    m'.state = .attachedLive ↔ now.since m'.lastChange < m.policy.staleThreshold := by
  have hstill {last : Instant} (hle : last + m.policy.staleThreshold ≤ now) :
      ¬ now.since last < m.policy.staleThreshold :=
    Nat.not_lt.mpr (Nat.le_sub_of_add_le' hle)
  cases hmove with
  | closed hstate => exact absurd hstate h.opened
  | recovered hmoves =>
    have hlast : (m.noted heartbeat now).recover.lastChange = now := if_pos hmoves
    rw [hlast, Instant.since, Nat.sub_self]
    exact iff_of_true rfl hpos
  | fresh hstate hshort => exact iff_of_true hstate hshort
  | begun hstate hlong => exact iff_of_false (by simp) (Nat.not_lt.mpr hlong)
  | lost hstate hlong => exact iff_of_false (by simp) (Nat.not_lt.mpr hlong)
  | exhausted hstate hquiet =>
    exact iff_of_false (by simp) (hstill (h.noted_still hquiet (by simp [hstate])))
  | waiting hstate hquiet | announced hstate hquiet | silent hstate hquiet =>
    have hdown : m.state ≠ .attachedLive := by simp [hstate]
    exact iff_of_false hdown (hstill (h.noted_still hquiet hdown))

theorem Move.peerStale_iff (hmove : Move m ⟨now, .observe heartbeat⟩ m' e) :
    (∃ silence, e = .peerStale silence) ↔ m.state = .attachedLive ∧ m'.state ≠ .attachedLive := by
  cases hmove with
  | begun hstate | lost hstate => exact iff_of_true ⟨_, rfl⟩ ⟨hstate, by simp⟩
  | fresh hstate => exact iff_of_false (by simp) fun h => h.2 hstate
  | closed hstate | exhausted hstate | waiting hstate | announced hstate | silent hstate =>
    exact iff_of_false (by simp) (by simp [hstate])
  | recovered _ _ hstate => exact iff_of_false (by simp) fun h => hstate h.1

theorem Move.peerRecovered_iff (hmove : Move m ⟨now, .observe heartbeat⟩ m' e) :
    e = .peerRecovered ↔ m.state ≠ .attachedLive ∧ m'.state = .attachedLive := by
  cases hmove with
  | recovered _ _ hstate => exact iff_of_true rfl ⟨hstate, rfl⟩
  | fresh hstate | begun hstate | lost hstate =>
    exact iff_of_false (by simp) fun h => h.1 hstate
  | exhausted => exact iff_of_false (by simp) (by simp)
  | closed hstate | waiting hstate | announced hstate | silent hstate =>
    have hdown : m.state ≠ .attachedLive := by simp [hstate]
    exact iff_of_false (by simp) fun h => hdown h.2

/-! ## Runs -/

/-- The calls of a run that neither closes the link nor gives reconnection up. -/
def Undisturbed (m : Monitor) (calls : List Call) : Prop :=
  (∀ call ∈ calls, call.request ≠ .detach) ∧
    ∀ entry ∈ m.log calls, ∀ failure, entry.event ≠ .gaveUp failure

theorem Undisturbed.head {calls : List Call} (h : m.Undisturbed (call :: calls)) :
    call.request ≠ .detach ∧ ∀ failure, (m.perform call).2 ≠ .gaveUp failure :=
  ⟨h.1 call List.mem_cons_self, h.2 ⟨call, _⟩ List.mem_cons_self⟩

theorem Undisturbed.tail {calls : List Call} (h : m.Undisturbed (call :: calls)) :
    (m.perform call).1.Undisturbed calls :=
  ⟨fun later hlater => h.1 later (List.mem_cons_of_mem _ hlater),
    fun entry hentry => h.2 entry (List.mem_cons_of_mem _ hentry)⟩

theorem Undisturbed.init {calls : List Call} (h : m.Undisturbed (calls ++ [call])) :
    m.Undisturbed calls := by
  refine ⟨fun earlier hearlier => h.1 earlier (List.mem_append_left _ hearlier), ?_⟩
  intro entry hentry
  refine h.2 entry ?_
  rw [log_concat]
  exact List.mem_append_left _ hentry

theorem Listening.after {calls : List Call} (h : m.Listening created)
    (hordered : InOrder created calls) (hcalls : m.Undisturbed calls) (hcreated : created ≤ now)
    (hnow : ∀ call ∈ calls, call.now ≤ now) : (m.after calls).Listening now := by
  induction calls generalizing m created with
  | nil => exact h.mono hcreated
  | cons call calls ih =>
    have hstep := (h.mono hordered.head_le).step (m.perform_move call) hcalls.head.1 hcalls.head.2
    exact ih hstep hordered.tail hcalls.tail (hnow call List.mem_cons_self)
      fun later hlater => hnow later (List.mem_cons_of_mem _ hlater)

/-- The fields of a monitor and the signs of the run it has seen. -/
theorem Listening.history_after {calls : List Call} (h : m.Listening created)
    (hordered : InOrder created calls) (hcalls : m.Undisturbed calls) :
    (m.after calls).lastChange = (signs m.lastHeartbeat calls).foldl max m.lastChange ∧
      ((m.after calls).peerSeen = true ↔
        m.peerSeen = true ∨ signs m.lastHeartbeat calls ≠ []) := by
  induction calls generalizing m created with
  | nil => exact ⟨rfl, by simp [Monitor.after, signs]⟩
  | cons call calls ih =>
    have hstep := (h.mono hordered.head_le).step (m.perform_move call) hcalls.head.1 hcalls.head.2
    obtain ⟨hsample, hlast, hseen⟩ := h.history (m.perform_move call)
    obtain ⟨ihlast, ihseen⟩ := ih hstep hordered.tail hcalls.tail
    rw [hsample] at ihlast ihseen
    rw [after_cons, ihlast, ihseen, hlast, hseen, signs]
    by_cases hshows : call.showsPeer m.lastHeartbeat = true
    · have hmax : max m.lastChange call.now = call.now :=
        Nat.max_eq_right (Nat.le_trans h.past hordered.head_le)
      rw [if_pos hshows, if_pos hshows, List.foldl_cons, hmax]
      exact ⟨rfl, by simp [hshows]⟩
    · rw [if_neg hshows, if_neg hshows]
      exact ⟨rfl, by simp [hshows]⟩

/-- In a run whose times do not go backwards, and in which the link is not closed and reconnection
not given up, a sample finds the peer live exactly if its last sign is less than the threshold ago.
The changes between live and not live are those that the monitor reports. -/
theorem attachedLive_iff_recent_sign {policy : ReconnectPolicy} {present : Bool}
    {created now : Instant} {heartbeat : UInt64} {calls : List Call}
    (hpos : 0 < policy.staleThreshold)
    (hordered : InOrder created (calls ++ [⟨now, .observe heartbeat⟩]))
    (hcalls : (start policy present created).Undisturbed (calls ++ [⟨now, .observe heartbeat⟩])) :
    let run := calls ++ [⟨now, .observe heartbeat⟩]
    let before := (start policy present created).after calls
    let judged := (before.observe heartbeat now).1
    let event := (before.observe heartbeat now).2
    lastSign created run ≤ now ∧
      (judged.state = .attachedLive ↔ now - lastSign created run < policy.staleThreshold) ∧
      (judged.isPeerAlive = true ↔
        judged.state = .attachedLive ∧ (present = true ∨ signs none run ≠ [])) ∧
      ((∃ silence, event = .peerStale silence) ↔
        before.state = .attachedLive ∧ judged.state ≠ .attachedLive) ∧
      (event = .peerRecovered ↔
        before.state ≠ .attachedLive ∧ judged.state = .attachedLive) := by
  intro run before judged event
  have hstart := listening_start policy present created
  have hmove : Move before ⟨now, .observe heartbeat⟩ judged event :=
    before.observe_move heartbeat now
  have hbefore : before.Listening now :=
    hstart.after hordered.init hcalls.init hordered.le_last.1 hordered.le_last.2
  have hkept : ∀ failure, event ≠ .gaveUp failure := by
    refine hcalls.2 ⟨⟨now, .observe heartbeat⟩, event⟩ ?_
    rw [log_concat]
    exact List.mem_append_right _ List.mem_cons_self
  have hpast : judged.lastChange ≤ now := (hbefore.step hmove (by simp) hkept).past
  have hrun : (start policy present created).after run = judged := after_concat _ _ _
  obtain ⟨hlast, hseen⟩ := hstart.history_after hordered hcalls
  have hlast : judged.lastChange = lastSign created run := by
    rw [← hrun, hlast]
    rfl
  have hseen : judged.peerSeen = true ↔ present = true ∨ signs none run ≠ [] := by
    rw [← hrun, hseen]
    rfl
  have hpolicy : before.policy = policy := policy_after _ _
  have hlive := hbefore.live_iff (by rwa [hpolicy]) hmove
  rw [hpolicy, hlast] at hlive
  rw [hlast] at hpast
  refine ⟨hpast, hlive, ?_, hmove.peerStale_iff, hmove.peerRecovered_iff⟩
  rw [isPeerAlive, Bool.and_eq_true, beq_iff_eq, hseen]

/-- Settings of a slave that seeks its peer for as long as it takes. -/
def patient : ReconnectPolicy := ⟨.never, 100, none, 10, none, true⟩

/-- A peer that comes after it was found missing, and then stands still. -/
def lateRun : List Call :=
  [⟨0, .observe 5⟩, ⟨120, .observe 5⟩, ⟨130, .observe 6⟩, ⟨229, .observe 6⟩]

theorem log_lateRun :
    (start patient false 0).log (lateRun ++ [⟨230, .observe 6⟩]) =
      [⟨⟨0, .observe 5⟩, .steady⟩, ⟨⟨120, .observe 5⟩, .peerStale 120⟩,
        ⟨⟨130, .observe 6⟩, .peerRecovered⟩, ⟨⟨229, .observe 6⟩, .steady⟩,
        ⟨⟨230, .observe 6⟩, .peerStale 100⟩] := by
  decide

/-- The late peer is live until its last sign is as old as the threshold. -/
theorem attachedLive_lateRun :
    0 < patient.staleThreshold ∧ InOrder 0 (lateRun ++ [⟨230, .observe 6⟩]) ∧
      (start patient false 0).Undisturbed (lateRun ++ [⟨230, .observe 6⟩]) ∧
      lastSign 0 (lateRun ++ [⟨230, .observe 6⟩]) = 130 ∧
      (((start patient false 0).after lateRun).observe 6 230).1.state ≠ .attachedLive := by
  have hpos : 0 < patient.staleThreshold := by decide
  have hordered : InOrder 0 (lateRun ++ [⟨230, .observe 6⟩]) := by
    rw [InOrder]
    decide
  have hcalls : (start patient false 0).Undisturbed (lateRun ++ [⟨230, .observe 6⟩]) := by
    refine ⟨by decide, ?_⟩
    rw [log_lateRun]
    simp
  have hlast : lastSign 0 (lateRun ++ [⟨230, .observe 6⟩]) = 130 := by decide
  have hlive := (attachedLive_iff_recent_sign hpos hordered hcalls).2.1
  rw [hlast] at hlive
  exact ⟨hpos, hordered, hcalls, hlast, fun h => absurd (hlive.mp h) (by decide)⟩

end PeerLink.Monitor
