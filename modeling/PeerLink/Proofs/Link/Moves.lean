import PeerLink.Link.Liveness

/-! # Moves of a monitor

Everything that can happen to a monitor, one case for each thing that can happen.

* `Monitor.Call`: what is asked of a monitor, and when.
* `Monitor.after`, `Monitor.log`: what a run of calls makes of a monitor, and what it answers.
* `Monitor.Move`: the cases, each with the condition under which it arises.

Main statements: `Monitor.perform_move`, and `Monitor.run_induction`, by which what is proved case
by case holds of every run.
-/

namespace PeerLink.Monitor
set_option autoImplicit false

/-! ## Calls -/

/-- What is asked of a monitor. -/
inductive Request where
  | observe (heartbeat : UInt64)
  | attemptFailed
  | reattached (heartbeat : UInt64)
  | detach
  deriving DecidableEq

/-- A request at a point in time. -/
structure Call where
  now : Instant
  request : Request
  deriving DecidableEq

/-- A call carried out. Closing the link brings nothing about that would be reported. -/
def perform (m : Monitor) (call : Call) : Monitor × LivenessEvent :=
  match call.request with
  | .observe heartbeat => m.observe heartbeat call.now
  | .attemptFailed => m.attemptFailed call.now
  | .reattached heartbeat => m.reattached heartbeat call.now
  | .detach => (m.detach, .steady)

/-- A monitor after a run of calls. -/
def after (m : Monitor) (calls : List Call) : Monitor :=
  calls.foldl (fun m call => (m.perform call).1) m

/-- A call and what it brought about. -/
structure Entry where
  call : Call
  event : LivenessEvent
  deriving DecidableEq

/-- A run of calls and what they brought about, in order. -/
def log : Monitor → List Call → List Entry
  | _, [] => []
  | m, call :: calls => ⟨call, (m.perform call).2⟩ :: log (m.perform call).1 calls

variable {m m' : Monitor} {call : Call} {e : LivenessEvent}

theorem after_cons (m : Monitor) (call : Call) (calls : List Call) :
    m.after (call :: calls) = (m.perform call).1.after calls := rfl

theorem after_concat (m : Monitor) (calls : List Call) (call : Call) :
    m.after (calls ++ [call]) = ((m.after calls).perform call).1 := by
  rw [after, List.foldl_append]
  rfl

theorem log_concat (m : Monitor) (calls : List Call) (call : Call) :
    m.log (calls ++ [call]) = m.log calls ++ [⟨call, ((m.after calls).perform call).2⟩] := by
  induction calls generalizing m with
  | nil => rfl
  | cons first calls ih => rw [List.cons_append, log, ih, log, List.cons_append, after_cons]

/-! ## Samples -/

/-- Whether a heartbeat differs from the last sample. The first sample differs from nothing. -/
def moves (m : Monitor) (heartbeat : UInt64) : Bool := m.lastHeartbeat.any (· != heartbeat)

/-- A monitor that has taken in a sample and has not judged it. -/
def noted (m : Monitor) (heartbeat : UInt64) (now : Instant) : Monitor :=
  { m with
    lastHeartbeat := some heartbeat
    lastChange := if m.moves heartbeat then now else m.lastChange
    peerSeen := m.peerSeen || m.moves heartbeat }

theorem observe_eq (m : Monitor) (heartbeat : UInt64) (now : Instant) :
    m.observe heartbeat now =
      if m.state = .detached then (m, .steady)
      else if m.moves heartbeat ∧ m.state ≠ .attachedLive ∧ m.failure = none then
        ((m.noted heartbeat now).recover, .peerRecovered)
      else (m.noted heartbeat now).judge now := by
  by_cases hdetached : m.state = .detached
  · rw [observe, if_pos hdetached, if_pos hdetached]
  · rw [observe, if_neg hdetached, if_neg hdetached]
    rcases hsample : m.lastHeartbeat with _ | previous
    · have hmoves : m.moves heartbeat = false := by rw [moves, hsample]; rfl
      simp [noted, hmoves]
    · have hmoves : m.moves heartbeat = (previous != heartbeat) := by rw [moves, hsample]; rfl
      by_cases hsame : previous = heartbeat
      · simp [noted, hmoves, hsame]
      · have hdiffers : (previous != heartbeat) = true := bne_iff_ne.mpr hsame
        simp [noted, hmoves, hdiffers]

/-- A sample that brings no recovery, for lack of movement or because it comes too late. -/
def Quiet (m : Monitor) (heartbeat : UInt64) : Prop :=
  m.moves heartbeat = false ∨ m.failure.isSome = true

/-! ## Moves -/

/-- What a call can make of a monitor. -/
inductive Move (m : Monitor) : Call → Monitor → LivenessEvent → Prop where
  /-- Nothing happens on a closed link. -/
  | closed {call : Call} (hstate : m.state = .detached) : Move m call m .steady
  | recovered {heartbeat : UInt64} {now : Instant} (hmoves : m.moves heartbeat = true)
      (hopen : m.state ≠ .detached) (hstate : m.state ≠ .attachedLive)
      (hfailure : m.failure = none) :
      Move m ⟨now, .observe heartbeat⟩ (m.noted heartbeat now).recover .peerRecovered
  | fresh {heartbeat : UInt64} {now : Instant} (hstate : m.state = .attachedLive)
      (hshort : now.since (m.noted heartbeat now).lastChange < m.policy.staleThreshold) :
      Move m ⟨now, .observe heartbeat⟩ (m.noted heartbeat now) .steady
  | begun {heartbeat : UInt64} {now : Instant} (hstate : m.state = .attachedLive)
      (hlong : m.policy.staleThreshold ≤ now.since (m.noted heartbeat now).lastChange)
      (hseen : (m.noted heartbeat now).peerSeen = true)
      (hbehavior : m.policy.behavior ≠ .immediately) :
      Move m ⟨now, .observe heartbeat⟩
        { m.noted heartbeat now with
          state := .reconnecting, reconnectStarted := some now, nextAttempt := now, attempts := 0 }
        (.peerStale (now.since (m.noted heartbeat now).lastChange))
  | lost {heartbeat : UInt64} {now : Instant} (hstate : m.state = .attachedLive)
      (hlong : m.policy.staleThreshold ≤ now.since (m.noted heartbeat now).lastChange)
      (hidle : (m.noted heartbeat now).peerSeen = false ∨ m.policy.behavior = .immediately) :
      Move m ⟨now, .observe heartbeat⟩ { m.noted heartbeat now with state := .peerStale }
        (.peerStale (now.since (m.noted heartbeat now).lastChange))
  | exhausted {heartbeat : UInt64} {now : Instant} {wait : Duration}
      (hstate : m.state = .reconnecting)
      (hquiet : m.Quiet heartbeat)
      (hbounded : m.isBounded = true) (hwait : m.policy.wait = some wait)
      (hlong : wait ≤ m.reconnectElapsed now) :
      Move m ⟨now, .observe heartbeat⟩
        { m.noted heartbeat now with
          state := .peerStale, failure := some ⟨m.attempts, m.reconnectElapsed now⟩ }
        (.gaveUp ⟨m.attempts, m.reconnectElapsed now⟩)
  | waiting {heartbeat : UInt64} {now : Instant} (hstate : m.state = .reconnecting)
      (hquiet : m.Quiet heartbeat)
      (hearly : now < m.nextAttempt) :
      Move m ⟨now, .observe heartbeat⟩ (m.noted heartbeat now) .steady
  | announced {heartbeat : UInt64} {now : Instant} (hstate : m.state = .reconnecting)
      (hquiet : m.Quiet heartbeat)
      (hwait : ∀ wait, m.isBounded = true → m.policy.wait = some wait →
        m.reconnectElapsed now < wait)
      (hlate : m.nextAttempt ≤ now) :
      Move m ⟨now, .observe heartbeat⟩
        { m.noted heartbeat now with
          attempts := nextCount m.attempts, nextAttempt := now + m.policy.retryInterval }
        (.reconnectDue (nextCount m.attempts))
  | silent {heartbeat : UInt64} {now : Instant} (hstate : m.state = .peerStale)
      (hquiet : m.Quiet heartbeat) :
      Move m ⟨now, .observe heartbeat⟩ (m.noted heartbeat now) .steady
  /-- A failure that nobody waits for, or one that leaves further attempts. -/
  | missed {now : Instant}
      (hleft : m.state = .reconnecting → m.isBounded = true →
        ∀ max, m.policy.maxAttempts = some max → m.attempts < max) :
      Move m ⟨now, .attemptFailed⟩ m .steady
  | spent {now : Instant} {max : UInt32} (hstate : m.state = .reconnecting)
      (hbounded : m.isBounded = true) (hmax : m.policy.maxAttempts = some max)
      (hspent : max ≤ m.attempts) :
      Move m ⟨now, .attemptFailed⟩
        { m with state := .peerStale, failure := some ⟨m.attempts, m.reconnectElapsed now⟩ }
        (.gaveUp ⟨m.attempts, m.reconnectElapsed now⟩)
  | late {heartbeat : UInt64} {now : Instant} (hfailure : m.failure.isSome = true) :
      Move m ⟨now, .reattached heartbeat⟩ m .steady
  | moved {heartbeat : UInt64} {now : Instant} (hopen : m.state ≠ .detached)
      (hfailure : m.failure = none) :
      Move m ⟨now, .reattached heartbeat⟩
        { m with lastHeartbeat := some heartbeat, lastChange := now, peerSeen := true }.recover
        .peerRecovered
  | detached {now : Instant} : Move m ⟨now, .detach⟩ m.detach .steady

theorem judge_of_attachedLive (now : Instant) (hstate : m.state = .attachedLive) :
    m.judge now =
      if now.since m.lastChange < m.policy.staleThreshold then (m, .steady)
      else if m.peerSeen && m.policy.behavior != .immediately then
        ({ m with
            state := .reconnecting, reconnectStarted := some now, nextAttempt := now,
            attempts := 0 },
          .peerStale (now.since m.lastChange))
      else ({ m with state := .peerStale }, .peerStale (now.since m.lastChange)) := by
  obtain ⟨policy, state⟩ := m
  subst hstate
  rfl

theorem judge_of_reconnecting (now : Instant) (hstate : m.state = .reconnecting) :
    m.judge now =
      match m.waitExhausted? now with
      | some failure => m.giveUp failure
      | none =>
        if now < m.nextAttempt then (m, .steady)
        else
          ({ m with
              attempts := nextCount m.attempts, nextAttempt := now + m.policy.retryInterval },
            .reconnectDue (nextCount m.attempts)) := by
  obtain ⟨policy, state⟩ := m
  subst hstate
  rfl

theorem judge_of_peerStale (now : Instant) (hstate : m.state = .peerStale) :
    m.judge now = (m, .steady) := by
  rw [judge, hstate]

/-- A sample while the peer counts as live. -/
theorem judge_move_of_attachedLive {heartbeat : UInt64} {now : Instant}
    (hstate : m.state = .attachedLive) :
    Move m ⟨now, .observe heartbeat⟩ ((m.noted heartbeat now).judge now).1
      ((m.noted heartbeat now).judge now).2 := by
  have hpolicy : (m.noted heartbeat now).policy = m.policy := rfl
  rw [judge_of_attachedLive now (show (m.noted heartbeat now).state = _ from hstate), hpolicy]
  by_cases hshort : now.since (m.noted heartbeat now).lastChange < m.policy.staleThreshold
  · rw [if_pos hshort]
    exact .fresh hstate hshort
  rw [if_neg hshort]
  have hlong := Nat.le_of_not_lt hshort
  rcases hseeks : (m.noted heartbeat now).peerSeen && m.policy.behavior != .immediately
  · rw [if_neg Bool.false_ne_true]
    refine .lost hstate hlong ?_
    rw [Bool.and_eq_false_iff, bne_eq_false_iff_eq] at hseeks
    exact hseeks
  · rw [if_pos rfl]
    rw [Bool.and_eq_true, bne_iff_ne] at hseeks
    exact .begun hstate hlong hseeks.1 hseeks.2

/-- A sample without recovery while a round of reconnection is under way. -/
theorem judge_move_of_reconnecting {heartbeat : UInt64} {now : Instant}
    (hstate : m.state = .reconnecting) (hquiet : m.Quiet heartbeat) :
    Move m ⟨now, .observe heartbeat⟩ ((m.noted heartbeat now).judge now).1
      ((m.noted heartbeat now).judge now).2 := by
  have hsame : (m.noted heartbeat now).waitExhausted? now = m.waitExhausted? now := rfl
  rw [judge_of_reconnecting now (show (m.noted heartbeat now).state = _ from hstate), hsame]
  rcases hwait : m.waitExhausted? now with _ | failure
  · dsimp only
    have hshort : ∀ wait, m.isBounded = true → m.policy.wait = some wait →
        m.reconnectElapsed now < wait := by
      intro wait hbounded hpolicy
      rw [waitExhausted?, hpolicy] at hwait
      simpa [hbounded] using hwait
    by_cases hearly : now < m.nextAttempt
    · rw [if_pos (show now < (m.noted heartbeat now).nextAttempt from hearly)]
      exact .waiting hstate hquiet hearly
    · rw [if_neg (show ¬ now < (m.noted heartbeat now).nextAttempt from hearly)]
      exact .announced hstate hquiet hshort (Nat.le_of_not_lt hearly)
  · dsimp only
    rcases hpolicy : m.policy.wait with _ | wait
    · rw [waitExhausted?, hpolicy] at hwait
      exact absurd hwait (by simp)
    · rw [waitExhausted?, hpolicy] at hwait
      obtain ⟨⟨hbounded, hlong⟩, rfl⟩ := by simpa using hwait
      exact .exhausted hstate hquiet hbounded hpolicy hlong

theorem observe_move (m : Monitor) (heartbeat : UInt64) (now : Instant) :
    Move m ⟨now, .observe heartbeat⟩ (m.observe heartbeat now).1 (m.observe heartbeat now).2 := by
  rw [observe_eq]
  by_cases hopen : m.state = .detached
  · rw [if_pos hopen]
    exact .closed hopen
  rw [if_neg hopen]
  by_cases hback : m.moves heartbeat ∧ m.state ≠ .attachedLive ∧ m.failure = none
  · rw [if_pos hback]
    exact .recovered hback.1 hopen hback.2.1 hback.2.2
  rw [if_neg hback]
  have hquiet (hstate : m.state ≠ .attachedLive) : m.Quiet heartbeat := by
    by_cases hmoves : m.moves heartbeat = true
    · refine .inr (Option.isSome_iff_ne_none.mpr ?_)
      exact fun hfailure => hback ⟨hmoves, hstate, hfailure⟩
    · exact .inl (Bool.eq_false_iff.mpr hmoves)
  cases hstate : m.state with
  | attachedLive => exact judge_move_of_attachedLive hstate
  | reconnecting => exact judge_move_of_reconnecting hstate (hquiet (by simp [hstate]))
  | peerStale =>
    rw [judge_of_peerStale now (show (m.noted heartbeat now).state = _ from hstate)]
    exact .silent hstate (hquiet (by simp [hstate]))
  | detached => exact absurd hstate hopen

theorem attemptFailed_move (m : Monitor) (now : Instant) :
    Move m ⟨now, .attemptFailed⟩ (m.attemptFailed now).1 (m.attemptFailed now).2 := by
  rw [attemptFailed]
  by_cases hstate : m.state = .reconnecting
  · rw [if_neg (by simp [hstate])]
    rcases hmax : m.policy.maxAttempts with _ | max
    · refine .missed fun _ _ max h => ?_
      rw [hmax] at h
      cases h
    · dsimp only
      by_cases hspent : m.isBounded ∧ max ≤ m.attempts
      · rw [if_pos hspent]
        exact .spent hstate hspent.1 hmax hspent.2
      · rw [if_neg hspent]
        refine .missed fun _ hbounded max' h => ?_
        obtain rfl : max = max' := Option.some.inj (hmax.symm.trans h)
        exact UInt32.not_le.mp fun hle => hspent ⟨hbounded, hle⟩
  · rw [if_pos (by simpa using hstate)]
    exact .missed fun h => absurd h hstate

theorem reattached_move (m : Monitor) (heartbeat : UInt64) (now : Instant) :
    Move m ⟨now, .reattached heartbeat⟩ (m.reattached heartbeat now).1
      (m.reattached heartbeat now).2 := by
  rw [reattached]
  by_cases hopen : m.state = .detached
  · rw [if_pos (.inl hopen)]
    exact .closed hopen
  by_cases hfailure : m.failure.isSome
  · rw [if_pos (.inr hfailure)]
    exact .late hfailure
  · rw [if_neg (not_or_intro hopen hfailure)]
    exact .moved hopen (Option.not_isSome_iff_eq_none.mp hfailure)

/-- Whatever is asked of a monitor, it makes one of the moves. -/
theorem perform_move (m : Monitor) (call : Call) :
    Move m call (m.perform call).1 (m.perform call).2 := by
  obtain ⟨now, request⟩ := call
  cases request with
  | observe heartbeat => exact observe_move m heartbeat now
  | attemptFailed => exact attemptFailed_move m now
  | reattached heartbeat => exact reattached_move m heartbeat now
  | detach => exact .detached

/-! ## Runs -/

/-- What one move keeps, and what it says of the event, holds of a whole run. -/
theorem run_induction {P : Monitor → Prop} {Q : LivenessEvent → Prop}
    (hstep : ∀ {m call m' e}, P m → Move m call m' e → P m' ∧ Q e) (h : P m) (calls : List Call) :
    P (m.after calls) ∧ ∀ entry ∈ m.log calls, Q entry.event := by
  induction calls generalizing m with
  | nil => exact ⟨h, fun _ hentry => absurd hentry List.not_mem_nil⟩
  | cons call calls ih =>
    obtain ⟨hkept, hevent⟩ := hstep h (m.perform_move call)
    refine ⟨(ih hkept).1, fun entry hentry => ?_⟩
    rcases List.mem_cons.mp hentry with rfl | hlater
    · exact hevent
    · exact (ih hkept).2 entry hlater

theorem Move.policy_eq (h : Move m call m' e) : m'.policy = m.policy := by
  cases h <;> rfl

theorem policy_after (m : Monitor) (calls : List Call) : (m.after calls).policy = m.policy :=
  (run_induction (P := (·.policy = m.policy)) (Q := fun _ => True)
    (fun h hmove => ⟨hmove.policy_eq.trans h, trivial⟩) rfl calls).1

end PeerLink.Monitor
