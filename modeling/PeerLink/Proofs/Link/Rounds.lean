import PeerLink.Proofs.Link.Finality

/-! # Rounds of reconnection

From the moment a peer is reported stale until it is back or given up, a slave announces attempts.
What the log of a run tells of this round is all that the bounds on it speak of.

* `Monitor.Round`, `Monitor.roundOf`: the round under way, read off a log.
* `Monitor.Answered`: until the link is closed, every attempt is answered at once and nothing else
  is.
* `Monitor.Follows`: the fields of a monitor agree with the round under way.

Main statement: `Monitor.reconnection_bounded`.
-/

namespace PeerLink.Monitor
set_option autoImplicit false

/-! ## Rounds in a log -/

/-- A round: when the peer was reported stale, and when attempts were announced since. -/
structure Round where
  began : Instant
  announced : List Instant
  deriving DecidableEq

/-- The round under way after an entry, given the one before it. -/
def Round.next (round : Option Round) (entry : Entry) : Option Round :=
  match entry.event with
  | .steady => round
  | .peerStale _ => some ⟨entry.call.now, []⟩
  | .reconnectDue _ => round.map fun r => { r with announced := r.announced ++ [entry.call.now] }
  | .peerRecovered | .gaveUp _ => none

/-- The round under way at the end of a log. -/
def roundOf (log : List Entry) : Option Round := log.foldl Round.next none

/-- The attempt that an entry announces. -/
def Entry.attempt? (entry : Entry) : Option UInt32 :=
  match entry.event with
  | .reconnectDue attempt => some attempt
  | .steady | .peerStale _ | .peerRecovered | .gaveUp _ => none

/-- The attempt that the last entry of a log announces. -/
def awaited (log : List Entry) : Option UInt32 := log.foldl (fun _ entry => entry.attempt?) none

/-- Whether a call says what became of an attempt. -/
def Call.answers (call : Call) : Bool :=
  match call.request with
  | .attemptFailed | .reattached _ => true
  | .observe _ | .detach => false

/-- Until the link is closed, each attempt that is announced is answered by the very next call, and
no other call answers. -/
def Answered : Option UInt32 → List Entry → Prop
  | _, [] => True
  | awaited, entry :: log =>
    entry.call.request = .detach ∨
      entry.call.answers = awaited.isSome ∧ Answered entry.attempt? log

/-- A call answers if an attempt is awaited, and only then; of a closed link nothing is asked. -/
def Fits (m : Monitor) (call : Call) (awaited : Option UInt32) : Prop :=
  m.state = .detached ∨ call.request = .detach ∨ call.answers = awaited.isSome

variable {m m' : Monitor} {call : Call} {e : LivenessEvent} {max : UInt32}
  {round : Option Round} {attempt : Option UInt32}

/-! ## One call -/

/-- The fields of a monitor are those of a round. -/
structure Round.Tracks (r : Round) (m : Monitor) : Prop where
  began : m.reconnectStarted = some r.began
  counted : m.attempts.toNat = r.announced.length
  spaced : ∀ t ∈ r.announced, t + m.policy.retryInterval ≤ m.nextAttempt

/-- What a monitor has in common with the log of its run: the round under way, and the attempt that
is not answered yet. Between attempts there is always one left. -/
structure Follows (m : Monitor) (max : UInt32) (round : Option Round) (attempt : Option UInt32) :
    Prop where
  tracked : m.state = .reconnecting → ∃ r, round = some r ∧ r.Tracks m
  left : m.state = .reconnecting → attempt = none → m.attempts < max
  awaiting : ∀ n, attempt = some n → m.state = .reconnecting ∧ n = m.attempts ∧ n ≤ max

theorem Fits.answers (h : m.Fits call attempt) (hstate : m.state = .reconnecting)
    (hopen : call.request ≠ .detach) : call.answers = attempt.isSome :=
  (h.resolve_left (by simp [hstate])).resolve_left hopen

/-- A sample is not an answer. -/
theorem Fits.eq_none {heartbeat : UInt64} {now : Instant}
    (h : m.Fits ⟨now, .observe heartbeat⟩ attempt) (hstate : m.state = .reconnecting) :
    attempt = none := by
  have hanswers := h.answers hstate (by simp)
  exact Option.not_isSome_iff_eq_none.mp (by rw [← hanswers]; exact Bool.false_ne_true)

theorem follows_start (policy : ReconnectPolicy) (present : Bool) (created : Instant) :
    (start policy present created).Follows max none none := by
  constructor <;> simp [start]

/-- Outside of a round there is nothing to follow. -/
theorem follows_of_not_reconnecting (hstate : m.state ≠ .reconnecting) :
    m.Follows max round none :=
  ⟨fun hs => absurd hs hstate, fun hs => absurd hs hstate, fun _ h => by cases h⟩

theorem toNat_nextCount_of_lt {n : UInt32} (h : n < max) : (nextCount n).toNat = n.toNat + 1 := by
  have hmax := max.toNat_lt
  rw [UInt32.lt_iff_toNat_lt] at h
  have hne : n ≠ 0xffffffff := by
    rintro rfl
    have htop : (0xffffffff : UInt32).toNat = 4294967295 := rfl
    omega
  have hone : (1 : UInt32).toNat = 1 := rfl
  rw [nextCount, if_neg hne, UInt32.toNat_add, hone]
  exact Nat.mod_eq_of_lt (by omega)

theorem Follows.step (h : m.Follows max round attempt) (hm : m.Consistent)
    (hmove : Move m call m' e) (hfits : m.Fits call attempt)
    (hbounded : m.isBounded = true) (hmax : m.policy.maxAttempts = some max) (hpos : 0 < max) :
    m'.Follows max (Round.next round ⟨call, e⟩) (Entry.attempt? ⟨call, e⟩) := by
  cases hmove with
  | closed hstate => exact follows_of_not_reconnecting (by simp [hstate])
  | fresh hstate | silent hstate => exact follows_of_not_reconnecting (by simp [noted, hstate])
  | recovered | moved => exact follows_of_not_reconnecting (by simp [recover])
  | lost | exhausted | spent => exact follows_of_not_reconnecting (by simp)
  | detached => exact follows_of_not_reconnecting (by simp [detach])
  | begun hstate =>
    exact ⟨fun _ => ⟨_, rfl, rfl, rfl, by simp⟩, fun _ _ => hpos, fun _ hn => by cases hn⟩
  | waiting hstate =>
    have hnone := hfits.eq_none hstate
    obtain ⟨r, hround, hr⟩ := h.tracked hstate
    exact ⟨fun _ => ⟨r, hround, hr.began, hr.counted, hr.spaced⟩, fun _ _ => h.left hstate hnone,
      fun _ hn => by cases hn⟩
  | @announced _ now hstate _ _ hlate =>
    have hnone := hfits.eq_none hstate
    have hcount := toNat_nextCount_of_lt (h.left hstate hnone)
    obtain ⟨r, hround, hr⟩ := h.tracked hstate
    refine ⟨fun _ => ⟨⟨r.began, r.announced ++ [now]⟩, by rw [hround]; rfl, hr.began, ?_, ?_⟩,
      fun _ hn => (by cases hn), ?_⟩
    · show (nextCount m.attempts).toNat = _
      rw [hcount, hr.counted, List.length_append, List.length_singleton]
    · intro t ht
      show t + m.policy.retryInterval ≤ now + m.policy.retryInterval
      rcases List.mem_append.mp ht with hearlier | hlast
      · exact Nat.le_trans (hr.spaced t hearlier) (Nat.le_trans hlate (Nat.le_add_right _ _))
      · exact Nat.le_of_eq (by rw [List.mem_singleton.mp hlast])
    · rintro n hn
      obtain rfl : nextCount m.attempts = n := Option.some.inj hn
      refine ⟨hstate, rfl, ?_⟩
      rw [UInt32.le_iff_toNat_le, hcount]
      exact UInt32.lt_iff_toNat_lt.mp (h.left hstate hnone)
  | missed hleft =>
    exact ⟨h.tracked, fun hstate _ => hleft hstate hbounded max hmax, fun _ hn => by cases hn⟩
  | late hfailure =>
    refine follows_of_not_reconnecting fun hstate => ?_
    rw [(hm.seeking hstate).2.2] at hfailure
    cases hfailure

theorem Round.Tracks.elapsed {r : Round} (hr : r.Tracks m) (now : Instant) :
    m.reconnectElapsed now = now.since r.began := by
  rw [reconnectElapsed, hr.began]

/-- An attempt that is announced is the next of its round, and not too early, too late or too many.
-/
theorem Follows.reconnectDue {n : UInt32} (h : m.Follows max round attempt)
    (hmove : Move m call m' (.reconnectDue n)) (hfits : m.Fits call attempt)
    (hbounded : m.isBounded = true) :
    ∃ r, round = some r ∧ n.toNat = r.announced.length + 1 ∧ n ≤ max ∧
      (∀ t ∈ r.announced, t + m.policy.retryInterval ≤ call.now) ∧
      ∀ wait, m.policy.wait = some wait → call.now.since r.began < wait := by
  cases hmove with
  | announced hstate _ hwait hlate =>
    have hnone := hfits.eq_none hstate
    have hleft := h.left hstate hnone
    have hcount := toNat_nextCount_of_lt hleft
    obtain ⟨r, hround, hr⟩ := h.tracked hstate
    refine ⟨r, hround, by rw [hcount, hr.counted], ?_, ?_, ?_⟩
    · rw [UInt32.le_iff_toNat_le, hcount]
      exact UInt32.lt_iff_toNat_lt.mp hleft
    · exact fun t ht => Nat.le_trans (hr.spaced t ht) hlate
    · intro wait hpolicy
      rw [← hr.elapsed]
      exact hwait wait hbounded hpolicy

/-- The failure of an attempt ends the round if it was the last one allowed. -/
theorem Follows.attemptFailed {n : UInt32} (h : m.Follows max round attempt)
    (hmove : Move m call m' e) (hrequest : call.request = .attemptFailed)
    (hn : attempt = some n) (hbounded : m.isBounded = true)
    (hmax : m.policy.maxAttempts = some max) :
    ∃ r, round = some r ∧ n.toNat = r.announced.length ∧ n ≤ max ∧
      e = if n = max then .gaveUp ⟨n, call.now.since r.began⟩ else .steady := by
  obtain ⟨hstate, rfl, hle⟩ := h.awaiting n hn
  obtain ⟨r, hround, hr⟩ := h.tracked hstate
  refine ⟨r, hround, hr.counted, hle, ?_⟩
  cases hmove with
  | closed hclosed => simp [hstate] at hclosed
  | missed hleft =>
    have hlt := hleft hstate hbounded max hmax
    rw [if_neg (UInt32.ne_of_lt hlt)]
  | spent _ _ hmax' hspent =>
    obtain rfl := Option.some.inj (hmax.symm.trans hmax')
    rw [if_pos (UInt32.le_antisymm hle hspent), hr.elapsed]
  | _ => cases hrequest

/-- Every failure tells how long the round was, and how many attempts were made in it. -/
theorem Follows.gaveUp {failure : ReconnectFailure} (h : m.Follows max round attempt)
    (hmove : Move m call m' (.gaveUp failure)) (hfits : m.Fits call attempt)
    (hmax : m.policy.maxAttempts = some max) :
    ∃ r, round = some r ∧ failure.elapsed = call.now.since r.began ∧
      (call.request = .attemptFailed ∧ failure.attempts = max ∨
        (∃ heartbeat wait, call.request = .observe heartbeat ∧ m.policy.wait = some wait ∧
          wait ≤ call.now.since r.began ∧ failure.attempts < max)) := by
  cases hmove with
  | exhausted hstate _ _ hwait hlong =>
    have hnone := hfits.eq_none hstate
    obtain ⟨r, hround, hr⟩ := h.tracked hstate
    rw [hr.elapsed] at hlong ⊢
    exact ⟨r, hround, rfl, .inr ⟨_, _, rfl, hwait, hlong, h.left hstate hnone⟩⟩
  | spent hstate _ hmax' hspent =>
    obtain rfl := Option.some.inj (hmax.symm.trans hmax')
    have hsome : attempt.isSome = true := (hfits.answers hstate (by simp)).symm
    obtain ⟨n, hn⟩ := Option.isSome_iff_exists.mp hsome
    obtain ⟨-, rfl, hle⟩ := h.awaiting n hn
    obtain ⟨r, hround, hr⟩ := h.tracked hstate
    exact ⟨r, hround, hr.elapsed _, .inl ⟨rfl, UInt32.le_antisymm hle hspent⟩⟩

/-! ## Runs -/

theorem Follows.after {calls : List Call} (h : m.Follows max round attempt) (hm : m.Consistent)
    (hbounded : m.isBounded = true) (hmax : m.policy.maxAttempts = some max) (hpos : 0 < max)
    (hanswered : m.state = .detached ∨ Answered attempt (m.log (calls ++ [call]))) :
    (m.after calls).Follows max ((m.log calls).foldl Round.next round)
        ((m.log calls).foldl (fun _ entry => entry.attempt?) attempt) ∧
      (m.after calls).Fits call ((m.log calls).foldl (fun _ entry => entry.attempt?) attempt) := by
  induction calls generalizing m round attempt with
  | nil =>
    rcases hanswered with hclosed | hcloses | hanswers
    · exact ⟨h, .inl hclosed⟩
    · exact ⟨h, .inr (.inl hcloses)⟩
    · exact ⟨h, .inr (.inr hanswers.1)⟩
  | cons first calls ih =>
    have hmove := m.perform_move first
    have hpolicy := hmove.policy_eq
    -- A link that is closed, or closes now, stays closed; an open one goes on as it is asked to.
    obtain ⟨hfits, hlater⟩ : m.Fits first attempt ∧
        ((m.perform first).1.state = .detached ∨
          Answered (Entry.attempt? ⟨first, (m.perform first).2⟩)
            ((m.perform first).1.log (calls ++ [call]))) := by
      rcases hanswered with hclosed | hcloses | ⟨hanswers, hlater⟩
      · exact ⟨.inl hclosed, .inl (hmove.of_detached hclosed).1⟩
      · have hrequest : first.request = .detach := hcloses
        refine ⟨.inr (.inl hrequest), .inl ?_⟩
        rw [perform, hrequest]
        rfl
      · exact ⟨.inr (.inr hanswers), .inr hlater⟩
    refine ih (h.step hm hmove hfits hbounded hmax hpos) (hm.step hmove) ?_ ?_ hlater
    · rw [isBounded, hpolicy]
      exact hbounded
    · rw [hpolicy]
      exact hmax

/-- Attempts of a slave that reconnects within a bound, each answered before anything else happens
unless the link is closed. In a round they are numbered from one without a gap up to the bound, keep
their distance, and cease when the round has lasted too long. The failure of the last one, and no
earlier one, ends the round; so does a sample that comes too late for a further attempt. Either way
the failure tells how long the round was. The clock may stand still or even go back; a time before
the round began counts as none spent in it. -/
theorem reconnection_bounded {policy : ReconnectPolicy} {present : Bool} {created : Instant}
    {max : UInt32} {calls : List Call} {call : Call} (hbehavior : policy.behavior = .onTimeout)
    (hgives : policy.givesUp = true) (hmax : policy.maxAttempts = some max) (hpos : 0 < max)
    (hanswered : Answered none ((start policy present created).log (calls ++ [call]))) :
    let log := (start policy present created).log calls
    let event := (((start policy present created).after calls).perform call).2
    (∀ n, event = .reconnectDue n → ∃ r, roundOf log = some r ∧
      n.toNat = r.announced.length + 1 ∧ n ≤ max ∧
      (∀ t ∈ r.announced, t + policy.retryInterval ≤ call.now) ∧
      ∀ wait, policy.wait = some wait → call.now.since r.began < wait) ∧
    (∀ n, awaited log = some n → call.request = .attemptFailed → ∃ r, roundOf log = some r ∧
      n.toNat = r.announced.length ∧ n ≤ max ∧
      event = if n = max then .gaveUp ⟨n, call.now.since r.began⟩ else .steady) ∧
    (∀ failure, event = .gaveUp failure → ∃ r, roundOf log = some r ∧
      failure.elapsed = call.now.since r.began ∧
      (call.request = .attemptFailed ∧ failure.attempts = max ∨
        (∃ heartbeat wait, call.request = .observe heartbeat ∧ policy.wait = some wait ∧
          wait ≤ call.now.since r.began ∧ failure.attempts < max))) := by
  intro log event
  have hbounded : ((start policy present created).after calls).isBounded = true := by
    rw [isBounded_iff, policy_after]
    exact ⟨hbehavior, hgives⟩
  have hstart := consistent_start policy present created
  obtain ⟨h, hfits⟩ := (follows_start policy present created).after hstart
    ((isBounded_iff _).mpr ⟨hbehavior, hgives⟩) hmax hpos (.inr hanswered)
  have hm := consistent_after _ hstart calls
  have hpolicy : ((start policy present created).after calls).policy = policy := policy_after _ _
  have hmove := ((start policy present created).after calls).perform_move call
  rw [← hpolicy] at hmax ⊢
  refine ⟨?_, fun n hn hrequest => h.attemptFailed hmove hrequest hn hbounded hmax, ?_⟩
  · rintro n hevent
    have hmove : Move _ call _ event := hmove
    rw [hevent] at hmove
    exact h.reconnectDue hmove hfits hbounded
  · rintro failure hevent
    have hmove : Move _ call _ event := hmove
    rw [hevent] at hmove
    exact h.gaveUp hmove hfits hmax

/-- Settings that allow two attempts. -/
def twoAttempts : ReconnectPolicy := ⟨.onTimeout, 100, some 1000, 10, some 2, true⟩

/-- A peer that falls silent, and two attempts of which the first has failed. -/
def silentRun : List Call :=
  [⟨0, .observe 1⟩, ⟨100, .observe 1⟩, ⟨100, .observe 1⟩, ⟨101, .attemptFailed⟩,
    ⟨105, .observe 1⟩, ⟨110, .observe 1⟩]

/-- The second failure ends the round of the silent peer. -/
theorem gaveUp_silentRun :
    twoAttempts.behavior = .onTimeout ∧ twoAttempts.givesUp = true ∧
      twoAttempts.maxAttempts = some 2 ∧ (0 : UInt32) < 2 ∧
      Answered none ((start twoAttempts true 0).log (silentRun ++ [⟨112, .attemptFailed⟩])) ∧
      roundOf ((start twoAttempts true 0).log silentRun) = some ⟨100, [100, 110]⟩ ∧
      (((start twoAttempts true 0).after silentRun).perform ⟨112, .attemptFailed⟩).2 =
        .gaveUp ⟨2, 12⟩ := by
  have hanswered :
      Answered none ((start twoAttempts true 0).log (silentRun ++ [⟨112, .attemptFailed⟩])) :=
    .inr ⟨rfl, .inr ⟨rfl, .inr ⟨rfl, .inr ⟨rfl, .inr ⟨rfl, .inr ⟨rfl, .inr ⟨rfl, trivial⟩⟩⟩⟩⟩⟩⟩
  have hround : roundOf ((start twoAttempts true 0).log silentRun) = some ⟨100, [100, 110]⟩ := by
    decide
  have hawaited : awaited ((start twoAttempts true 0).log silentRun) = some 2 := by decide
  have hmax : twoAttempts.maxAttempts = some 2 := rfl
  refine ⟨rfl, rfl, hmax, by decide, hanswered, hround, ?_⟩
  obtain ⟨r, hr, -, -, hevent⟩ :=
    (reconnection_bounded rfl rfl hmax (by decide) hanswered).2.1 2 hawaited rfl
  obtain rfl := Option.some.inj (hround.symm.trans hr)
  exact hevent

end PeerLink.Monitor
