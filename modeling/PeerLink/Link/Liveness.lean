import PeerLink.Link.Config

/-! # Liveness

A monitor judges the peer by samples of its heartbeat counter. It is told the samples and the time
and answers with what has happened; it touches nothing else.

* `LinkState`: how the link stands.
* `ReconnectPolicy`: the settings of reconnection, resolved for one side.
* `Monitor`: the judgement so far.
* `Monitor.observe`: a sample of the peer's heartbeat.
* `Monitor.attemptFailed`, `Monitor.reattached`, `Monitor.detach`: what became of an attempt to
  reconnect, and the end.
-/

namespace PeerLink

inductive LinkState where
  /-- The peer's heartbeat moves, or has been still for less than the threshold. -/
  | attachedLive
  /-- The peer is silent and nothing is done about it. -/
  | peerStale
  /-- The peer is silent and attempts to reconnect are under way. -/
  | reconnecting
  | detached
  deriving DecidableEq, Repr

def LinkState.name : LinkState → String
  | .attachedLive => "attached_live"
  | .peerStale => "peer_stale"
  | .reconnecting => "reconnecting"
  | .detached => "detached"

/-- The name of a link state in the summary of an endpoint. -/
def LinkState.title : LinkState → String
  | .attachedLive => "AttachedLive"
  | .peerStale => "PeerStale"
  | .reconnecting => "Reconnecting"
  | .detached => "Detached"

def LinkState.all : List LinkState := [.attachedLive, .peerStale, .reconnecting, .detached]

def LinkState.ofName? (s : String) : Option LinkState := LinkState.all.find? (·.name == s)

def LinkState.ofTitle? (s : String) : Option LinkState := LinkState.all.find? (·.title == s)

/-- The end of a reconnection that exhausted its bound. -/
structure ReconnectFailure where
  attempts : UInt32
  /-- The time since the peer became stale. -/
  elapsed : Duration
  deriving DecidableEq, Repr

/-- What an operation on a monitor brought about. -/
inductive LivenessEvent where
  | steady
  | peerStale (silentFor : Duration)
  | peerRecovered
  /-- It is time for an attempt of this number, counted from one. -/
  | reconnectDue (attempt : UInt32)
  | gaveUp (failure : ReconnectFailure)
  deriving DecidableEq, Repr

/-- The settings of reconnection for one side. -/
structure ReconnectPolicy where
  behavior : DisconnectBehavior
  staleThreshold : Duration
  wait : Option Duration
  retryInterval : Duration
  maxAttempts : Option UInt32
  /-- Whether the bounds end in a failure. Only a slave gives up; a master keeps serving until a
  slave returns. -/
  givesUp : Bool
  deriving DecidableEq, Repr

/-- The policy of an endpoint that took `role` on a region whose peers agree on a threshold. -/
def ReconnectPolicy.ofConfig (c : EndpointConfig) (role : Role) (staleThreshold : Duration) :
    ReconnectPolicy :=
  { behavior := c.behavior
    staleThreshold
    wait := c.reconnectWait
    retryInterval := c.retryInterval
    maxAttempts := c.maxAttempts
    givesUp := role == .slave }

/-- The judgement on a peer so far. -/
structure Monitor where
  policy : ReconnectPolicy
  state : LinkState
  lastHeartbeat : Option UInt64
  /-- When a sample last differed from the one before. -/
  lastChange : Instant
  /-- Whether the peer has ever been there. -/
  peerSeen : Bool
  reconnectStarted : Option Instant
  nextAttempt : Instant
  attempts : UInt32
  /-- The failure that ended reconnection, never cleared. -/
  failure : Option ReconnectFailure
  deriving DecidableEq, Repr

namespace Monitor

/-- A monitor that has seen no sample. A peer that is already there at the start counts as seen. -/
def start (policy : ReconnectPolicy) (peerPresent : Bool) (now : Instant) : Monitor :=
  { policy
    state := .attachedLive
    lastHeartbeat := none
    lastChange := now
    peerSeen := peerPresent
    reconnectStarted := none
    nextAttempt := now
    attempts := 0
    failure := none }

/-! ## Judgements -/

def isPeerAlive (m : Monitor) : Bool :=
  m.state == .attachedLive && m.peerSeen

/-- Whether the peer was there and is now stale. -/
def peerLost (m : Monitor) : Bool :=
  m.peerSeen && m.state == .peerStale

def isBounded (m : Monitor) : Bool :=
  m.policy.givesUp && m.policy.behavior == .onTimeout

/-- The time that the current round has taken. -/
def reconnectElapsed (m : Monitor) (now : Instant) : Duration :=
  match m.reconnectStarted with
  | some start => now.since start
  | none => 0

/-- The failure that is due because the round has taken too long. -/
def waitExhausted? (m : Monitor) (now : Instant) : Option ReconnectFailure :=
  match m.policy.wait with
  | some wait =>
    if m.isBounded ∧ wait ≤ m.reconnectElapsed now then
      some ⟨m.attempts, m.reconnectElapsed now⟩
    else none
  | none => none

/-- The number after this one, held at the largest. -/
def nextCount (n : UInt32) : UInt32 :=
  if n = 0xffffffff then n else n + 1

/-! ## Transitions -/

/-- The link is live again. -/
def recover (m : Monitor) : Monitor :=
  { m with state := .attachedLive, reconnectStarted := none, attempts := 0 }

def giveUp (m : Monitor) (f : ReconnectFailure) : Monitor × LivenessEvent :=
  ({ m with state := .peerStale, failure := some f }, .gaveUp f)

/-- What a sample that brings no recovery means at a point in time. The next attempt may come to lie
later than clocks go; whoever acts on the sample breaks off then (`Endpoint.overruns`). -/
def judge (m : Monitor) (now : Instant) : Monitor × LivenessEvent :=
  match m.state with
  | .attachedLive =>
    let silentFor := now.since m.lastChange
    if silentFor < m.policy.staleThreshold then (m, .steady)
    else if m.peerSeen && m.policy.behavior != .immediately then
      ({ m with
          state := .reconnecting, reconnectStarted := some now, nextAttempt := now, attempts := 0 },
        .peerStale silentFor)
    else ({ m with state := .peerStale }, .peerStale silentFor)
  | .reconnecting =>
    match m.waitExhausted? now with
    | some failure => m.giveUp failure
    | none =>
      if now < m.nextAttempt then (m, .steady)
      else
        let attempts := nextCount m.attempts
        ({ m with attempts, nextAttempt := now + m.policy.retryInterval }, .reconnectDue attempts)
  | .peerStale => (m, .steady)
  | .detached => (m, .steady)

/-- Takes in one sample of the peer's heartbeat. -/
def observe (m : Monitor) (heartbeat : UInt64) (now : Instant) : Monitor × LivenessEvent :=
  if m.state = .detached then (m, .steady)
  else
    let moved := match m.lastHeartbeat with
      | some previous => previous != heartbeat
      | none => false
    let m := { m with lastHeartbeat := some heartbeat }
    if moved then
      let m := { m with lastChange := now, peerSeen := true }
      if m.state != .attachedLive && m.failure.isNone then (m.recover, .peerRecovered)
      else m.judge now
    else m.judge now

def attemptFailed (m : Monitor) (now : Instant) : Monitor × LivenessEvent :=
  if m.state != .reconnecting then (m, .steady)
  else
    match m.policy.maxAttempts with
    | some max =>
      if m.isBounded ∧ max ≤ m.attempts then m.giveUp ⟨m.attempts, m.reconnectElapsed now⟩
      else (m, .steady)
    | none => (m, .steady)

/-- The endpoint has moved to another region, whose peer's heartbeat stands at `heartbeat`. -/
def reattached (m : Monitor) (heartbeat : UInt64) (now : Instant) : Monitor × LivenessEvent :=
  if m.state = .detached ∨ m.failure.isSome then (m, .steady)
  else
    ({ m with lastHeartbeat := some heartbeat, lastChange := now, peerSeen := true }.recover,
      .peerRecovered)

def detach (m : Monitor) : Monitor := { m with state := .detached }

end Monitor

end PeerLink
