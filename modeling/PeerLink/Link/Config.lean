import PeerLink.Link.Error
import PeerLink.Region.Name

/-! # Endpoint settings

* `EndpointConfig`: everything an endpoint is told when it is opened, with defaults.
* `EndpointConfig.fault?`: the first setting that no endpoint could honor.
* `EndpointConfig.validate`: the same as an error.
-/

namespace PeerLink

structure EndpointConfig where
  /-- The name of the region that the two peers share. -/
  name : String
  role : Role := .auto
  behavior : DisconnectBehavior := .onTimeout
  staleThreshold : Duration := .ofMillis 100
  /-- How long reconnection may take in all; unlimited if absent. -/
  reconnectWait : Option Duration := some (.ofMillis 5000)
  retryInterval : Duration := .ofMillis 100
  /-- How many attempts reconnection may take; unlimited if absent. -/
  maxAttempts : Option UInt32 := some 50
  /-- Whether closing removes the region when no live peer remains. -/
  autoCleanup : Bool := true
  /-- Whether a worker beats and watches the peer; otherwise the caller does both. -/
  background : Bool := true
  heartbeatInterval : Duration := .ofMillis 1
  checkInterval : Duration := .ofMillis 10
  lockTimeout : Duration := .ofSeconds 1
  deriving DecidableEq, Repr

namespace EndpointConfig

inductive Fault where
  | name (e : RegionError)
  | zero (setting : String)
  /-- The own heartbeat is not faster than the silence that makes a peer stale. -/
  | slowHeartbeat (heartbeat threshold : Duration)
  /-- A limit is zero, which is not how an unlimited setting is written. -/
  | zeroLimit (setting : String)
  deriving DecidableEq, Repr

def Fault.message : Fault → String
  | .name e => s!"name: {e.message}"
  | .zero setting => s!"{setting} must be greater than zero"
  | .slowHeartbeat heartbeat threshold =>
    s!"heartbeat_interval ({heartbeat.text}) must be shorter than "
      ++ s!"stale_threshold ({threshold.text})"
  | .zeroLimit setting => s!"{setting} must be greater than zero (use None for unlimited)"

/-- The durations that must not be zero, in the order in which they are checked. -/
def required (c : EndpointConfig) : List (String × Duration) :=
  [("stale_threshold", c.staleThreshold), ("reconnect_retry_interval", c.retryInterval),
    ("heartbeat_interval", c.heartbeatInterval), ("check_interval", c.checkInterval),
    ("lock_timeout", c.lockTimeout)]

/-- The first setting that no endpoint could honor. -/
def fault? (c : EndpointConfig) : Option Fault :=
  match RegionName.object c.name with
  | .error e => some (.name e)
  | .ok _ =>
    match c.required.find? (·.2 == 0) with
    | some (setting, _) => some (.zero setting)
    | none =>
      if c.staleThreshold ≤ c.heartbeatInterval then
        some (.slowHeartbeat c.heartbeatInterval c.staleThreshold)
      else if c.reconnectWait == some 0 then some (.zeroLimit "reconnect_wait")
      else if c.maxAttempts == some 0 then some (.zeroLimit "max_reconnect_attempts")
      else none

/-- Refuses settings that no endpoint could honor. -/
def validate (c : EndpointConfig) : Except LinkError Unit :=
  match c.fault? with
  | some fault => .error (.invalidConfig fault.message)
  | none => .ok ()

end EndpointConfig

end PeerLink
