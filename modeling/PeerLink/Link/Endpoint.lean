import PeerLink.Link.Liveness
import PeerLink.Link.Stats
import PeerLink.Message.Decode
import PeerLink.Message.Encode

/-! # Endpoints

One side of a link between two peers. An endpoint has a region mapped, holds one side of it, and
judges its peer by the peer's heartbeat. All operations act on the regions of the host and say what
the endpoint has become.

* `Endpoint.open`: takes a side of the region of a name.
* `Endpoint.tick`: one own heartbeat and one look at the peer's; a slave whose peer is gone looks
  for a region made anew under the name and moves over to it.
* `Endpoint.write`, `Endpoint.poll`: data, and `Endpoint.ensureUsable`, which may refuse it.
* `Endpoint.close`: gives the side up, and removes the region if nobody needs it.
-/

namespace PeerLink

/-- One side of a link. -/
structure Endpoint where
  config : EndpointConfig
  /-- The side that was taken. -/
  role : Role
  /-- The object that is mapped. -/
  region : ObjectId
  monitor : Monitor
  closed : Bool
  /-- The heartbeats of the last snapshot. -/
  baseline : Option HeartbeatBaseline
  deriving DecidableEq

/-- The silence by which both sides of a region judge each other: the one its creator recorded. A
recorded zero says nothing. -/
def Header.agreedThreshold (c : EndpointConfig) (h : Header) : Duration :=
  if h.staleThresholdMs = 0 then c.staleThreshold else .ofMillis h.staleThresholdMs.toNat

namespace Endpoint

/-! ## Opening -/

/-- Takes a side of a mapped region. The first beat comes before the first look at the peer. -/
def enter (p : Process) (now : Instant) (c : EndpointConfig) (region : ObjectId) (r : Regions) :
    Except LinkError Endpoint × Regions :=
  match r.onHeader region (·.claim p c.role c.lockTimeout) with
  | (.error e, r) => (.error e, r)
  | (.ok role, r) =>
    let r := r.mapHeader region (·.beat role)
    let header := (r.layout region).header
    let policy := ReconnectPolicy.ofConfig c role (header.agreedThreshold c)
    let peerPresent := (header.slot role.peer).isLive p
    (.ok ⟨c, role, region, Monitor.start policy peerPresent now, false, none⟩, r)

/-- Opens an endpoint, but for its worker. If no clock can show the end of its limit for locks there
is no answer: the call breaks off before it looks for the region. -/
def board (k : Kernel) (p : Process) (now : Instant) (c : EndpointConfig) (r : Regions) :
    Option (Except LinkError Endpoint) × Regions :=
  match c.validate with
  | .error e => (some (.error e), r)
  | .ok () =>
    match now.after? c.lockTimeout with
    | none => (none, r)
    | some _ =>
      match r.acquire k p c with
      | (.error e, r) => (some (.error e), r)
      | (.ok handle, r) =>
        let (result, r) := enter p now c handle.object r
        (some result, r)

/-- Starts the worker of an endpoint that is to have one. If the system has no thread for it the side
is given up again, and that is all: a region that was made for this endpoint stays under its name,
cleaning up or not. -/
def staff (k : Kernel) (p : Process) (e : Endpoint) (r : Regions) :
    Except LinkError Endpoint × Regions :=
  match if e.config.background then k.spawning else none with
  | none => (.ok e, r)
  | some errno =>
    let (_, r) := r.onHeader e.region (·.release p e.role e.config.lockTimeout)
    (.error (.io (.system errno)), r)

def «open» (k : Kernel) (p : Process) (now : Instant) (c : EndpointConfig) (r : Regions) :
    Option (Except LinkError Endpoint) × Regions :=
  match board k p now c r with
  | (some (.ok e), r) =>
    let (result, r) := e.staff k p r
    (some result, r)
  | unopened => unopened

/-! ## Looking at an endpoint -/

def linkState (e : Endpoint) : LinkState := e.monitor.state

/-- Whether the peer's heartbeat moves. -/
def isRemoteAlive (e : Endpoint) : Bool := !e.closed && e.monitor.isPeerAlive

def summary (e : Endpoint) : String :=
  "Endpoint \x7b name: " ++ Quoted.quote e.config.name ++ ", role: " ++ e.role.title
    ++ ", state: " ++ e.linkState.title ++ " \x7d"

/-- Refuses data operations after a close, after reconnection has failed, and, if the endpoint is to
fail fast, while the peer is stale. -/
def ensureUsable (e : Endpoint) : Except LinkError Unit :=
  if e.closed then .error .notInitialized
  else
    match e.monitor.failure with
    | some failure => .error (.reconnectFailed failure.attempts failure.elapsed)
    | none =>
      if e.monitor.policy.behavior = .immediately ∧ e.monitor.peerLost then
        .error (.peerStale e.role.peer)
      else .ok ()

/-! ## Reconnecting -/

/-- A slave's attempt to move to another region under its name. It moves if that region has a live
master and no live slave; the answer is then the region and its master's heartbeat. -/
def tryReattach (p : Process) (e : Endpoint) (r : Regions) :
    Except LinkError (Option (ObjectId × UInt64)) × Regions :=
  match r.identify e.config.name with
  | .error err => (.error (.region err), r)
  | .ok none => (.ok none, r)
  | .ok (some current) =>
    if current = e.region then (.ok none, r)
    else
      match r.attachLayout e.config.name with
      | .error err => (.error err, r)
      | .ok handle =>
        let fresh := handle.object
        if !(r.layout fresh).header.master.isLive p then (.ok none, r)
        else
          match r.onHeader fresh (·.claim p .slave e.config.lockTimeout) with
          | (.error err, r) => (.error err, r)
          | (.ok _, r) =>
            let r := r.mapHeader fresh (·.beat .slave)
            let heartbeat := (r.layout fresh).header.master.heartbeat
            let (_, r) := r.onHeader e.region (·.release p .slave e.config.lockTimeout)
            (.ok (some (fresh, heartbeat)), r)

/-- An attempt to reconnect. A master waits in place for its slave; a slave also looks for a new
region. -/
def reconnect (p : Process) (now : Instant) (e : Endpoint) (r : Regions) : Endpoint × Regions :=
  match if e.role = .slave then e.tryReattach p r else (.ok none, r) with
  | (.ok (some (region, heartbeat)), r) =>
    ({ e with region, monitor := (e.monitor.reattached heartbeat now).1 }, r)
  | (_, r) => ({ e with monitor := (e.monitor.attemptFailed now).1 }, r)

/-! ## Ticks -/

def peerHeartbeat (e : Endpoint) (r : Regions) : UInt64 :=
  ((r.layout e.region).header.slot e.role.peer).heartbeat

def beat (e : Endpoint) (r : Regions) : Regions := r.mapHeader e.region (·.beat e.role)

/-- One look at the peer's heartbeat. -/
def check (p : Process) (now : Instant) (e : Endpoint) (r : Regions) : Endpoint × Regions :=
  let (monitor, event) := e.monitor.observe (e.peerHeartbeat r) now
  let e := { e with monitor }
  match event with
  | .reconnectDue _ => e.reconnect p now r
  | _ => (e, r)

/-- Whether a look at the peer's heartbeat would put the next attempt later than clocks go. -/
def overruns (now : Instant) (e : Endpoint) (r : Regions) : Bool :=
  match (e.monitor.observe (e.peerHeartbeat r) now).2 with
  | .reconnectDue _ => (now.after? e.monitor.policy.retryInterval).isNone
  | _ => false

/-- One heartbeat and one look at the peer's. -/
def tick (p : Process) (now : Instant) (e : Endpoint) (r : Regions) : Endpoint × Regions :=
  if e.closed then (e, r) else e.check p now (e.beat r)

/-! ## Data -/

def onChannel {α : Type} (e : Endpoint) (d : Direction) (act : Channel → α × Channel)
    (r : Regions) : α × Regions :=
  r.onLayout e.region (·.onChannel d act)

/-- Sends a message, replacing one that the peer has not read. -/
def write (p : Process) (payload : Bytes) (e : Endpoint) (r : Regions) :
    Except LinkError Unit × Regions :=
  match e.ensureUsable with
  | .error err => (.error err, r)
  | .ok () => e.onChannel e.role.outgoing (·.write p e.config.lockTimeout payload) r

def writeItems (p : Process) (items : List Item) (e : Endpoint) (r : Regions) :
    Except LinkError Unit × Regions :=
  match Message.encode items with
  | .error err => (.error (.codec err), r)
  | .ok payload => e.write p payload r

/-- One round of a read: the endpoint must be usable; without a worker it ticks once; then one
attempt is made. Without a message there is no answer yet. -/
def poll {α : Type} (p : Process) (now : Instant)
    (attempt : Channel → Except LinkError α × Channel) (e : Endpoint) (r : Regions) :
    Option (Except LinkError α) × Endpoint × Regions :=
  match e.ensureUsable with
  | .error err => (some (.error err), e, r)
  | .ok () =>
    let (e, r) := if e.config.background then (e, r) else e.tick p now r
    match e.onChannel e.role.incoming attempt r with
    | (.error .noData, r) => (none, e, r)
    | (result, r) => (some result, e, r)

/-- A snapshot of the region; heartbeats are compared with the snapshot before. -/
def stats (p : Process) (e : Endpoint) (r : Regions) : Except LinkError RegionStats × Endpoint :=
  if e.closed then (.error .notInitialized, e)
  else
    let s := RegionStats.capture p e.config.name (r.layout e.region) e.baseline
    (.ok s, { e with baseline := some s.baseline })

/-! ## Closing -/

/-- Gives the side up. If the endpoint cleans up and no live peer remains, the name is removed,
provided that it still stands for this region. -/
def leave (p : Process) (e : Endpoint) (r : Regions) : Except LinkError Unit × Regions :=
  match r.onHeader e.region (·.release p e.role e.config.lockTimeout) with
  | (.error err, r) => (.error err, r)
  | (.ok peerLive, r) =>
    if !e.config.autoCleanup || peerLive then (.ok (), r)
    else
      match r.identify e.config.name with
      | .error err => (.error (.region err), r)
      | .ok current =>
        if current = some e.region then
          match r.unlink e.config.name with
          | (.ok _, r) => (.ok (), r)
          | (.error err, r) => (.error (.region err), r)
        else (.ok (), r)

/-- Closes the endpoint, whether or not its side can be given up. Closing it again does nothing. -/
def close (p : Process) (e : Endpoint) (r : Regions) :
    Except LinkError Unit × Endpoint × Regions :=
  if e.closed then (.ok (), e, r)
  else
    let (result, r) := e.leave p r
    (result, { e with closed := true, monitor := e.monitor.detach }, r)

end Endpoint

end PeerLink
