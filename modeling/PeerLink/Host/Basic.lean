import PeerLink.Link.Endpoint
import PeerLink.Link.Wait

/-! # Hosts

A host is a clock, the regions, and the endpoints that processes have open on them. Time passes only
where somebody reads the clock or waits, and while it passes the workers of the endpoints do their
rounds in the order of time.

* `Worker`, `Member`: an endpoint with its process and, if it has one, its worker.
* `Host`: the state of everything.
* `Host.sleep`: time passes, and the workers work.
* `Host.readWith`, `Host.await`: waiting for a message, waiting for a condition.
-/

namespace PeerLink

/-- The schedule of an endpoint's worker. -/
structure Worker where
  /-- When it beats next. -/
  wake : Instant
  /-- From when on it looks at the peer. -/
  nextCheck : Instant
  deriving DecidableEq, Repr

structure Member where
  process : Process
  endpoint : Endpoint
  worker : Option Worker

structure Host where
  now : Instant
  regions : Regions
  /-- The endpoints under the names by which their users know them. -/
  members : List (String × Member)

namespace Host

def start : Host := ⟨0, .empty, []⟩

/-! ## Members -/

def member? (h : Host) (id : String) : Option Member :=
  (h.members.find? (·.1 == id)).map (·.2)

def setMember (id : String) (m : Member) (h : Host) : Host :=
  { h with members := h.members.map fun (i, old) => (i, if i == id then m else old) }

def addMember (id : String) (m : Member) (h : Host) : Host :=
  { h with members := h.members ++ [(id, m)] }

def removeMember (id : String) (h : Host) : Host :=
  { h with members := h.members.filter (·.1 != id) }

/-- Puts back what an operation has made of a member's endpoint and of the regions. -/
def store (id : String) (m : Member) (e : Endpoint) (r : Regions) (h : Host) : Host :=
  { h with regions := r }.setMember id { m with endpoint := e }

/-! ## Workers -/

/-- The least time for which a worker sleeps, however short its period. -/
def leastPause : Duration := 50000

/-- The time from one round of a worker to the next. -/
def Worker.period (c : EndpointConfig) : Duration := max c.heartbeatInterval leastPause

/-- One round of a worker: a beat and, if one is due, a look at the peer. A worker that cannot tell
when its next attempt is due breaks off, and the endpoint stays as it is. -/
def workerRound (id : String) (m : Member) (w : Worker) (h : Host) : Host :=
  let r := m.endpoint.beat h.regions
  let due := w.nextCheck ≤ w.wake
  if due ∧ m.endpoint.overruns w.wake r then
    { h with now := max h.now w.wake, regions := r }.setMember id { m with worker := none }
  else
    let (e, r) := if due then m.endpoint.check m.process w.wake r else (m.endpoint, r)
    let w' : Worker :=
      { wake := w.wake + Worker.period e.config
        nextCheck := if due then w.wake + e.config.checkInterval else w.nextCheck }
    { h with now := max h.now w.wake, regions := r }.setMember id
      { m with endpoint := e, worker := some w' }

/-- The member whose worker is the first to wake. -/
def firstAwake (h : Host) : Option (String × Member × Worker) :=
  h.members.foldl
    (fun best (id, m) =>
      match m.worker, best with
      | none, _ => best
      | some w, none => some (id, m, w)
      | some w, some (_, _, b) => if w.wake < b.wake then some (id, m, w) else best)
    none

/-- The rounds of workers up to a point in time, at most `rounds` of them. -/
def workUntil (target : Instant) : Nat → Host → Host
  | 0, h => h
  | rounds + 1, h =>
    match h.firstAwake with
    | some (id, m, w) =>
      if w.wake ≤ target then workUntil target rounds (h.workerRound id m w) else h
    | none => h

/-- How many rounds the workers can do up to a point in time. -/
def roundsUntil (target : Instant) (h : Host) : Nat :=
  h.members.foldl
    (fun rounds (_, m) =>
      match m.worker with
      | some w => rounds + ((target - w.wake) / leastPause + 1)
      | none => rounds)
    0

/-! ## Time -/

def sleep (d : Duration) (h : Host) : Host :=
  let target := h.now + d
  let h := h.workUntil target (h.roundsUntil target)
  { h with now := target }

/-- The time that passes from one reading of the clock to the next. -/
def tickOfClock : Duration := 1000

/-- Reads the clock; every reading is later than the one before. -/
def readClock (h : Host) : Instant × Host :=
  let h := h.sleep tickOfClock
  (h.now, h)

/-! ## Endpoints -/

/-- Ticks a member once. Its worker may have been at work just before. -/
def tick (id : String) (h : Host) : Host :=
  let (now, h) := h.readClock
  match h.member? id with
  | some m =>
    let (e, r) := m.endpoint.tick m.process now h.regions
    h.store id m e r
  | none => h

def ticks (id : String) : Nat → Host → Host
  | 0, h => h
  | n + 1, h => ticks id n (h.tick id)

def write (payload : Bytes) (m : Member) (h : Host) : Except LinkError Unit × Host :=
  let (result, r) := m.endpoint.write m.process payload h.regions
  (result, { h with regions := r })

def writeItems (items : List Item) (m : Member) (h : Host) : Except LinkError Unit × Host :=
  let (result, r) := m.endpoint.writeItems m.process items h.regions
  (result, { h with regions := r })

def poll {α : Type} (id : String) (attempt : Channel → Except LinkError α × Channel) (h : Host) :
    Option (Except LinkError α) × Host :=
  match h.member? id with
  | none => (some (.error .notInitialized), h)
  | some m =>
    let (now, h) := if m.endpoint.config.background then (h.now, h) else h.readClock
    let (result, e, r) := m.endpoint.poll m.process now attempt h.regions
    (result, h.store id m e r)

/-- A read of a member's mailbox, waiting at most so long. -/
def readWith {α : Type} (id : String) (attempt : Channel → Except LinkError α × Channel)
    (timeout : Duration) (h : Host) : Option (Except LinkError α) × Host :=
  Surroundings.read ⟨poll id attempt, readClock, sleep⟩ timeout h

/-- Closes a member's endpoint and ends its worker. -/
def close (id : String) (m : Member) (h : Host) : Except LinkError Unit × Host :=
  let (result, e, r) := m.endpoint.close m.process h.regions
  (result, { h with regions := r }.setMember id { m with endpoint := e, worker := none })

/-- Closes a member's endpoint if it is open, and forgets the member. -/
def drop (id : String) (h : Host) : Host :=
  match h.member? id with
  | some m => (h.close id m).2.removeMember id
  | none => h

/-- Opens an endpoint for a process under a name. If another endpoint has the name, that one is
dropped afterwards. -/
def openEndpoint (k : Kernel) (p : Process) (id : String) (c : EndpointConfig) (h : Host) :
    Option (Except LinkError Role) × Host :=
  let (now, h) := h.readClock
  match Endpoint.open k p now c h.regions with
  | (none, r) => (none, { h with regions := r })
  | (some (.error e), r) => (some (.error e), { h with regions := r })
  | (some (.ok e), r) =>
    let worker : Option Worker := if c.background then some ⟨h.now, h.now⟩ else none
    (some (.ok e.role), ({ h with regions := r }.drop id).addMember id ⟨p, e, worker⟩)

/-! ## Waiting for a condition -/

/-- Asks at intervals until the answer is yes, at most so often; the answer is whether it was. -/
def await (interval : Duration) (ask : Host → Bool × Host) : Nat → Host → Bool × Host
  | 0, h => ask h
  | times + 1, h =>
    match ask h with
    | (true, h) => (true, h)
    | (false, h) => await interval ask times (h.sleep interval)

end Host

end PeerLink
