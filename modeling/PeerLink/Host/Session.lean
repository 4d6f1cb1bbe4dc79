import PeerLink.Host.Basic

/-! # Sessions

A session is a run of commands on a host, all given by one process. It knows endpoints and mapped
regions by the names that the commands give them.

* `Command`, `Answer`: what can be asked, and what comes back.
* `Session.perform`: one command.
* `Session.run`: a list of commands.
-/

namespace PeerLink

inductive Command where
  | openEndpoint (id : String) (config : EndpointConfig)
  | write (id : String) (payload : Bytes)
  | writeItems (id : String) (items : List Item)
  | read (id : String) (timeout : Duration)
  /-- Take a message into a buffer, waiting so long. -/
  | readInto (id : String) (buffer : Bytes) (timeout : Duration)
  /-- Take a message of items, waiting so long. -/
  | readItems (id : String) (timeout : Duration)
  | stats (id : String)
  | tick (id : String) (times : Nat)
  | describe (id : String)
  | close (id : String)
  | drop (id : String)
  | inspect (name : String)
  /-- Wait until the peer counts as live, or as not live. -/
  | awaitAlive (id : String) (alive : Bool)
  | awaitState (id : String) (state : LinkState)
  /-- Send a one-byte message until that is refused in a certain way. -/
  | awaitRefusal (id : String) (refused : LinkError → Bool)
  | create (handle name : String) (size mode : Nat)
  | attach (handle name : String) (minSize : Nat)
  | unlink (name : String)
  | contains (name : String)
  | handle (handle : String)
  /-- Ask whether a name stands for a handle's object. -/
  | sameAsName (handle name : String)
  | same (handle other : String)
  | poke (handle : String) (start : Nat) (bytes : Bytes)
  | peek (handle : String) (start size : Nat)
  | forget (handle : String)

inductive Answer where
  /-- There is no endpoint or handle of this name. -/
  | unknown
  | done
  | role (role : Role)
  | bytes (bytes : Bytes)
  /-- The length of a message and the buffer that holds it. -/
  | filled (length : Nat) (buffer : Bytes)
  /-- A refused read into a buffer, which is as before. -/
  | notFilled (e : LinkError) (buffer : Bytes)
  | items (items : List Item)
  | stats (stats : RegionStats)
  | endpoint (e : Endpoint)
  | flag (yes : Bool)
  /-- Yes, no, or a question about nothing. -/
  | maybe (yes : Option Bool)
  | handle (handle : RegionHandle)
  | linkError (e : LinkError)
  | regionError (e : RegionError)
  /-- No answer: the operation broke off at a deadline that no clock can show. -/
  | brokenOff

/-- A host, the process that gives the commands, and the regions that it has mapped. -/
structure Session where
  process : Process
  kernel : Kernel
  host : Host
  handles : List (String × RegionHandle)

namespace Session

/-- A session on a host without regions. -/
def start (p : Process) : Session := ⟨p, .able, .start, []⟩

/-- The answer to a refusable command. -/
def Answer.ofResult {α : Type} (ok : α → Answer) : Except LinkError α → Answer
  | .ok a => ok a
  | .error e => .linkError e

/-- The answer to a refusable command with a deadline. -/
def Answer.ofTimed {α : Type} (ok : α → Answer) : Option (Except LinkError α) → Answer
  | some result => Answer.ofResult ok result
  | none => .brokenOff

/-- The answer to a refusable command on regions. -/
def Answer.ofRegion {α : Type} (ok : α → Answer) : Except RegionError α → Answer
  | .ok a => ok a
  | .error e => .regionError e

/-- A command on an endpoint, if there is one of this name. -/
def withMember (s : Session) (id : String) (act : Member → Host → Answer × Host) :
    Answer × Session :=
  match s.host.member? id with
  | none => (.unknown, s)
  | some m =>
    let (answer, host) := act m s.host
    (answer, { s with host })

def handle? (s : Session) (id : String) : Option RegionHandle :=
  (s.handles.find? (·.1 == id)).map (·.2)

def withHandle (s : Session) (id : String) (act : RegionHandle → Answer × Session) :
    Answer × Session :=
  match s.handle? id with
  | none => (.unknown, s)
  | some handle => act handle

def keep (id : String) (handle : RegionHandle) (s : Session) : Session :=
  { s with handles := (id, handle) :: s.handles.filter (·.1 != id) }

def setRegions (r : Regions) (s : Session) : Session :=
  { s with host := { s.host with regions := r } }

/-! ## Waiting -/

/-- The time between two questions. -/
def askInterval : Duration := .ofMillis 1

/-- How often a question is asked again: for five seconds. -/
def askTimes : Nat := 5000

/-- Waits until an endpoint is as wanted. -/
def awaitEndpoint (id : String) (wanted : Endpoint → Bool) (h : Host) : Bool × Host :=
  h.await askInterval
    (fun h => (((h.member? id).map fun m => wanted m.endpoint).getD false, h)) askTimes

/-- Sends a one-byte message until that is refused as wanted. -/
def awaitWriteRefusal (id : String) (wanted : LinkError → Bool) (h : Host) : Bool × Host :=
  h.await askInterval
    (fun h =>
      match h.member? id with
      | none => (false, h)
      | some m =>
        match h.write [0x78] m with
        | (.error e, h) => (wanted e, h)
        | (.ok (), h) => (false, h))
    askTimes

/-! ## Commands -/

/-- The items of a message that was read. -/
def decoded : Except LinkError Bytes → Except LinkError (List Item)
  | .error e => .error e
  | .ok payload =>
    match Message.decode payload with
    | .ok items => .ok items
    | .error e => .error (.codec e)

def perform (command : Command) (s : Session) : Answer × Session :=
  let r := s.host.regions
  match command with
  | .openEndpoint id config =>
    let (result, host) := (s.host.openEndpoint s.kernel s.process id config)
    (Answer.ofTimed .role result, { s with host })
  | .write id payload => s.withMember id fun m h =>
    let (result, h) := h.write payload m
    (Answer.ofResult (fun _ => .done) result, h)
  | .writeItems id items => s.withMember id fun m h =>
    let (result, h) := h.writeItems items m
    (Answer.ofResult (fun _ => .done) result, h)
  | .read id timeout => s.withMember id fun m h =>
    let (result, h) := h.readWith id (·.tryRead m.process m.endpoint.config.lockTimeout) timeout
    (Answer.ofTimed .bytes result, h)
  | .readInto id buffer timeout => s.withMember id fun m h =>
    match h.readWith id (·.tryReadInto m.process m.endpoint.config.lockTimeout buffer) timeout with
    | (some (.ok (length, buffer)), h) => (.filled length buffer, h)
    | (some (.error e), h) => (.notFilled e buffer, h)
    | (none, h) => (.brokenOff, h)
  | .readItems id timeout => s.withMember id fun m h =>
    let (result, h) := h.readWith id (·.tryRead m.process m.endpoint.config.lockTimeout) timeout
    (Answer.ofTimed .items (result.map decoded), h)
  | .stats id => s.withMember id fun m h =>
    let (result, e) := m.endpoint.stats m.process h.regions
    (Answer.ofResult .stats result, h.setMember id { m with endpoint := e })
  | .tick id times => s.withMember id fun _ h => (.done, h.ticks id times)
  | .describe id => s.withMember id fun m h => (.endpoint m.endpoint, h)
  | .close id => s.withMember id fun m h =>
    let (result, h) := h.close id m
    (Answer.ofResult (fun _ => .done) result, h)
  | .drop id => s.withMember id fun _ h => (.done, h.drop id)
  | .inspect name => (Answer.ofResult .stats (r.inspect s.process name), s)
  | .awaitAlive id alive => s.withMember id fun _ h =>
    let (met, h) := awaitEndpoint id (·.isRemoteAlive == alive) h
    (.flag met, h)
  | .awaitState id state => s.withMember id fun _ h =>
    let (met, h) := awaitEndpoint id (·.linkState == state) h
    (.flag met, h)
  | .awaitRefusal id refused => s.withMember id fun _ h =>
    let (met, h) := awaitWriteRefusal id refused h
    (.flag met, h)
  | .create id name size mode =>
    match r.create s.kernel name size mode with
    | (.ok handle, r) => (.done, (s.setRegions r).keep id handle)
    | (.error e, r) => (.regionError e, s.setRegions r)
  | .attach id name minSize =>
    match r.attach name minSize with
    | .ok handle => (.done, s.keep id handle)
    | .error e => (.regionError e, s)
  | .unlink name =>
    let (result, r) := r.unlink name
    (Answer.ofRegion .flag result, s.setRegions r)
  | .contains name => (Answer.ofRegion .flag (r.contains name), s)
  | .handle id => s.withHandle id fun handle => (.handle handle, s)
  | .sameAsName id name => s.withHandle id fun handle =>
    (Answer.ofRegion (fun current => .maybe (current.map (· == handle.object))) (r.identify name),
      s)
  | .same id other => s.withHandle id fun a => s.withHandle other fun b =>
    (.flag (a.object == b.object), s)
  | .poke id start bytes => s.withHandle id fun handle =>
    (.done, s.setRegions (r.setMemory handle.object ((r.memory handle.object).write start bytes)))
  | .peek id start size => s.withHandle id fun handle =>
    (.bytes ((r.memory handle.object).read start size), s)
  | .forget id => s.withHandle id fun _ =>
    (.done, { s with handles := s.handles.filter (·.1 != id) })

def run : List Command → Session → List Answer × Session
  | [], s => ([], s)
  | c :: rest, s =>
    let (answer, s) := s.perform c
    let (answers, s) := run rest s
    (answer :: answers, s)

end Session

end PeerLink
