import PeerLink.Cli.CommandLine
import PeerLink.Cli.Receiver
import PeerLink.Host.Basic
import PeerLink.Listing.Message
import PeerLink.Listing.Stats

/-! # Running commands

A command runs as a process on a host. It does something whenever its time has come, and says when
it wants to do something next; in between the host belongs to others.

* `Task`: a running command, what it has written so far, and where it stands.
* `Task.step`: what it does when its time has come.
* `Task.run`: the whole of a command while nobody else acts.
-/

namespace PeerLink

/-- What a command finds around it. -/
structure Setting where
  process : Process
  kernel : Kernel
  readFile : String → Except IoError Bytes
  /-- The time of day, as it is written with messages. -/
  timeOfDay : String
  /-- What the program was built for: target, system and architecture. -/
  platform : String × String × String

/-- Where a running command stands. -/
inductive Stage where
  /-- Nothing of the command is done yet. -/
  | beginning (invocation : Invocation)
  /-- Waiting for a peer to send something to, since when and how long. -/
  | awaitingPeer (options : SendOptions) (payload : Bytes) (since : Instant)
      (limit replyLimit : Duration)
  /-- Waiting for a reply, until when and how long in all. -/
  | awaitingReply (raw : Bool) (deadline : Instant) (limit : Duration)
  /-- Waiting for messages, this slice until when; they are sent back, or shown. -/
  | receiving (sendBack raw : Bool) (receiver : Receiver) (deadline : Instant)
  | ended (code : ExitCode)
  deriving DecidableEq, Repr

structure Task where
  format : OutputFormat
  stage : Stage
  /-- When it does something next. -/
  wake : Instant
  output : Bytes
  errors : List String
  interrupted : Bool

namespace Task

/-- The name of the command's endpoint among the members of the host. -/
def member : String := "command"

/-- The name and version of the program. -/
def banner : String := "eshm 0.2.1"

/-- A command that is about to begin; without a format its output is for other programs. -/
def start (c : CommandLine) (wake : Instant) : Task :=
  ⟨c.format.getD .json, .beginning c.invocation, wake, [], [], false⟩

/-- What is left of a command line that is not carried out. -/
def ofStop (stop : Stop) : Task :=
  match stop with
  | .misuse => ⟨.json, .ended ExitCode.badCommandLine, 0, [], [], false⟩
  | .version => ⟨.json, .ended ExitCode.success, 0, Utf8.encode (banner ++ "\n"), [], false⟩
  | .help => ⟨.json, .ended ExitCode.success, 0, [], [], false⟩

def exitCode? (t : Task) : Option ExitCode :=
  match t.stage with
  | .ended code => some code
  | _ => none

def regionName (h : Host) : String :=
  ((h.member? member).map (·.endpoint.config.name)).getD ""

/-! ## Endings -/

/-- The end of a command: its endpoint is closed. -/
def finish (code : ExitCode) (t : Task) (h : Host) : Task × Host :=
  ({ t with stage := .ended code }, h.drop member)

/-- The end of a command by a failure. -/
def fail (f : Failure) (t : Task) (h : Host) : Task × Host :=
  finish f.code { t with errors := t.errors ++ ["error: " ++ f.message] } h

/-- The end of a command at a deadline that no clock can show. -/
def breakOff (t : Task) (h : Host) : Task × Host :=
  finish ExitCode.aborted
    { t with errors := t.errors ++ ["overflow when adding duration to instant"] } h

/-- Goes on after something that may have failed. -/
def attempt {α : Type} (result : Except Failure α) (t : Task) (h : Host)
    (next : α → Task × Host) : Task × Host :=
  match result with
  | .ok a => next a
  | .error f => t.fail f h

/-! ## Output -/

def write (bytes : Bytes) (t : Task) : Task := { t with output := t.output ++ bytes }

def writeLine (line : String) (t : Task) : Task := t.write (Utf8.encode (line ++ "\n"))

def showMessage (s : Setting) (h : Host) (payload : Bytes) (items : Option (List Item)) (t : Task) :
    Task :=
  let role := ((h.member? member).map (·.endpoint.role)).getD .auto
  t.write (ReceivedMessage.listing s.timeOfDay t.format ⟨regionName h, role, payload, items⟩)

def versionLines (s : Setting) : List String :=
  let (target, system, architecture) := s.platform
  ["name: eshm", "version: 0.2.1", "build_target: " ++ target, "target_os: " ++ system,
    "target_arch: " ++ architecture, "git_hash: unknown",
    s!"layout: version={Layout.version} slot_capacity={Mailbox.capacity}",
    s!"region_name_max: {RegionName.maxBytes}", "features: cli=true"]

/-! ## Waiting -/

/-- Will do something at a point in time. -/
def sleepUntil (wake : Instant) (stage : Stage) (t : Task) : Task := { t with stage, wake }

/-- Will poll again, at the latest at the deadline. -/
def pollAgain (now deadline : Instant) (t : Task) : Task :=
  { t with wake := now + min Surroundings.pollInterval (deadline - now) }

/-- The time between two looks at whether the peer is there. -/
def peerInterval : Duration := .ofMillis 5

def nextSlice (now : Instant) (sendBack raw : Bool) (receiver : Receiver) (t : Task) (h : Host) :
    Task × Host :=
  if t.interrupted then t.finish ExitCode.success h
  else
    (t.sleepUntil (now + Host.tickOfClock)
      (.receiving sendBack raw receiver (now + Receiver.slice)), h)

def poll (h : Host) : Option (Except LinkError Bytes) × Host :=
  match h.member? member with
  | some m => h.poll member (·.tryRead m.process m.endpoint.config.lockTimeout)
  | none => (some (.error .notInitialized), h)

/-! ## Stages -/

def openLink (s : Setting) (config : EndpointConfig) (t : Task) (h : Host)
    (next : Host → Task × Host) : Task × Host :=
  match h.openEndpoint s.kernel s.process member config with
  | (some (.ok _), h) => next h
  | (some (.error e), h) => t.fail (.ofLink "open failed" e) h
  | (none, h) => t.breakOff h

def beginSend (s : Setting) (o : SendOptions) (t : Task) (h : Host) : Task × Host :=
  attempt o.link.config t h fun config =>
  attempt (Argument.duration o.waitPeer) t h fun limit =>
  attempt (Argument.duration o.waitTimeout) t h fun replyLimit =>
  attempt (o.payload.resolve s.readFile) t h fun payload =>
  openLink s config t h fun h =>
    (t.sleepUntil h.now (.awaitingPeer o payload h.now limit replyLimit), h)

def beginReceiving (s : Setting) (link : LinkOptions) (sendBack raw : Bool) (count : Option Nat)
    (idleLimit : Except Failure (Option Duration)) (t : Task) (h : Host) : Task × Host :=
  attempt link.config t h fun config =>
  attempt idleLimit t h fun limit =>
  openLink s config t h fun h =>
    t.nextSlice h.now sendBack raw (Receiver.start link.name count limit h.now) h

/-- The limit of a listening command. -/
def idleLimit (o : ListenOptions) : Except Failure (Option Duration) :=
  match o.timeout with
  | none => .ok none
  | some text =>
    match Argument.duration text with
    | .ok d => .ok (some d)
    | .error f => .error f

def begin (s : Setting) (invocation : Invocation) (t : Task) (h : Host) : Task × Host :=
  match invocation with
  | .send o => t.beginSend s o h
  | .listen o => t.beginReceiving s o.link false o.raw o.count (idleLimit o) h
  | .echo o => t.beginReceiving s o.link true true o.count (.ok none) h
  | .stats name =>
    match h.regions.inspect s.process name with
    | .ok stats =>
      (t.write (Utf8.encode (stats.listing t.format))).finish ExitCode.success h
    | .error e => t.fail (.ofLink s!"cannot inspect {name}" e) h
  | .version false => (t.writeLine banner).finish ExitCode.success h
  | .version true => ((versionLines s).foldl (fun t l => t.writeLine l) t).finish ExitCode.success h

/-- Sends the message, now that the peer is there. A reply that could come later than clocks go is
not waited for: the command breaks off. -/
def sendPayload (o : SendOptions) (payload : Bytes) (replyLimit : Duration) (m : Member) (t : Task)
    (h : Host) : Task × Host :=
  match h.write payload m with
  | (.error e, h) => t.fail (.ofLink "write failed" e) h
  | (.ok (), h) =>
    if o.wait then
      match h.now.after? replyLimit with
      | some deadline => (t.sleepUntil h.now (.awaitingReply o.raw deadline replyLimit), h)
      | none => t.breakOff h
    else t.finish ExitCode.success h

def showReply (s : Setting) (raw : Bool) (payload : Bytes) (t : Task) (h : Host) : Task × Host :=
  if raw then (t.showMessage s h payload none).finish ExitCode.success h
  else
    match Message.decode payload with
    | .ok items => (t.showMessage s h payload (some items)).finish ExitCode.success h
    | .error e => t.fail (.ofCodec "reply is not an item message" e) h

/-- Deals with a received message: it is sent back, or shown, as items if it is a message of items
and nothing else is asked for. -/
def handle (s : Setting) (sendBack raw : Bool) (payload : Bytes) (t : Task) (h : Host) :
    Except Failure Task × Host :=
  if sendBack then
    match h.member? member with
    | none => (.error (.ofLink "echo write failed" .notInitialized), h)
    | some m =>
      match h.write payload m with
      | (.ok (), h) => (.ok t, h)
      | (.error e, h) => (.error (.ofLink "echo write failed" e), h)
  else
    let items := if raw then none else (Message.decode payload).toOption
    (.ok (t.showMessage s h payload items), h)

/-- What a command does when its time has come. -/
def step (s : Setting) (t : Task) (h : Host) : Task × Host :=
  match t.stage with
  | .beginning invocation => t.begin s invocation h
  | .awaitingPeer o payload since limit replyLimit =>
    match h.member? member with
    | none => t.fail (.ofLink "write failed" .notInitialized) h
    | some m =>
      if m.endpoint.isRemoteAlive then t.sendPayload o payload replyLimit m h
      else if limit ≤ h.now.since since then
        t.fail ⟨ExitCode.timeout,
          s!"peer did not attach to {o.link.name} within {limit.text}"⟩ h
      else ({ t with wake := h.now + peerInterval }, h)
  | .awaitingReply raw deadline limit =>
    match poll h with
    | (some (.ok payload), h) => t.showReply s raw payload h
    | (some (.error e), h) => t.fail (.ofLink "receive failed" e) h
    | (none, h) =>
      if deadline ≤ h.now then t.fail (.ofLink "receive failed" (.timeout limit)) h
      else (t.pollAgain h.now deadline, h)
  | .receiving sendBack raw receiver deadline =>
    match poll h with
    | (some (.ok payload), h) =>
      match t.handle s sendBack raw payload h with
      | (.error f, h) => t.fail f h
      | (.ok t, h) =>
        let receiver := receiver.takeMessage h.now
        if receiver.isComplete then t.finish ExitCode.success h
        else t.nextSlice h.now sendBack raw receiver h
    | (some (.error e), h) => t.fail (.ofLink "receive failed" e) h
    | (none, h) =>
      if deadline ≤ h.now then
        attempt (receiver.afterSilence h.now) t h fun _ => t.nextSlice h.now sendBack raw receiver h
      else (t.pollAgain h.now deadline, h)
  | .ended _ => (t, h)

/-- A command while nobody else acts, at most so many steps. -/
def run (s : Setting) : Nat → Task → Host → Task × Host
  | 0, t, h => (t, h)
  | steps + 1, t, h =>
    match t.exitCode? with
    | some _ => (t, h)
    | none =>
      let (t, h) := t.step s (h.sleep (t.wake - h.now))
      run s steps t h

end Task

end PeerLink
