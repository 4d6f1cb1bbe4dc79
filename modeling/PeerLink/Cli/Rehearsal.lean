import PeerLink.Cli.Task

/-! # Rehearsals

A rehearsal runs a command on a host together with a partner: an endpoint in another process that
follows a list of actions. A partner that is the master is there before the command begins; one that
is the slave attaches as soon as the command has made the region.

* `Partner`, `PartnerAction`, `PartnerResult`: the other side.
* `Rehearsal`: the command and the partner on their host.
* `Rehearsal.run`: both, each whenever its time has come.
* `Rehearsal.outcome`: what is left in the end.
-/

namespace PeerLink

inductive PartnerAction where
  /-- Wait until the command's endpoint counts as live. -/
  | awaitAlive
  | send (payload : Bytes)
  | sendItems (items : List Item)
  /-- Wait until the last message was taken. -/
  | awaitTaken
  | receive
  | receiveItems
  | interrupt
  deriving DecidableEq, Repr

inductive PartnerResult where
  /-- Whether what was awaited has happened. -/
  | flag (met : Bool)
  | done
  | bytes (payload : Bytes)
  | items (items : List Item)
  | refused (e : LinkError)
  deriving DecidableEq, Repr

/-- The other side of a command. -/
structure Partner where
  process : Process
  config : EndpointConfig
  before : List PartnerAction
  actions : List PartnerAction

/-- How far a partner is with an action. -/
structure Acting where
  /-- The actions left, the current one first. -/
  todo : List PartnerAction
  /-- When the current one was begun. -/
  since : Instant
  /-- When it does something next. -/
  wake : Instant
  results : List PartnerResult

namespace Acting

def start (actions : List PartnerAction) (now : Instant) : Acting := ⟨actions, now, now, []⟩

def next (now : Instant) (result : PartnerResult) (a : Acting) : Acting :=
  ⟨a.todo.drop 1, now, now, a.results ++ [result]⟩

/-- The current action needs more time. -/
def later (wake : Instant) (a : Acting) : Acting := { a with wake }

end Acting

namespace Partner

/-- The name of the partner's endpoint among the members of the host. -/
def member : String := "partner"

/-- How long a partner waits for something. -/
def patience : Duration := .ofSeconds 5

/-- The time between two looks. -/
def lookInterval : Duration := .ofMillis 1

/-- The mailbox that the partner writes into. -/
def outgoing (m : Member) (h : Host) : Mailbox :=
  (h.regions.layout m.endpoint.region).mailbox m.endpoint.role.outgoing

def waitFor (met : Bool) (a : Acting) (h : Host) : Acting × Host :=
  if met then (a.next h.now (.flag true), h)
  else if patience ≤ h.now.since a.since then (a.next h.now (.flag false), h)
  else (a.later (h.now + lookInterval), h)

/-- The result of something that is done or refused. -/
def resultOf : Except LinkError Unit → PartnerResult
  | .ok () => .done
  | .error e => .refused e

/-- One poll for a message. -/
def receiveWith (result : Bytes → PartnerResult) (m : Member) (a : Acting) (h : Host) :
    Acting × Host :=
  match h.poll member (·.tryRead m.process m.endpoint.config.lockTimeout) with
  | (some (.ok payload), h) => (a.next h.now (result payload), h)
  | (some (.error e), h) => (a.next h.now (.refused e), h)
  | (none, h) =>
    if patience ≤ h.now.since a.since then (a.next h.now (.refused (.timeout patience)), h)
    else (a.later (h.now + Surroundings.pollInterval), h)

def decoded (payload : Bytes) : PartnerResult :=
  match Message.decode payload with
  | .ok items => .items items
  | .error e => .refused (.codec e)

/-- What a partner does when its time has come; the third component is whether it interrupts the
command. -/
def step (a : Acting) (h : Host) : Acting × Host × Bool :=
  match a.todo, h.member? member with
  | [], _ => (a, h, false)
  | _ :: _, none => (a.next h.now (.refused .notInitialized), h, false)
  | action :: _, some m =>
    match action with
    | .awaitAlive =>
      let (a, h) := waitFor m.endpoint.isRemoteAlive a h
      (a, h, false)
    | .awaitTaken =>
      let (a, h) := waitFor (!(outgoing m h).pending) a h
      (a, h, false)
    | .send payload =>
      let (result, h) := h.write payload m
      (a.next h.now (resultOf result), h, false)
    | .sendItems items =>
      let (result, h) := h.writeItems items m
      (a.next h.now (resultOf result), h, false)
    | .receive =>
      let (a, h) := receiveWith .bytes m a h
      (a, h, false)
    | .receiveItems =>
      let (a, h) := receiveWith decoded m a h
      (a, h, false)
    | .interrupt => (a.next h.now .done, h, true)

/-- All that a partner does while nobody else acts, at most so many steps. -/
def runAlone : Nat → Acting → Host → Acting × Host
  | 0, a, h => (a, h)
  | steps + 1, a, h =>
    if a.todo.isEmpty then (a, h)
    else
      let (a, h, _) := step a (h.sleep (a.wake - h.now))
      runAlone steps a h

end Partner

/-! ## Both sides -/

structure Rehearsal where
  /-- What the command finds around it. -/
  setting : Setting
  partner : Option Partner
  host : Host
  task : Task
  /-- How far the partner is, once it is attached. -/
  acting : Option Acting
  /-- When a partner that is not attached tries again. -/
  nextTry : Instant

structure Outcome where
  code : ExitCode
  output : Bytes
  errors : List String
  results : List PartnerResult
  /-- What the partner finds in its mailbox in the end. -/
  left : Option (Except LinkError Bytes)
  /-- Whether the region is still there when both sides are gone. -/
  regionKept : Bool

namespace Rehearsal

/-- How long a command takes to begin. -/
def startup : Duration := .ofMillis 1

def maxSteps : Nat := 2000000

def attachPartner (p : Partner) (r : Rehearsal) : Rehearsal :=
  match r.host.openEndpoint r.setting.kernel p.process Partner.member p.config with
  | (some (.ok _), h) => { r with host := h, acting := some (Acting.start p.actions h.now) }
  | (_, h) => { r with host := h, nextTry := h.now + Partner.lookInterval }

/-- Everything is ready; a partner that is the master is already there. -/
def start (s : Setting) (task : Task) (partner : Option Partner) : Rehearsal :=
  let r : Rehearsal := ⟨s, partner, .start, task, none, 0⟩
  let r := match partner with
    | some p =>
      if p.config.role == Role.slave then r
      else
        let r := r.attachPartner p
        let (_, h) := Partner.runAlone maxSteps (Acting.start p.before r.host.now) r.host
        { r with host := h, acting := r.acting.map fun _ => Acting.start p.actions h.now }
    | none => r
  let begin := r.host.now + startup
  { r with task := { r.task with wake := begin }, nextTry := begin }

/-- What happens next. -/
inductive Turn where
  | command
  | partner (a : Acting)
  | attach (p : Partner)
  | nobody

/-- Whose turn it is, and when. -/
def turn (r : Rehearsal) : Turn × Instant :=
  let other : Option (Turn × Instant) := match r.partner, r.acting with
    | some _, some a => if a.todo.isEmpty then none else some (.partner a, a.wake)
    | some p, none => if r.task.exitCode?.isSome then none else some (.attach p, r.nextTry)
    | none, _ => none
  match r.task.exitCode?, other with
  | none, none => (.command, r.task.wake)
  | none, some (turn, wake) =>
    if r.task.wake ≤ wake then (.command, r.task.wake) else (turn, wake)
  | some _, some next => next
  | some _, none => (.nobody, r.host.now)

/-- One turn; no answer if both are done. -/
def step (r : Rehearsal) : Option Rehearsal :=
  let (turn, wake) := r.turn
  let h := r.host.sleep (wake - r.host.now)
  match turn with
  | .command =>
    let (task, h) := r.task.step r.setting h
    some { r with task, host := h }
  | .partner a =>
    let (a, h, interrupts) := Partner.step a h
    let task := if interrupts then { r.task with interrupted := true } else r.task
    some { r with acting := some a, host := h, task }
  | .attach p => some ({ r with host := h }.attachPartner p)
  | .nobody => none

def run : Nat → Rehearsal → Rehearsal
  | 0, r => r
  | steps + 1, r =>
    match r.step with
    | some r => run steps r
    | none => r

/-- What is left when the command and the partner are done. -/
def outcome (name : String) (r : Rehearsal) : Outcome :=
  let (left, h) := match r.host.member? Partner.member with
    | some m =>
      let (result, h) := r.host.readWith Partner.member
        (·.tryRead m.process m.endpoint.config.lockTimeout) 0
      (result, h.drop Partner.member)
    | none => (none, r.host)
  { code := r.task.exitCode?.getD ExitCode.internal
    output := r.task.output
    errors := r.task.errors
    results := (r.acting.map (·.results)).getD []
    left
    regionKept := (h.regions.contains name).toOption.getD false }

/-- A command line from its words to its end, with or without a partner. -/
def perform (s : Setting) (environment : String → Option String) (words : List String)
    (partner : Option Partner) (name : String) : Outcome :=
  let task := match CommandLine.parse environment words with
    | .error stop => Task.ofStop stop
    | .ok c => Task.start c 0
  outcome name (run maxSteps (start s task partner))

end Rehearsal

end PeerLink
