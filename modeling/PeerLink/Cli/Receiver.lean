import PeerLink.Cli.Failure
import PeerLink.Cli.Options

/-! # Receivers

The commands that receive messages one after another wait for them in slices of time, so that they
notice an interruption. A receiver keeps the count of messages and the time of the last one, and
decides after every slice whether to go on.

* `Receiver`: the limits and what was received so far.
* `Receiver.takeMessage`, `Receiver.afterSilence`: a slice with a message, a slice without one.
-/

namespace PeerLink

/-- The limits of a receiving command and what it has received. -/
structure Receiver where
  region : String
  count : Option Nat
  /-- How long to be without a message. -/
  idleLimit : Option Duration
  received : Nat
  /-- When the last message came, or the command began. -/
  lastMessage : Instant
  deriving DecidableEq, Repr

namespace Receiver

/-- The time for which a message is awaited at once. -/
def slice : Duration := .ofMillis 100

def start (region : String) (count : Option Nat) (idleLimit : Option Duration) (now : Instant) :
    Receiver :=
  ⟨region, count, idleLimit, 0, now⟩

/-- A message has come and been dealt with. -/
def takeMessage (now : Instant) (r : Receiver) : Receiver :=
  { r with received := r.received + 1, lastMessage := now }

/-- Whether the count of messages is reached. It is asked after a message only, so that one message
is received even if none was wanted. -/
def isComplete (r : Receiver) : Bool :=
  match r.count with
  | some n => n ≤ r.received
  | none => false

/-- A slice without a message; it is a failure if that has lasted too long. -/
def afterSilence (now : Instant) (r : Receiver) : Except Failure Unit :=
  match r.idleLimit with
  | some limit =>
    if limit ≤ now.since r.lastMessage then
      .error ⟨ExitCode.timeout, s!"no message on {r.region} within {limit.text}"⟩
    else .ok ()
  | none => .ok ()

end Receiver

end PeerLink
