import PeerLink.Link.Error
import PeerLink.Region.Layout

/-! # Channels

One direction of a region: a mailbox for one message. A write replaces the message that is there; a
read takes it. What is not read before the next write is gone.

* `Mailbox.store`, `Mailbox.receive`: what a write and a read do to the mailbox.
* `Channel`: a mailbox and the lock that guards it.
* `Channel.write`, `Channel.tryRead`, `Channel.tryReadInto`: the operations of the peers.
* `Direction`: the two mailboxes of a region and who writes into which.
-/

namespace PeerLink

namespace Mailbox

def pending (m : Mailbox) : Bool := m.writeCount != m.readCount

/-- The length of the message, whatever the length word says no more than the mailbox holds. -/
def messageLength (m : Mailbox) : Nat := min m.length.toNat capacity

def message (m : Mailbox) : Bytes := m.data.front m.messageLength

/-! ## The steps of a write -/

/-- The payload is copied to the front. -/
def copyIn (payload : Bytes) (m : Mailbox) : Mailbox := { m with data := m.data.overwrite payload }

def setLength (n : Nat) (m : Mailbox) : Mailbox := { m with length := UInt32.ofNat n }

/-- The message counts as written. -/
def announce (m : Mailbox) : Mailbox := { m with writeCount := m.writeCount + 1 }

/-- A message replaces the one that is there. -/
def store (payload : Bytes) (m : Mailbox) : Mailbox :=
  ((m.copyIn payload).setLength payload.length).announce

/-- The message counts as read. -/
def markRead (m : Mailbox) : Mailbox := { m with readCount := m.writeCount }

end Mailbox

/-- A mailbox and the lock that guards it. -/
structure Channel where
  lock : Lock
  mailbox : Mailbox
  deriving DecidableEq

namespace Channel

/-- Gives the lock up after a success, reporting if somebody else took it meanwhile. -/
def finish {α : Type} (p : Process) (a : α) (c : Channel) : Except LinkError α × Channel :=
  match c.lock.release p.pid with
  | .ok l => (.ok a, { c with lock := l })
  | .error e => (.error (.region e), c)

/-- Gives the lock up after a failure. -/
def abandon {α : Type} (p : Process) (e : LinkError) (c : Channel) : Except LinkError α × Channel :=
  (.error e, { c with lock := c.lock.drop p.pid })

/-- Goes on with the lock held, or fails with nothing changed. -/
def locked {α : Type} (p : Process) (timeout : Duration)
    (act : Channel → Except LinkError α × Channel) (c : Channel) : Except LinkError α × Channel :=
  match c.lock.acquire p timeout with
  | .error e => (.error (.region e), c)
  | .ok l => act { c with lock := l }

/-- Stores a message, replacing one that has not been read. A message that is too long is refused
before the lock is taken. -/
def write (p : Process) (timeout : Duration) (payload : Bytes) (c : Channel) :
    Except LinkError Unit × Channel :=
  if Bytes.atLeast (Mailbox.capacity + 1) payload then
    (.error (.bufferFull payload.length Mailbox.capacity), c)
  else
    c.locked p timeout fun c => { c with mailbox := c.mailbox.store payload }.finish p ()

/-- Goes on with the lock held and a message pending. Without a message the lock is not even taken;
once it is held the mailbox is asked again. -/
def receiving {α : Type} (p : Process) (timeout : Duration)
    (act : Channel → Except LinkError α × Channel) (c : Channel) : Except LinkError α × Channel :=
  if !c.mailbox.pending then (.error .noData, c)
  else
    c.locked p timeout fun c =>
      if !c.mailbox.pending then c.abandon p .noData else act c

def tryRead (p : Process) (timeout : Duration) (c : Channel) : Except LinkError Bytes × Channel :=
  c.receiving p timeout fun c =>
    { c with mailbox := c.mailbox.markRead }.finish p c.mailbox.message

/-- Takes the pending message into a buffer of the caller's; the answer is its length and the
buffer. A buffer that is too small leaves the message pending. -/
def tryReadInto (p : Process) (timeout : Duration) (buffer : Bytes) (c : Channel) :
    Except LinkError (Nat × Bytes) × Channel :=
  c.receiving p timeout fun c =>
    let n := c.mailbox.messageLength
    if Bytes.atLeast n buffer then
      { c with mailbox := c.mailbox.markRead }.finish p
        (n, buffer.overwrite 0 c.mailbox.message)
    else c.abandon p (.bufferTooSmall n buffer.length)

end Channel

/-! ## Directions -/

inductive Direction where
  | masterToSlave
  | slaveToMaster
  deriving DecidableEq, Repr

/-- The direction that a side writes into; an undecided role counts as the master. -/
def Role.outgoing : Role → Direction
  | .slave => .slaveToMaster
  | .master | .auto => .masterToSlave

/-- The direction that a side reads from: the one its peer writes into. -/
def Role.incoming (role : Role) : Direction := role.peer.outgoing

namespace Layout

def mailbox (l : Layout) : Direction → Mailbox
  | .masterToSlave => l.masterToSlave
  | .slaveToMaster => l.slaveToMaster

def channel (l : Layout) (d : Direction) : Channel := ⟨l.header.lock, l.mailbox d⟩

/-- The region with the words of a channel put back. -/
def putChannel (d : Direction) (c : Channel) (l : Layout) : Layout :=
  let header := { l.header with lock := c.lock }
  match d with
  | .masterToSlave => { l with header, masterToSlave := c.mailbox }
  | .slaveToMaster => { l with header, slaveToMaster := c.mailbox }

/-- An operation on the channel of a direction. -/
def onChannel {α : Type} (d : Direction) (act : Channel → α × Channel) (l : Layout) : α × Layout :=
  let (a, c) := act (l.channel d)
  (a, l.putChannel d c)

end Layout

end PeerLink
