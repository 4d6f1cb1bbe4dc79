import PeerLink.Link.Error
import PeerLink.Region.Layout

/-! # Claims

A process takes a side of a region by writing its number into the side's slot. A claim stands while
its flag is set and its process exists, so the claim of a process that died is free again.

* `RoleSlot.beat`, `RoleSlot.isLive`, `RoleSlot.occupy`, `RoleSlot.vacate`: one slot.
* `Header.resolve`: the side that a request gets.
* `Header.claim`, `Header.release`: taking and giving up a side under the region lock.
* `Header.publish`, `Header.validate`: the identification of a region.
-/

namespace PeerLink

namespace RoleSlot

def beat (s : RoleSlot) : RoleSlot := { s with heartbeat := s.heartbeat + 1 }

def isClaimed (s : RoleSlot) : Bool := s.flag == 1

/-- Whether the slot is claimed by a process that exists. -/
def isLive (p : Process) (s : RoleSlot) : Bool := s.isClaimed && p.alive s.pid

def occupy (pid : UInt32) (s : RoleSlot) : RoleSlot :=
  { s with pid, flag := 1, generation := s.generation + 1 }

def vacate (s : RoleSlot) : RoleSlot := { s with flag := 0 }

/-- Gives the claim up if it is the given process's. -/
def vacateIfOwn (pid : UInt32) (s : RoleSlot) : RoleSlot := if s.pid = pid then s.vacate else s

end RoleSlot

namespace Header

/-! ## Slots -/

/-- The slot of a side; an undecided role stands for the master's. -/
def slot (h : Header) : Role → RoleSlot
  | .slave => h.slave
  | .master | .auto => h.master

def mapSlot (role : Role) (f : RoleSlot → RoleSlot) (h : Header) : Header :=
  match role with
  | .slave => { h with slave := f h.slave }
  | .master | .auto => { h with master := f h.master }

def beat (role : Role) (h : Header) : Header := h.mapSlot role RoleSlot.beat

/-! ## The lock -/

/-- Performs an action while holding the region lock, and gives the lock up whatever comes of it.
If the lock cannot be had, nothing is done. -/
def underLock {α : Type} (p : Process) (timeout : Duration)
    (act : Header → Except LinkError α × Header) (h : Header) : Except LinkError α × Header :=
  match h.lock.acquire p timeout with
  | .error e => (.error (.region e), h)
  | .ok l =>
    let (result, h) := act { h with lock := l }
    (result, { h with lock := h.lock.drop p.pid })

/-! ## Claims -/

/-- The side that a request gets. A side that is asked for must be free; an undecided request gets
the master's if it is free, else the slave's. -/
def resolve (p : Process) (requested : Role) (h : Header) : Except ClaimRefusal Role :=
  match requested with
  | .auto =>
    if !h.master.isLive p then .ok .master
    else if !h.slave.isLive p then .ok .slave
    else .error .bothHeld
  | side => if (h.slot side).isLive p then .error (.held side (h.slot side).pid) else .ok side

/-- Takes a side of the region; the answer is the side taken. -/
def claim (p : Process) (requested : Role) (timeout : Duration) (h : Header) :
    Except LinkError Role × Header :=
  h.underLock p timeout fun h =>
    match h.resolve p requested with
    | .error refusal => (.error (.roleMismatch requested refusal.message), h)
    | .ok side => (.ok side, h.mapSlot side (RoleSlot.occupy p.pid))

/-- Gives a side up, if the process is its last claimant; the answer is whether the other side is
live. -/
def release (p : Process) (side : Role) (timeout : Duration) (h : Header) :
    Except LinkError Bool × Header :=
  h.underLock p timeout fun h =>
    let h := h.mapSlot side (RoleSlot.vacateIfOwn p.pid)
    (.ok ((h.slot side.peer).isLive p), h)

/-! ## Identification -/

def maxThresholdMs : Nat := UInt64.size - 1

/-- A silence as it is recorded: in whole milliseconds, at most the largest. -/
def recordedThreshold (d : Duration) : UInt64 := UInt64.ofNat (min d.toMillis maxThresholdMs)

/-- Fills in a header. The magic word comes last, so that nobody takes the region for complete
before it is. -/
def publish (p : Process) (staleThreshold : Duration) (h : Header) :
    Except LinkError Unit × Header :=
  let h := { h with
    version := Layout.version
    slotCapacity := UInt32.ofNat Mailbox.capacity
    staleThresholdMs := recordedThreshold staleThreshold }
  match h.lock.init p with
  | .error e => (.error (.region e), h)
  | .ok l => (.ok (), { h with lock := l, magic := Layout.magic })

def isValid (h : Header) : Bool :=
  h.magic == Layout.magic && h.version == Layout.version
    && h.slotCapacity.toNat == Mailbox.capacity

/-- Refuses a header of another layout. -/
def validate (h : Header) : Except LinkError Unit :=
  if h.isValid then .ok () else .error (.incompatibleRegion h.magic h.version)

end Header

def Layout.onHeader {α : Type} (act : Header → α × Header) (l : Layout) : α × Layout :=
  let (a, h) := act l.header
  (a, { l with header := h })

end PeerLink
