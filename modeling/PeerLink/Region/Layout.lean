import PeerLink.Bytes.Block
import PeerLink.Region.Lock

/-! # Region layout

Every byte of a region as it is seen by the processes that map it.

* `RoleSlot`: heartbeat and claim of one side.
* `Header`: the identification of the layout, the lock and the two role slots.
* `Mailbox`: the one-message buffer of one direction.
* `Layout`: the header and the two mailboxes.
* `Layout.image`, `Layout.ofImage`: the layout as bytes, and back.

The words are those of the memory itself, so they wrap as memory words do. Bytes that no operation
uses are part of the layout too, since they can be seen and must not change.
-/

namespace PeerLink

/-! ## Sizes -/

/-- The first word of a valid region. -/
def Layout.magic : UInt32 := 0x4553484d

/-- The number of this layout. -/
def Layout.version : UInt32 := 3

/-- Payload bytes that a mailbox holds. -/
def Mailbox.capacity : Nat := 65536

def RoleSlot.size : Nat := 24

def Header.size : Nat := 192

def Mailbox.size : Nat := 24 + Mailbox.capacity

def Layout.size : Nat := Header.size + 2 * Mailbox.size + 16

/-! ## Memory -/

/-- Heartbeat and claim of one side. -/
structure RoleSlot where
  /-- Counts the beats of all claimants, never reset. -/
  heartbeat : UInt64
  /-- The last claimant. -/
  pid : UInt32
  /-- One while the claim stands. -/
  flag : UInt32
  generation : UInt32
  reserved : UInt32
  deriving DecidableEq, Repr

/-- What stands at the start of a region. -/
structure Header where
  /-- Identifies a region whose header is complete. -/
  magic : UInt32
  version : UInt32
  /-- Payload bytes of a mailbox. -/
  slotCapacity : UInt32
  reserved : UInt32
  /-- The silence, in milliseconds, after which the peers call each other stale. -/
  staleThresholdMs : UInt64
  beforeLock : Block 40
  /-- Guards claims and mailboxes. -/
  lock : Lock
  afterLock : Block 56
  master : RoleSlot
  slave : RoleSlot
  afterRoles : Block 16
  deriving DecidableEq

/-- The buffer of one direction. -/
structure Mailbox where
  /-- Counts the messages written. -/
  writeCount : UInt64
  /-- What `writeCount` was when a message was last read. -/
  readCount : UInt64
  /-- Payload bytes of the last message. -/
  length : UInt32
  reserved : UInt32
  /-- The payload, with leftovers of longer ones behind it. -/
  data : Block Mailbox.capacity
  deriving DecidableEq

structure Layout where
  header : Header
  /-- What the master sends. -/
  masterToSlave : Mailbox
  /-- What the slave sends. -/
  slaveToMaster : Mailbox
  tail : Block 16
  deriving DecidableEq

/-! ## Fresh memory -/

def RoleSlot.zero : RoleSlot := ⟨0, 0, 0, 0, 0⟩

def Header.zero : Header :=
  ⟨0, 0, 0, 0, 0, Block.zero 40, ⟨0, 0⟩, Block.zero 56, .zero, .zero, Block.zero 16⟩

def Mailbox.zero : Mailbox := ⟨0, 0, 0, 0, Block.zero _⟩

def Layout.zero : Layout := ⟨.zero, .zero, .zero, Block.zero 16⟩

/-! ## Bytes -/

def RoleSlot.image (s : RoleSlot) : Bytes :=
  Bytes.ofWord64 s.heartbeat ++ (Bytes.ofWord32 s.pid ++ (Bytes.ofWord32 s.flag
    ++ (Bytes.ofWord32 s.generation ++ Bytes.ofWord32 s.reserved)))

def Lock.image (l : Lock) : Bytes :=
  Bytes.ofWord32 l.owner ++ Bytes.ofWord32 l.reclaims

def Header.image (h : Header) : Bytes :=
  Bytes.ofWord32 h.magic ++ (Bytes.ofWord32 h.version ++ (Bytes.ofWord32 h.slotCapacity
    ++ (Bytes.ofWord32 h.reserved ++ (Bytes.ofWord64 h.staleThresholdMs ++ (h.beforeLock.toBytes
    ++ (h.lock.image ++ (h.afterLock.toBytes ++ (h.master.image ++ (h.slave.image
    ++ h.afterRoles.toBytes)))))))))

def Mailbox.image (m : Mailbox) : Bytes :=
  Bytes.ofWord64 m.writeCount ++ (Bytes.ofWord64 m.readCount ++ (Bytes.ofWord32 m.length
    ++ (Bytes.ofWord32 m.reserved ++ m.data.toBytes)))

def Layout.image (l : Layout) : Bytes :=
  l.header.image ++ (l.masterToSlave.image ++ (l.slaveToMaster.image ++ l.tail.toBytes))

/-- The role slot that starts a byte string. -/
def RoleSlot.ofImage (bs : Bytes) : RoleSlot :=
  ⟨Bytes.word64 bs, Bytes.word32 (bs.drop 8), Bytes.word32 (bs.drop 12), Bytes.word32 (bs.drop 16),
    Bytes.word32 (bs.drop 20)⟩

/-- The lock that starts a byte string. -/
def Lock.ofImage (bs : Bytes) : Lock :=
  ⟨Bytes.word32 bs, Bytes.word32 (bs.drop 4)⟩

/-- The header that starts a byte string. -/
def Header.ofImage (bs : Bytes) : Header :=
  { magic := Bytes.word32 bs
    version := Bytes.word32 (bs.drop 4)
    slotCapacity := Bytes.word32 (bs.drop 8)
    reserved := Bytes.word32 (bs.drop 12)
    staleThresholdMs := Bytes.word64 (bs.drop 16)
    beforeLock := Block.ofBytes 40 ((bs.drop 24).take 40)
    lock := Lock.ofImage (bs.drop 64)
    afterLock := Block.ofBytes 56 ((bs.drop 72).take 56)
    master := RoleSlot.ofImage (bs.drop 128)
    slave := RoleSlot.ofImage (bs.drop 152)
    afterRoles := Block.ofBytes 16 ((bs.drop 176).take 16) }

/-- The mailbox that starts a byte string. -/
def Mailbox.ofImage (bs : Bytes) : Mailbox :=
  { writeCount := Bytes.word64 bs
    readCount := Bytes.word64 (bs.drop 8)
    length := Bytes.word32 (bs.drop 16)
    reserved := Bytes.word32 (bs.drop 20)
    data := Block.ofBytes _ ((bs.drop 24).take Mailbox.capacity) }

/-- The region that starts a byte string. -/
def Layout.ofImage (bs : Bytes) : Layout :=
  { header := Header.ofImage bs
    masterToSlave := Mailbox.ofImage (bs.drop Header.size)
    slaveToMaster := Mailbox.ofImage (bs.drop (Header.size + Mailbox.size))
    tail := Block.ofBytes 16 ((bs.drop (Header.size + 2 * Mailbox.size)).take 16) }

end PeerLink
