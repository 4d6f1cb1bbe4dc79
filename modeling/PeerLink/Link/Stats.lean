import PeerLink.Link.Attach
import PeerLink.Link.Channel

/-! # Snapshots

What can be seen of a region without taking part in it.

* `RoleStats`, `ChannelStats`, `RegionStats`: a snapshot.
* `RegionStats.capture`: takes one of a layout.
* `Regions.inspect`: takes one of a named region.
-/

namespace PeerLink

structure RoleStats where
  pid : UInt32
  /-- Whether a live process holds the side. -/
  alive : Bool
  heartbeat : UInt64
  /-- How far the counter has come since the snapshot before. -/
  heartbeatDelta : UInt64
  generation : UInt32
  deriving DecidableEq, Repr

structure ChannelStats where
  writeCount : UInt64
  /-- The messages written when one was last read. -/
  readCount : UInt64
  deriving DecidableEq, Repr

structure RegionStats where
  name : String
  staleThresholdMs : UInt64
  master : RoleStats
  slave : RoleStats
  masterToSlave : ChannelStats
  slaveToMaster : ChannelStats
  /-- How often the lock was taken over from a dead holder. -/
  lockReclaims : UInt32
  deriving DecidableEq, Repr

/-- The heartbeats of master and slave at an earlier snapshot. -/
abbrev HeartbeatBaseline := UInt64 × UInt64

/-- A snapshot of a slot; the counter is compared with an earlier one, if there is any. -/
def RoleStats.capture (p : Process) (slot : RoleSlot) (previous : Option UInt64) : RoleStats :=
  { pid := slot.pid
    alive := slot.isLive p
    heartbeat := slot.heartbeat
    heartbeatDelta := match previous with
      | some earlier => slot.heartbeat - earlier
      | none => 0
    generation := slot.generation }

def ChannelStats.capture (m : Mailbox) : ChannelStats := ⟨m.writeCount, m.readCount⟩

/-- Messages that were replaced before anybody read them, or still wait. -/
def ChannelStats.unread (s : ChannelStats) : Nat := s.writeCount.toNat - s.readCount.toNat

namespace RegionStats

def capture (p : Process) (name : String) (l : Layout) (previous : Option HeartbeatBaseline) :
    RegionStats :=
  { name
    staleThresholdMs := l.header.staleThresholdMs
    master := RoleStats.capture p l.header.master (previous.map (·.1))
    slave := RoleStats.capture p l.header.slave (previous.map (·.2))
    masterToSlave := ChannelStats.capture l.masterToSlave
    slaveToMaster := ChannelStats.capture l.slaveToMaster
    lockReclaims := l.header.lock.reclaims }

/-- What the next snapshot is compared with. -/
def baseline (s : RegionStats) : HeartbeatBaseline := (s.master.heartbeat, s.slave.heartbeat)

end RegionStats

def Regions.inspect (p : Process) (name : String) (r : Regions) : Except LinkError RegionStats :=
  match r.attachLayout name with
  | .error e => .error e
  | .ok handle => .ok (RegionStats.capture p name (r.layout handle.object) none)

end PeerLink
