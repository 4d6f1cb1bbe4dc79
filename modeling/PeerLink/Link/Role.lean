/-! # Roles and behaviors

* `Role`: the side of a region that an endpoint takes.
* `DisconnectBehavior`: what a silent peer means for reads and writes.

Each has one name, under which it is shown and by which it is chosen.
-/

namespace PeerLink

/-- The side of a region. `auto` is a request only: master unless a live master is there. -/
inductive Role where
  | master
  /-- The side that follows a master from region to region. -/
  | slave
  /-- Whichever side is free, master first. -/
  | auto
  deriving DecidableEq, Repr

namespace Role

def name : Role → String
  | .master => "master"
  | .slave => "slave"
  | .auto => "auto"

def title : Role → String
  | .master => "Master"
  | .slave => "Slave"
  | .auto => "Auto"

def all : List Role := [.master, .slave, .auto]

def ofName? (s : String) : Option Role := all.find? (·.name == s)

/-- The opposite side. An undecided role has no peer but itself. -/
def peer : Role → Role
  | .master => .slave
  | .slave => .master
  | .auto => .auto

end Role

/-- What a silent peer means for the caller. -/
inductive DisconnectBehavior where
  /-- Calls fail while the peer is silent. -/
  | immediately
  /-- Reconnect within a bound, then fail for good. -/
  | onTimeout
  | never
  deriving DecidableEq, Repr

namespace DisconnectBehavior

def name : DisconnectBehavior → String
  | .immediately => "immediately"
  | .onTimeout => "on_timeout"
  | .never => "never"

def all : List DisconnectBehavior := [.immediately, .onTimeout, .never]

def ofName? (s : String) : Option DisconnectBehavior := all.find? (·.name == s)

end DisconnectBehavior

end PeerLink
