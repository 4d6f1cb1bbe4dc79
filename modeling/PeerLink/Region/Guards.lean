import PeerLink.Region.Lock

/-! # Guards

A process that has taken a lock keeps a guard, by which it gives the lock up again. A guard can be
given up aloud, which reports if the lock was lost meanwhile, or silently. Either way it is gone.

* `Guards`: a lock and the guards on it, by name.
* `Guards.keep`, `Guards.unlock`, `Guards.drop`: a new guard, and its two ends.
-/

namespace PeerLink

/-- A lock and the names of the guards on it. -/
structure Guards where
  lock : Lock
  names : List String
  deriving DecidableEq, Repr

namespace Guards

def has (name : String) (g : Guards) : Bool := g.names.contains name

/-- Keeps a guard on the lock that was just taken. A guard that had the name before is dropped after
that, and since a guard knows its process only, it takes the new hold with it. -/
def keep (pid : UInt32) (name : String) (taken : Lock) (g : Guards) : Guards :=
  if g.has name then { g with lock := taken.drop pid } else ⟨taken, name :: g.names⟩

/-- Gives a guard up, and reports if somebody else is recorded as the holder. -/
def unlock (pid : UInt32) (name : String) (g : Guards) : Except RegionError Unit × Guards :=
  let names := g.names.erase name
  match g.lock.release pid with
  | .ok lock => (.ok (), ⟨lock, names⟩)
  | .error e => (.error e, ⟨g.lock, names⟩)

/-- Gives a guard up and reports nothing. -/
def drop (pid : UInt32) (name : String) (g : Guards) : Guards :=
  ⟨g.lock.drop pid, g.names.erase name⟩

end Guards

end PeerLink
