/-! # Processes

Shared memory names processes by their number. Whether a process exists is a fact of the host that
changes when processes die; every operation takes it as a parameter.

* `Process`: the calling process and the processes that exist.
* `Process.alive`: whether a recorded number names an existing process.
-/

namespace PeerLink

/-- The process that performs an operation, and what it can learn about others. -/
structure Process where
  pid : UInt32
  /-- Whether a process of this number exists. -/
  running : UInt32 → Bool

namespace Process

/-- The largest number that the system gives to a process. -/
def maxPid : UInt32 := 0x7fffffff

/-- Whether a recorded number names a live process. Zero means nobody, and a number that the system
never gives names nobody either. -/
def alive (p : Process) (pid : UInt32) : Bool :=
  pid != 0 && pid ≤ maxPid && p.running pid

end Process

end PeerLink
