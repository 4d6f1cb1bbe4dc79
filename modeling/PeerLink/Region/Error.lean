import PeerLink.Duration
import PeerLink.Region.IoError
import PeerLink.Text.Quoted

/-! # Region errors

* `RegionError`: why a named region or its lock refuses an operation.
* `RegionError.message`: the wording of each cause.
* `RegionError.isAlreadyExists`, `RegionError.isNotFound`: the two causes on which an attacher goes
  on.
-/

namespace PeerLink

/-- Why a named region or its lock refuses an operation. -/
inductive RegionError where
  | create (name : String) (source : IoError)
  /-- The region cannot be opened or mapped. -/
  | attach (name : String) (source : IoError)
  | detach (name : String) (source : IoError)
  | destroy (name : String) (source : IoError)
  /-- The name does not fit the system's limit. -/
  | nameTooLong (name : String) (length max : Nat)
  /-- The name is empty or holds a NUL character. -/
  | invalidName (name : String)
  | tooSmall (name : String) (size required : Nat)
  /-- The lock cannot be reset. -/
  | lockInit (reason : String)
  /-- The lock was not free before the deadline. -/
  | lockTimeout (timeout : Duration) (owner : UInt32)
  /-- The lock was released by a process that does not hold it. -/
  | lockStolen (owner caller : UInt32)
  | unsupported
  deriving DecidableEq, Repr

namespace RegionError

def message : RegionError → String
  | .create name source => s!"failed to create region {name}: {source.message}"
  | .attach name source => s!"failed to attach region {name}: {source.message}"
  | .detach name source => s!"failed to detach region {name}: {source.message}"
  | .destroy name source => s!"failed to destroy region {name}: {source.message}"
  | .nameTooLong name length max =>
    s!"region name too long ({length} bytes, max {max}): {name}"
  | .invalidName name => "invalid region name: " ++ Quoted.quote name
  | .tooSmall name size required =>
    s!"region {name} too small ({size} bytes, need {required})"
  | .lockInit reason => s!"lock init failed: {reason}"
  | .lockTimeout timeout owner =>
    s!"lock acquisition timed out after {timeout.text} (held by pid {owner})"
  | .lockStolen owner caller => s!"lock release by pid {caller} but held by pid {owner}"
  | .unsupported => "shared memory regions are not supported on this platform"

/-- Whether a region was not created because its name is taken. -/
def isAlreadyExists : RegionError → Bool
  | .create _ source => source.kind == .alreadyExists
  | _ => false

/-- Whether a region was not attached because its name stands for nothing. -/
def isNotFound : RegionError → Bool
  | .attach _ source => source.kind == .notFound
  | _ => false

end RegionError

end PeerLink
