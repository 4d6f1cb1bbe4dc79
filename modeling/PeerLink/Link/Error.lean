import PeerLink.Codec.Error
import PeerLink.Link.Role
import PeerLink.Region.Error

/-! # Link errors

* `LinkError`: why an endpoint refuses an operation.
* `LinkError.message`: the wording of each cause; the causes of the lower layers keep theirs behind
  a lead.
-/

namespace PeerLink

/-- Why a claim to a side is refused. -/
inductive ClaimRefusal where
  /-- The side is held by a live process. -/
  | held (side : Role) (pid : UInt32)
  | bothHeld
  deriving DecidableEq, Repr

def ClaimRefusal.message : ClaimRefusal → String
  | .held side pid => s!"{side.name} is held by live pid {pid}"
  | .bothHeld => "both sides are held by live processes"

inductive LinkError where
  | invalidConfig (reason : String)
  | region (e : RegionError)
  | codec (e : CodecError)
  /-- The system failed outside the region. -/
  | io (e : IoError)
  | noData
  | timeout (after : Duration)
  /-- The peer's heartbeat stopped, and the endpoint fails fast. -/
  | peerStale (peer : Role)
  | reconnectFailed (attempts : UInt32) (elapsed : Duration)
  | bufferFull (size capacity : Nat)
  | bufferTooSmall (needed available : Nat)
  | notInitialized
  | roleMismatch (requested : Role) (reason : String)
  /-- The region was laid out by something else. -/
  | incompatibleRegion (magic version : UInt32)
  deriving DecidableEq, Repr

def LinkError.message : LinkError → String
  | .invalidConfig reason => s!"invalid configuration: {reason}"
  | .region e => s!"region error: {e.message}"
  | .codec e => s!"codec error: {e.message}"
  | .io e => s!"i/o error: {e.message}"
  | .noData => "no data available"
  | .timeout after => s!"read timed out after {after.text}"
  | .peerStale peer => s!"{peer.name} is stale"
  | .reconnectFailed attempts elapsed =>
    s!"reconnection gave up after {attempts} attempts ({elapsed.text})"
  | .bufferFull size capacity => s!"payload of {size} bytes exceeds channel capacity {capacity}"
  | .bufferTooSmall needed available =>
    s!"buffer too small: payload is {needed} bytes, buffer holds {available}"
  | .notInitialized => "endpoint not initialized"
  | .roleMismatch requested reason => s!"cannot attach as {requested.name}: {reason}"
  | .incompatibleRegion magic version =>
    "incompatible region (magic 0x" ++ Hex.word 8 magic.toNat ++ s!", version {version})"

end PeerLink
