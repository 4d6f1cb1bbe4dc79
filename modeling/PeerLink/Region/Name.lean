import PeerLink.Region.Error
import PeerLink.Text.Utf8

/-! # Region names

A caller's region name becomes the name of a system object: a fixed lead, then the name with every
slash replaced, so that path-like names create no nested objects.
-/

namespace PeerLink.RegionName

/-- What every object name starts with. -/
def lead : String := "/eshm_"

/-- The most bytes an object name may have, the lead included. -/
def maxBytes : Nat := 255

/-- A name with its slashes replaced. -/
def flatten (name : String) : String :=
  String.ofList (name.toList.map fun c => if c == '/' then '_' else c)

/-- The object name for a caller's region name. -/
def object (name : String) : Except RegionError String :=
  if name.isEmpty || name.toList.contains '\x00' then .error (.invalidName name)
  else
    let full := lead ++ flatten name
    let size := full.utf8ByteSize
    if maxBytes < size then .error (.nameTooLong name size maxBytes) else .ok full

end PeerLink.RegionName
