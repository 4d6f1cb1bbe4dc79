import PeerLink.Bytes.Basic

/-! # Blocks

Byte strings of a fixed length.

* `Block n`: `n` bytes.
* `Block.ofBytes`: the first bytes of a byte string, filled up with zeros.
* `Block.overwrite`: a block with new bytes at its front.
-/

namespace PeerLink

/-- A byte string of a fixed length. -/
abbrev Block (n : Nat) := Vector UInt8 n

namespace Block

variable {n : Nat}

def zero (n : Nat) : Block n := Vector.replicate n 0

/-- The first `n` bytes of a byte string; absent bytes are zero. -/
def ofBytes (n : Nat) (bs : Bytes) : Block n :=
  ⟨((bs.take n).toArray ++ Array.replicate (n - bs.length) 0), by simp; omega⟩

def toBytes (b : Block n) : Bytes := b.toList

/-- The first `k` bytes of a block. -/
def front (b : Block n) (k : Nat) : Bytes := (b.toArray.extract 0 k).toList

/-- A block with a byte string written over its front; what does not fit is dropped. -/
def overwrite (b : Block n) (bs : Bytes) : Block n :=
  ⟨(bs.take n).toArray ++ b.toArray.extract bs.length n, by simp; omega⟩

end Block

end PeerLink
