import PeerLink.Codec.Reader

/-! # Lengths

A length below 128 is one byte. A longer one is a count of bytes, marked by the high bit, and that
many bytes, most significant first.

* `Length.encode?`: the shortest form of a length below `2 ^ 32`.
* `Length.read`: any form of at most four length bytes, leading zeros included.
-/

namespace PeerLink.Length

/-- The first length that takes a byte count. -/
def longFrom : Nat := 0x80

/-- The first length that no four bytes can hold. -/
def limit : Nat := 0x100000000

def maxBytes : UInt8 := 4

/-- How many bytes at the front of a word are zero. -/
def zeroBytes (w : UInt32) : Nat := w.toBitVec.clz.toNat / 8

/-- The shortest form of a length. -/
def encode? (n : Nat) : Option Bytes :=
  if n < longFrom then some [UInt8.ofNat n]
  else if n < limit then
    let word := UInt32.ofNat n
    let digits := (Bytes.bigEndian32 word).drop (zeroBytes word)
    some ((0x80 ||| UInt8.ofNat digits.length) :: digits)
  else none

def read : Reader Nat := do
  let first ← Reader.byte
  if first &&& 0x80 == 0 then Reader.ok first.toNat
  else
    let count := first &&& 0x7f
    if count == 0 then Reader.fail .indefiniteLength
    else if maxBytes < count then Reader.fail (.lengthTooLarge count)
    else do
      let digits ← Reader.take count.toNat
      Reader.ok (Bytes.toNat digits)

end PeerLink.Length
