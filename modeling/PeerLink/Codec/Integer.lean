import PeerLink.Bytes.Basic

/-! # Integer contents

Integers are signed, most significant byte first, in as few bytes as keep the sign.

* `Integer.content`: the content bytes of a 64-bit integer.
* `Integer.ofContent`: the integer that content bytes denote.
-/

namespace PeerLink.Integer

/-- Drops leading bytes that only repeat the sign of the byte after them. -/
def dropRedundant : Bytes → Bytes
  | lead :: next :: rest =>
    if (lead == 0x00 && next &&& 0x80 == 0) || (lead == 0xff && next &&& 0x80 != 0) then
      dropRedundant (next :: rest)
    else lead :: next :: rest
  | bs => bs

/-- The content bytes of an integer: the eight bytes of its two's complement, shortened. -/
def content (v : Int64) : Bytes :=
  dropRedundant (Bytes.bigEndian64 v.toUInt64)

/-- A 64-bit register that is filled with the sign bit of the first byte. -/
def signFill : Bytes → Int64
  | [] => 0
  | b :: _ => if b &&& 0x80 != 0 then -1 else 0

/-- Shifts a byte into a register at its low end. -/
def shiftIn (register : Int64) (b : UInt8) : Int64 :=
  register <<< 8 ||| b.toUInt64.toInt64

/-- The integer that content bytes denote: they are shifted one by one into a register that is full
of the sign. -/
def ofContent (bs : Bytes) : Int64 :=
  bs.foldl shiftIn (signFill bs)

end PeerLink.Integer
