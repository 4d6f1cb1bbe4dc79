import PeerLink.Bytes.Basic

/-! # Hexadecimal text

* `Hex.encode`: two lower-case digits a byte.
* `Hex.digit?`: the value of one digit of either case.
* `Hex.word`: a number padded with zeros on the left to a given number of digits.
-/

namespace PeerLink.Hex

/-- The lower-case digit of a number below sixteen. -/
def digitChar (n : Nat) : Char :=
  if n < 10 then Char.ofNat ('0'.toNat + n) else Char.ofNat ('a'.toNat + (n - 10))

/-- The value of a hexadecimal digit of either case. -/
def digit? (c : Char) : Option Nat :=
  if '0' ≤ c ∧ c ≤ '9' then some (c.toNat - '0'.toNat)
  else if 'a' ≤ c ∧ c ≤ 'f' then some (c.toNat - 'a'.toNat + 10)
  else if 'A' ≤ c ∧ c ≤ 'F' then some (c.toNat - 'A'.toNat + 10)
  else none

/-- The two digits of a byte, the high one first. -/
def ofByte (b : UInt8) : List Char :=
  [digitChar (b.toNat / 16), digitChar (b.toNat % 16)]

/-- A byte string as text, two lower-case digits a byte. -/
def encode (bs : Bytes) : String :=
  String.ofList (bs.flatMap ofByte)

/-- The shortest hexadecimal text of a number. -/
def ofNat (n : Nat) : String :=
  String.ofList (Nat.toDigits 16 n)

/-- A number as hexadecimal text of at least `width` digits. -/
def word (width n : Nat) : String :=
  let digits := Nat.toDigits 16 n
  String.ofList (List.replicate (width - digits.length) '0' ++ digits)

end PeerLink.Hex
