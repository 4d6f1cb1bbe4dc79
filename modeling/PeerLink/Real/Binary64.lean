/-! # Binary64 numbers

A real is carried as its IEEE 754 bit pattern, so that every pattern, the payload of a NaN and the
sign of a zero included, is a value of its own.

* `Binary64`: a bit pattern.
* `Binary64.IsZero`, `Binary64.isNaN`, `Binary64.isInfinite`: the classes other modules ask for.
* `Binary64.scaled`: a finite number as `m * 2 ^ q`, the exponent shifted to be natural.
* `Binary64.ofRatio`: the nearest number to a quotient, ties to even.
* `Binary64.sameNumber`: equality of numbers, under which the two zeros agree and a NaN differs
  from everything.
-/

namespace PeerLink

/-- A real number or special value, by its bit pattern. -/
structure Binary64 where
  /-- Sign, eleven bits of exponent, fifty-two bits of fraction. -/
  bits : UInt64
  deriving DecidableEq, Repr, Inhabited

namespace Binary64

/-- Whether the sign bit is set. -/
def isNegative (r : Binary64) : Bool := r.bits >>> 63 == 1

def exponentField (r : Binary64) : Nat := ((r.bits >>> 52) &&& 0x7ff).toNat

def fractionField (r : Binary64) : Nat := (r.bits &&& 0xfffffffffffff).toNat

/-- A zero of either sign. -/
def isZero (r : Binary64) : Bool := r.bits &&& 0x7fffffffffffffff == 0

def isNaN (r : Binary64) : Bool := r.exponentField == 0x7ff && r.fractionField != 0

/-- An infinity of either sign. -/
def isInfinite (r : Binary64) : Bool := r.exponentField == 0x7ff && r.fractionField == 0

def isFinite (r : Binary64) : Bool := r.exponentField != 0x7ff

def zero : Binary64 := ⟨0⟩

/-- The canonical quiet NaN. -/
def nan : Binary64 := ⟨0x7ff8000000000000⟩

def infinity (negative : Bool) : Binary64 :=
  ⟨if negative then 0xfff0000000000000 else 0x7ff0000000000000⟩

/-- Equality of numbers: the zeros agree, a NaN differs even from itself. -/
def sameNumber (a b : Binary64) : Bool :=
  !a.isNaN && !b.isNaN && (a.bits == b.bits || (a.isZero && b.isZero))

/-- The leading bit of a normal number's fraction, which its pattern leaves out. -/
def hiddenBit : Nat := 0x10000000000000

/-- The magnitude of a finite number as `(m, q)`, standing for `m * 2 ^ q / 2 ^ 1074`. -/
def scaled (r : Binary64) : Nat × Nat :=
  if r.exponentField = 0 then (r.fractionField, 0)
  else (hiddenBit + r.fractionField, r.exponentField - 1)

/-! ## Rounding -/

/-- A quotient rounded to the nearest natural number, a half to the even one. -/
def roundHalfEven (num den : Nat) : Nat :=
  let low := num / den
  let twice := 2 * (num % den)
  if twice < den then low
  else if den < twice then low + 1
  else if low % 2 = 0 then low else low + 1

/-- The pattern of the number nearest to `num / den`, with the given sign; `den` is not zero. -/
def ofRatio (negative : Bool) (num den : Nat) : Binary64 :=
  let sign : UInt64 := if negative then 0x8000000000000000 else 0
  if num = 0 then ⟨sign⟩ else
  -- `num / den` is at least `2 ^ (b - 4000)` and below `2 ^ (b - 3999)`
  let b := 4000 + Nat.log2 num - Nat.log2 den
  let b := if num * Nat.pow 2 4000 < den * Nat.pow 2 b then b - 1 else b
  -- the last place has weight `2 ^ (q - 1074)`
  let q := b + 1074 - 4052
  let m := roundHalfEven (num * Nat.pow 2 1074) (den * Nat.pow 2 q)
  let mq := if m = 2 * hiddenBit then (hiddenBit, q + 1) else (m, q)
  if 2046 ≤ mq.2 then infinity negative
  else if mq.1 < hiddenBit then ⟨sign ||| UInt64.ofNat mq.1⟩
  else ⟨sign ||| UInt64.ofNat ((mq.2 + 1) * hiddenBit + (mq.1 - hiddenBit))⟩

end Binary64

end PeerLink
