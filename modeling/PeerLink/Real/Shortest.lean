import PeerLink.Real.Binary64

/-! # Shortest decimals

The shortest decimal that reads back as a given number. A number stands for every real that rounds
to it, the interval between the midpoints to its neighbours; among the decimals of `1, 2, 3, …`
digits the first count that has a decimal in the interval wins, and of two such decimals the nearer.
A tie is decided by the caller.

* `Decimal`: digits and a power of ten.
* `Interval`: the reals that round to a number, as quotients over one denominator.
* `Binary64.shortest`: the digits and exponent of a finite, non-zero magnitude.
-/

namespace PeerLink

/-- The number `digits * 10 ^ exponent`, sign aside. -/
structure Decimal where
  digits : Nat
  /-- The power of ten of the last digit. -/
  exponent : Int
  deriving DecidableEq, Repr

/-- Which of two equally near decimals is taken. -/
inductive TieRule where
  /-- The larger magnitude. -/
  | away
  /-- The one whose last digit is even. -/
  | even
  deriving DecidableEq, Repr

/-- The reals that round to one number, over a common denominator. -/
structure Interval where
  /-- Numerator of the lower end. -/
  low : Nat
  value : Nat
  /-- Numerator of the upper end. -/
  high : Nat
  den : Nat
  /-- Whether the ends themselves round to the number. -/
  closed : Bool

/-- The interval of a finite, non-zero number. Below a power of two the neighbour is half as far,
except for the smallest normal number. -/
def Binary64.interval (r : Binary64) : Interval :=
  let (m, q) := r.scaled
  let down := if m = hiddenBit ∧ 0 < q then 1 else 2
  let scale := Nat.pow 2 q
  ⟨(4 * m - down) * scale, 4 * m * scale, (4 * m + 2) * scale, 4 * Nat.pow 2 1074, m % 2 == 0⟩

namespace Decimal

/-- Number of decimal digits, at least one. -/
def digitCount (n : Nat) : Nat := (Nat.toDigits 10 n).length

/-- The exponent `e` for which `num / den` is at least `10 ^ e` and below `10 ^ (e + 1)`. -/
def leadingExponent (num den : Nat) : Int :=
  if den ≤ num then (digitCount (num / den) - 1 : Nat)
  else
    let t := digitCount (den / num)
    if num * Nat.pow 10 (t - 1) = den then -((t - 1 : Nat) : Int) else -(t : Int)

/-- Multiplies one side of a fraction so that it counts units of `10 ^ e`. -/
def inUnits (num den : Nat) (e : Int) : Nat × Nat :=
  if 0 ≤ e then (num, den * Nat.pow 10 e.toNat) else (num * Nat.pow 10 (-e).toNat, den)

/-- Whether `c * 10 ^ e` lies in the interval. -/
def inside (i : Interval) (c : Nat) (e : Int) : Bool :=
  let (low, den) := inUnits i.low i.den e
  let (high, _) := inUnits i.high i.den e
  let x := c * den
  if i.closed then low ≤ x && x ≤ high else low < x && x < high

/-- The decimal with last place `10 ^ e` next to the number, if one rounds to it. -/
def onGrid? (tie : TieRule) (i : Interval) (e : Int) : Option Nat :=
  let (num, den) := inUnits i.value i.den e
  let c := num / den
  let below := inside i c e && c != 0
  let above := inside i (c + 1) e
  if below && above then
    let twice := 2 * (num % den)
    if twice < den then some c
    else if den < twice then some (c + 1)
    else match tie with
      | .away => some (c + 1)
      | .even => some (if c % 2 = 0 then c else c + 1)
  else if below then some c
  else if above then some (c + 1)
  else none

/-- The first grid with a decimal in the interval, from last place `10 ^ e` downwards. -/
def search (tie : TieRule) (i : Interval) : Nat → Int → Decimal
  | 0, e => ⟨i.value * Nat.pow 10 (-e).toNat / i.den, e⟩
  | tries + 1, e =>
    match onGrid? tie i e with
    | some c => ⟨c, e⟩
    | none => search tie i tries (e - 1)

/-- The same number with trailing zeros moved into the exponent. -/
def trim : Nat → Decimal → Decimal
  | 0, d => d
  | tries + 1, d =>
    if d.digits % 10 = 0 ∧ d.digits ≠ 0 then trim tries ⟨d.digits / 10, d.exponent + 1⟩ else d

end Decimal

/-- The shortest decimal that reads back as a finite, non-zero number; seventeen digits always
suffice. -/
def Binary64.shortest (tie : TieRule) (r : Binary64) : Decimal :=
  let i := r.interval
  Decimal.trim 17 (Decimal.search tie i 17 (Decimal.leadingExponent i.value i.den))

end PeerLink
