import PeerLink.Real.Shortest

/-! # Reals as text

* `RealFormat`: the decisions of a notation that the digits leave open.
* `RealFormat.write`: a real in a notation.
* `RealFormat.plain`: the notation of tables and plain listings: positional at any size.
* `RealFormat.json`: the notation of JSON numbers: a point in every positional number, and powers of
  ten outside the middle range.
-/

namespace PeerLink

structure RealFormat where
  /-- Leading exponents from this one on are positional. -/
  positionalFrom : Option Int
  /-- Leading exponents below this one are positional. -/
  positionalBelow : Option Int
  /-- Whether a whole number in positional form ends in `.0`. -/
  wholePoint : Bool
  plusSign : Bool
  /-- Which of two equally near decimals is taken. -/
  tie : TieRule

namespace RealFormat

/-- The notation of tables and plain listings. -/
def plain : RealFormat := ⟨none, none, false, false, .away⟩

/-- The notation of JSON numbers. -/
def json : RealFormat := ⟨some (-5), some 16, true, true, .even⟩

/-- Whether a number with this leading exponent is written without a power of ten. -/
def isPositional (f : RealFormat) (leading : Int) : Bool :=
  (match f.positionalFrom with | none => true | some e => e ≤ leading)
    && (match f.positionalBelow with | none => true | some e => leading < e)

/-- Digits with the point set by their exponent. -/
def positional (f : RealFormat) (digits : List Char) (exponent : Int) : List Char :=
  if 0 ≤ exponent then
    digits ++ List.replicate exponent.toNat '0' ++ (if f.wholePoint then ['.', '0'] else [])
  else
    let places := (-exponent).toNat
    if places < digits.length then
      digits.take (digits.length - places) ++ '.' :: digits.drop (digits.length - places)
    else '0' :: '.' :: (List.replicate (places - digits.length) '0' ++ digits)

/-- One digit before the point and a power of ten after. -/
def scientific (f : RealFormat) (digits : List Char) (leading : Int) : List Char :=
  let mantissa := match digits with
    | [] => []
    | [d] => [d]
    | d :: rest => d :: '.' :: rest
  let sign := if leading < 0 then ['-'] else if f.plusSign then ['+'] else []
  mantissa ++ 'e' :: (sign ++ Nat.toDigits 10 leading.natAbs)

/-- The magnitude of a finite number. -/
def magnitude (f : RealFormat) (r : Binary64) : List Char :=
  if r.isZero then f.positional ['0'] 0
  else
    let d := r.shortest f.tie
    let digits := Nat.toDigits 10 d.digits
    let leading := d.exponent + (digits.length - 1 : Nat)
    if f.isPositional leading then f.positional digits d.exponent else f.scientific digits leading

/-- A real in a notation. A NaN has no sign. -/
def write (f : RealFormat) (r : Binary64) : String :=
  if r.isNaN then "NaN"
  else
    let sign := if r.isNegative then ['-'] else []
    String.ofList (sign ++ (if r.isInfinite then ['i', 'n', 'f'] else f.magnitude r))

end RealFormat

end PeerLink
