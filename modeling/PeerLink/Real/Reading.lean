import PeerLink.Real.Binary64

/-! # Reading reals

The numeral grammar: an optional sign, then `inf`, `infinity` or `nan` in letters of either case, or
digits with at most one point among them and an optional exponent. At least one digit must stand
before the exponent, and the exponent needs a digit of its own. The value is the number nearest to
the decimal, ties to even.
-/

namespace PeerLink.Binary64

def digitValue (c : Char) : Nat := c.toNat - '0'.toNat

def ofDigits (cs : List Char) : Nat :=
  cs.foldl (fun n c => n * 10 + digitValue c) 0

/-- Exponents beyond this size cannot change the value of a numeral that fits in memory. -/
def exponentLimit : Nat := 65536

/-- The number that decimal digits denote, held at a bound once it is reached. -/
def ofDigitsCapped (cs : List Char) : Nat :=
  cs.foldl (fun n c => if exponentLimit ≤ n then n else n * 10 + digitValue c) 0

/-- The number nearest to `m * 10 ^ e`. Magnitudes far outside the range are decided without
computing the power. -/
def ofDecimal (negative : Bool) (m : Nat) (e : Int) : Binary64 :=
  if m = 0 then ofRatio negative 0 1
  else
    let size : Int := (Nat.toDigits 10 m).length
    if 400 < size + e then infinity negative
    else if size + e < -400 then ofRatio negative 0 1
    else if 0 ≤ e then ofRatio negative (m * Nat.pow 10 e.toNat) 1
    else ofRatio negative m (Nat.pow 10 (-e).toNat)

/-- The exponent part of a numeral, from its letter on; none stands for zero. -/
def exponentPart? : List Char → Option Int
  | [] => some 0
  | c :: rest =>
    if c != 'e' && c != 'E' then none
    else
      let (negative, digits) := match rest with
        | '-' :: ds => (true, ds)
        | '+' :: ds => (false, ds)
        | ds => (false, ds)
      if digits.isEmpty || !digits.all Char.isDigit then none
      else
        let n : Int := ofDigitsCapped digits
        some (if negative then -n else n)

/-- A numeral without its sign. -/
def unsigned? (negative : Bool) (cs : List Char) : Option Binary64 :=
  let whole := cs.takeWhile Char.isDigit
  let rest := cs.dropWhile Char.isDigit
  let (fraction, rest) := match rest with
    | '.' :: more => (more.takeWhile Char.isDigit, more.dropWhile Char.isDigit)
    | _ => ([], rest)
  if whole.isEmpty && fraction.isEmpty then none
  else
    (exponentPart? rest).map fun e =>
      ofDecimal negative (ofDigits (whole ++ fraction)) (e - (fraction.length : Nat))

/-- The value of a special name, in letters of either case. -/
def named? (negative : Bool) (cs : List Char) : Option Binary64 :=
  let name := String.ofList (cs.map Char.toLower)
  if name == "inf" || name == "infinity" then some (infinity negative)
  else if name == "nan" then some ⟨nan.bits ||| (if negative then 0x8000000000000000 else 0)⟩
  else none

/-- The real that a numeral denotes. -/
def ofText? (s : String) : Option Binary64 :=
  let (negative, cs) := match s.toList with
    | '-' :: cs => (true, cs)
    | '+' :: cs => (false, cs)
    | cs => (false, cs)
  (named? negative cs).orElse fun _ => unsigned? negative cs

end PeerLink.Binary64
