import PeerLink.Text.CodePoints

/-! # Ligatures

Letters of some scripts that are shown as one sign with the letters before them. A text is read from
its end here: a `Ligature` is what a later letter leaves open for the characters in front of it.

* `Ligature`: the letters that may form one sign with what stands before them.
* `Ligature.ofChar?`: the ligature that a character by itself may be the end of.
* `Ligature.before?`: what a character in front of an open ligature comes to.
-/

namespace PeerLink.Text

/-- A letter that may form one sign with the characters before it. Where a joiner must stand between
them, `joined` says whether it does. -/
inductive Ligature where
  /-- An Arabic alef, for a lam. -/
  | alef
  /-- A Hebrew lamed, for an alef. -/
  | lamed (joined : Bool)
  /-- A Buginese ya, for a vowel sign i. -/
  | ya (joined : Bool)
  /-- A Buginese vowel sign i joined to a ya, for the letter a. -/
  | vowelYa
  /-- A Tifinagh consonant, for another one. -/
  | consonant (joined : Bool)
  /-- A Tifinagh consonant with the script's own joiner before it. -/
  | joinedConsonant
  /-- A Lisu tone letter, for another one. -/
  | tone
  /-- An Old Turkic i, for the letter ec. -/
  | orkhonI (joined : Bool)
  /-- A Khmer letter that is written below the line after the sign coeng. -/
  | subjoined
  /-- A Kirat Rai vowel sign e, for another vowel sign. -/
  | vowelE
  /-- Two Kirat Rai vowel signs e, or the sign ai, which is the same. -/
  | vowelAi
  deriving DecidableEq, Repr

/-! ## Classes of letters -/

def alefs : Array (Nat × Nat) :=
  #[(0x622, 0x623), (0x625, 0x625), (0x627, 0x627), (0x671, 0x673), (0x675, 0x675),
    (0x773, 0x774), (0x870, 0x882)]

def lams : Array (Nat × Nat) :=
  #[(0x644, 0x644), (0x6b5, 0x6b8), (0x76a, 0x76a), (0x8a6, 0x8a6), (0x8c7, 0x8c7)]

def tifinaghConsonants : Array (Nat × Nat) := #[(0x2d31, 0x2d65), (0x2d6f, 0x2d6f)]

/-- Khmer letters that the sign coeng puts below the line without a column of their own. -/
def subjoinable : Array (Nat × Nat) :=
  #[(0x1780, 0x1782), (0x1784, 0x1787), (0x1789, 0x178c), (0x178e, 0x1793), (0x1795, 0x1798),
    (0x179b, 0x179d), (0x17a0, 0x17a0), (0x17a2, 0x17a2), (0x17a7, 0x17a7), (0x17ab, 0x17ac),
    (0x17af, 0x17af)]

/-- Marks that are ignorable by default. -/
def ignorableMarks : Array (Nat × Nat) :=
  #[(0x34f, 0x34f), (0x17b4, 0x17b5), (0x180b, 0x180d), (0x180f, 0x180f), (0xfe00, 0xfe0f),
    (0xe0100, 0xe01ef)]

/-- Whether a mark may stand between Arabic letters that join. -/
def isTransparent (c : Char) : Bool :=
  inRanges zeroWidth c.toNat && !inRanges zeroWidthBarriers c.toNat

namespace Ligature

/-- The ligature that a character by itself may be the end of. -/
def ofChar? (c : Char) : Option Ligature :=
  let n := c.toNat
  if n < 0x5dc then none
  else if n == 0x5dc then some (.lamed false)
  else if inRanges alefs n then some .alef
  else if inRanges subjoinable n then some .subjoined
  else if n == 0x1a10 then some (.ya false)
  else if inRanges tifinaghConsonants n then some (.consonant false)
  else if n == 0xa4fc || n == 0xa4fd then some .tone
  else if n == 0x10c03 then some (.orkhonI false)
  else if n == 0x16d67 then some .vowelE
  else if n == 0x16d68 then some .vowelAi
  else none

/-- The ligature with a joiner in front of its letter. -/
def join : Ligature → Ligature
  | .lamed _ => .lamed true
  | .ya _ => .ya true
  | .consonant _ => .consonant true
  | .orkhonI _ => .orkhonI true
  | l => l

/-- Whether variation selectors may stand between the parts. -/
def spansSelectors : Ligature → Bool
  | .vowelE | .vowelAi => false
  | _ => true

/-- Whether joiners and ignorable marks may stand between the parts. -/
def spansMarks : Ligature → Bool
  | .alef | .vowelE | .vowelAi => false
  | _ => true

/-- What a letter in front of an open ligature adds to its columns, and the ligature that is open
then; nothing if the letter has no part in it. -/
def letterBefore? (c : Char) (l : Ligature) : Option (Int × Option Ligature) :=
  let n := c.toNat
  match l with
  | .alef =>
    if inRanges lams n then some (0, none)
    else if isTransparent c then some (0, some .alef)
    else none
  | .lamed joined => if joined && n == 0x5d0 then some (0, none) else none
  | .ya joined => if joined && n == 0x1a17 then some (0, some .vowelYa) else none
  | .vowelYa => if n == 0x1a15 then some (0, none) else none
  | .consonant joined =>
    if n == 0x2d7f then some (1, some .joinedConsonant)
    else if joined && inRanges tifinaghConsonants n then some (0, none)
    else none
  | .joinedConsonant => if inRanges tifinaghConsonants n then some (-1, none) else none
  | .tone => if 0xa4f8 ≤ n && n ≤ 0xa4fb then some (0, none) else none
  | .orkhonI joined => if joined && n == 0x10c32 then some (0, none) else none
  | .subjoined => if n == 0x17d2 then some (-1, none) else none
  | .vowelE =>
    if n == 0x16d63 || n == 0x16d69 then some (0, none)
    else if n == 0x16d67 then some (0, some .vowelAi)
    else if n == 0x16d68 then some (1, some .vowelE)
    else none
  | .vowelAi => if n == 0x16d63 then some (0, none) else none

/-- What any character in front of an open ligature adds, and the ligature that is open then. -/
def before? (c : Char) (l : Ligature) : Option (Int × Option Ligature) :=
  if l.spansMarks && c == joiner then some (0, some l.join)
  else if l.spansMarks && inRanges ignorableMarks c.toNat then some (0, some l)
  else l.letterBefore? c

end Ligature

end PeerLink.Text
