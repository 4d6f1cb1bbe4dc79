import PeerLink.Text.Ligatures
import PeerLink.Text.Pictographs

/-! # Terminal columns

The number of columns that a line takes in a fixed-width font. By itself a character takes one
column, a combining character none, a wide one two. Pictographs with their selectors, and letters
that form a ligature, are shown as one sign and counted once. Which character of such a sequence
takes the columns depends on what stands after it, so a line is measured from its end.

* `charColumns`: the columns of one character by itself.
* `Follower`: what stands after a character, as far as that matters.
* `Measure.before`: one more character in front of what was measured.
* `columns`: the columns of a line.
-/

namespace PeerLink.Text

/-- The columns of one character by itself. -/
def charColumns (c : Char) : Nat :=
  let n := c.toNat
  if n ≤ 0xa0 then 1
  else if n == 0x17d8 then 3
  else if inRanges zeroWidth n then 0
  else if inRanges wide n then 2
  else 1

/-! ## What stands after a character -/

/-- A form that a variation selector asks for. -/
inductive Selector where
  | text
  | picture
  /-- A quotation mark as wide as an ideograph. -/
  | fullWidth
  deriving DecidableEq, Repr

/-- The form that a character asks for, if it is a selector. -/
def Selector.ofChar? (c : Char) : Option Selector :=
  match c.toNat with
  | 0xfe01 => some .fullWidth
  | 0xfe0e => some .text
  | 0xfe0f => some .picture
  | _ => none

/-- What stands after a character, as far as that matters. -/
inductive Follower where
  /-- Nothing that matters. -/
  | plain
  | pictograph (p : Pictograph)
  | ligature (l : Ligature)
  deriving DecidableEq, Repr

namespace Follower

/-- What a character by itself is to the one in front of it. -/
def ofChar (c : Char) : Follower :=
  match Pictograph.ofChar? c, Ligature.ofChar? c with
  | some p, _ => .pictograph p
  | none, some l => .ligature l
  | none, none => .plain

/-- Whether it matters across a selector. -/
def keeps (s : Selector) : Follower → Bool
  | .plain => false
  | .pictograph p => s == .picture && p.awaitsSelected
  | .ligature l => l.spansSelectors

/-- Whether it is a picture that a selected character in front of it is joined to. -/
def awaitsSelected : Follower → Bool
  | .pictograph p => p.awaitsSelected
  | _ => false

/-- What a character in front adds, and what stands there then; nothing if the two have nothing to
do with each other. -/
def before? (c : Char) : Follower → Option (Int × Follower)
  | .plain => none
  | .pictograph p => (p.before? c).map fun (n, p) => (n, p.elim .plain .pictograph)
  | .ligature l => (l.before? c).map fun (n, l) => (n, l.elim .plain .ligature)

end Follower

/-! ## Measuring -/

/-- The end of a line that was measured. -/
structure Measure where
  /-- What it begins with, apart from a selector. -/
  follower : Follower
  /-- The selector that it begins with. -/
  selector : Option Selector
  total : Nat

namespace Measure

def zero : Measure := ⟨.plain, none, 0⟩

/-- A character in front that adds columns, or makes one of those counted superfluous. -/
def put (follower : Follower) (added : Int) (m : Measure) : Measure :=
  ⟨follower, none, (m.total + added).toNat⟩

def select (s : Selector) (m : Measure) : Measure :=
  ⟨if m.follower.keeps s then m.follower else .plain, some s, m.total⟩

/-- The same without its selector, which found no character to act on. Pictures are not joined
across it, ligatures are. -/
def unselect (m : Measure) : Measure :=
  match m.selector, m.follower with
  | some _, .pictograph _ => ⟨.plain, none, m.total⟩
  | _, _ => { m with selector := none }

/-- Whether a character is a quotation mark that has a full-width form. -/
def isQuotationMark (c : Char) : Bool :=
  c == '\u2018' || c == '\u2019' || c == '\u201c' || c == '\u201d'

/-- A character in front of a selector that acts on it. -/
def selected? (c : Char) (m : Measure) : Option Measure :=
  match m.selector with
  | some .picture =>
    if isSelectable c then
      some (m.put (.pictograph .shown) (if m.follower.awaitsSelected then 0 else 2))
    else none
  | some .text => if hasNarrowForm c then some (m.put .plain 1) else none
  | some .fullWidth => if isQuotationMark c then some (m.put .plain 2) else none
  | none => none

/-- A character in front that no selector acts on. -/
def beforeUnselected (c : Char) (m : Measure) : Measure :=
  if c.toNat ≤ 0xa0 then m.put .plain 1
  else
    match Selector.ofChar? c, m.follower.before? c with
    | some s, _ => m.select s
    | none, some (added, follower) => m.put follower added
    | none, none => m.put (.ofChar c) (charColumns c)

def before (c : Char) (m : Measure) : Measure :=
  (m.selected? c).getD (m.unselect.beforeUnselected c)

end Measure

def columns (cs : List Char) : Nat := (cs.foldr Measure.before Measure.zero).total

end PeerLink.Text
