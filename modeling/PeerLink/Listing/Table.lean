import PeerLink.Text.Columns
import PeerLink.Text.Graphemes

/-! # Tables

Texts in a box of lines: a heading and rows of cells. A cell is as wide as its longest line, up to a
bound beyond which its lines are broken.

* `Table`: a heading and rows.
* `Table.breakLine`: a line broken to a width, at spaces as far as they go.
* `Table.render`: the box.
-/

namespace PeerLink

structure Table where
  heading : List String
  /-- The cells of each row, as many as there are titles. -/
  rows : List (List String)
  deriving DecidableEq, Repr

namespace Table

/-- The most columns of text that a cell shows side by side. -/
def maxWidth : Nat := 65535

/-! ## Lines of a cell -/

/-- The clusters from the beginning that fit into a number of columns, and the others. -/
def spanFitting : Nat → List (List Char) → List (List Char) × List (List Char)
  | _, [] => ([], [])
  | width, c :: rest =>
    if Text.columns c ≤ width then
      let (front, rest) := spanFitting (width - Text.columns c) rest
      (c :: front, rest)
    else ([], c :: rest)

/-- The front of a text that fits into a number of columns, and the rest. No cluster is divided. -/
def splitAtWidth (width : Nat) (cs : List Char) : List Char × List Char :=
  let (front, rest) := spanFitting width (Text.clusters cs)
  (front.flatten, rest.flatten)

/-- A line with this little room left counts as full. -/
def spareColumns : Nat := 2

/-- Lines that are complete, and the one that is being filled. -/
structure Filling where
  /-- The complete lines, the last one first. -/
  lines : List (List Char)
  /-- The line that is being filled, the last character first. -/
  current : List Char
  /-- The columns of that line. -/
  width : Nat

namespace Filling

def empty : Filling := ⟨[], [], 0⟩

/-- Adds a word or a space to the line that is being filled. Words on both sides of a space are
measured apart, since nothing is shown as one sign across a space. -/
def add (cs : List Char) (f : Filling) : Filling :=
  { f with current := cs.reverse ++ f.current, width := f.width + Text.columns cs }

/-- Completes the line that is being filled. -/
def complete (f : Filling) : Filling := ⟨f.current.reverse :: f.lines, [], 0⟩

/-- Completes the line that is being filled if it is nearly full. -/
def completeIfFull (limit : Nat) (f : Filling) : Filling :=
  if limit - spareColumns < f.width then f.complete else f

end Filling

/-- Breaks words into lines of a limited width. A word that fits goes on the line; a word longer
than a line fills the line up and goes on in the next one; any other word starts a new line. Every
round takes a word, takes characters of one, or completes a line that is not empty. -/
def fill (limit : Nat) : Nat → List (List Char) → Filling → Filling
  | 0, _, f => f
  | _, [], f => f
  | rounds + 1, word :: words, f =>
    let fresh := f.current.isEmpty
    let gap := if fresh then [] else [' ']
    let room := limit - f.width - gap.length
    if Text.columns word + f.width + gap.length ≤ limit then
      fill limit rounds words (((f.add gap).add word).completeIfFull limit)
    else if !fresh && room ≤ spareColumns then fill limit rounds (word :: words) f.complete
    else if limit < Text.columns word then
      let (front, rest) := splitAtWidth room word
      let (front, rest) :=
        if fresh && front.isEmpty then (rest.take 1, rest.drop 1) else (front, rest)
      fill limit rounds (rest :: words) ((f.add gap).add front).complete
    else fill limit rounds words ((f.complete.add word).completeIfFull limit)

def words (cs : List Char) : List (List Char) := cs.splitOn ' '

def breakLine (limit : Nat) (cs : List Char) : List (List Char) :=
  if Text.columns cs ≤ limit then [cs]
  else
    let f := fill limit (3 * cs.length + 3) (words cs) .empty
    (if f.current.isEmpty then f else f.complete).lines.reverse

def lines (s : String) : List (List Char) := s.toList.splitOn '\n'

/-- The width of a text's longest line, up to the bound. -/
def cellWidth (s : String) : Nat :=
  min ((lines s).foldl (fun w l => max w (Text.columns l)) 0) maxWidth

/-! ## The box -/

def widths (t : Table) : List Nat :=
  t.rows.foldl (fun ws row => (ws.zip row).map fun (w, cell) => max w (cellWidth cell))
    (t.heading.map cellWidth)

/-- The characters of a horizontal line: its ends, its run and its crossings. -/
structure Rule where
  left : Char
  /-- Between crossings. -/
  run : Char
  /-- Where a column ends. -/
  crossing : Char
  right : Char

def Rule.top : Rule := ⟨'┌', '─', '┬', '┐'⟩

def Rule.heading : Rule := ⟨'╞', '═', '╪', '╡'⟩

def Rule.between : Rule := ⟨'├', '╌', '┼', '┤'⟩

def Rule.bottom : Rule := ⟨'└', '─', '┴', '┘'⟩

/-- A horizontal line over columns of the given widths, with a space on either side of the text. No
run is longer than the bound on text. -/
def Rule.draw (r : Rule) (ws : List Nat) : List Char :=
  let runs := ws.map fun w => List.replicate (min (w + 2) maxWidth) r.run
  r.left :: (List.intercalate [r.crossing] runs ++ [r.right])

/-- A line of a cell, filled up to the width of its column. -/
def pad (w : Nat) (cs : List Char) : List Char :=
  ' ' :: (cs ++ List.replicate (w - Text.columns cs) ' ' ++ [' '])

/-- The lines of a row: as many as its tallest cell has. -/
def rowLines (ws : List Nat) (row : List String) : List (List Char) :=
  let cells := (ws.zip row).map fun (w, cell) => (w, (lines cell).flatMap (breakLine w))
  let height := cells.foldl (fun h (_, ls) => max h ls.length) 0
  (List.range height).map fun i =>
    '│' :: (List.intercalate ['┆'] (cells.map fun (w, ls) => pad w (ls.getD i [])) ++ ['│'])

/-- The rows with a line between any two. -/
def rowsLines (ws : List Nat) : List (List String) → List (List Char)
  | [] => []
  | [row] => rowLines ws row
  | row :: rest => rowLines ws row ++ Rule.between.draw ws :: rowsLines ws rest

def render (t : Table) : String :=
  let ws := t.widths
  let all := Rule.top.draw ws :: rowLines ws t.heading
    ++ Rule.heading.draw ws :: (rowsLines ws t.rows ++ [Rule.bottom.draw ws])
  String.ofList (List.intercalate ['\n'] all)

end Table

end PeerLink
