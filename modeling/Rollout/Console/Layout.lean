import Rollout.Text.Blank
import Rollout.Text.Control
import Rollout.Text.Grapheme
import Rollout.Text.Segments

/-!
# The layout of text on a console

A text is printed line by line.  Tabs lead to the next stop, and a line that is wider than the
console is broken between words; a word goes to the next line together with the blanks behind it,
and a word that is wider than the console is cut into pieces.  Blanks at the end of a line that
stand beyond the edge are left out.

* `Console.words`, `Console.wrap` : the words of a line, and the lines they are placed on;
* `Console.printed` : what is printed of a text.
-/

set_option autoImplicit false

namespace Rollout.Console

open Text

/-- The columns from one tab stop to the next. -/
def tabStop : Nat := 8

/-- The parts of a line between its tabs, from a column on, with a blank and further blanks up to the
next tab stop in place of every tab. -/
def joinTabs : Nat → List (List Char) → List Char
  | _, [] => []
  | _, [last] => last
  | column, part :: rest =>
    let column := column + columns (part ++ [' '])
    let room := (tabStop - column % tabStop) % tabStop
    part ++ ' ' :: List.replicate room ' ' ++ joinTabs (column + room) rest

/-- A line with its tabs replaced by blanks. -/
def expandTabs (line : List Char) : List Char := joinTabs 0 (segments '\t' line)

/-! ## Words -/

/-- Whether two neighbours belong to one word: a word starts behind the blanks that end the one
before. -/
def staysInWord (a b : Char) : Bool := !(isSpace a && !isSpace b)

/-- The words of a line, each with the blanks behind it, and the first one with the blanks before
it; a blank line has none. -/
def words (line : List Char) : List (List Char) :=
  match line.splitBy staysInWord with
  | [] => []
  | [only] => if only.all isSpace then [] else [only]
  | first :: second :: rest =>
    if first.all isSpace then (first ++ second) :: rest else first :: second :: rest

/-- Puts characters in front of the first piece. -/
def appendFirst (cs : List Char) : List (List Char) → List (List Char)
  | [] => [cs]
  | piece :: rest => (cs ++ piece) :: rest

/-- A word cut into pieces that fit; `column` is where it starts. -/
def pieces (limit : Nat) : Nat → List Grapheme → List (List Char)
  | _, [] => [[]]
  | column, g :: gs =>
    if limit < column + g.columns then [] :: appendFirst g.text (pieces limit g.columns gs)
    else appendFirst g.text (pieces limit (column + g.columns) gs)

/-! ## Lines -/

/-- Lines that are being filled: those that are full, the last one first, the current one, and the
columns that its words take. -/
structure Filling where
  full : List (List Char) := []
  line : List Char := []
  column : Nat := 0

namespace Filling

/-- Ends the current line, unless nothing stands in it. -/
def endLine (f : Filling) : List (List Char) :=
  if f.line.isEmpty then f.full else f.line :: f.full

/-- Places a word: in the current line if it fits there, else in lines of its own. -/
def place (limit : Nat) (f : Filling) (word : List Char) : Filling :=
  let size := columns (stripEndBy isSpace word)
  if f.column + size ≤ limit then
    { f with line := f.line ++ word, column := f.column + columns word }
  else if size ≤ limit then ⟨f.endLine, word, columns word⟩
  else
    match (pieces limit 0 (graphemes word)).reverse with
    | [] => f
    | last :: before => ⟨before ++ f.endLine, last, columns last⟩

/-- All lines in order. -/
def lines (f : Filling) : List (List Char) := (f.line :: f.full).reverse

end Filling

/-- The graphemes that fit; of a wide one at the edge a blank is left. -/
def takeColumns : Nat → List Grapheme → List Char
  | _, [] => []
  | room, g :: gs =>
    if g.columns ≤ room then g.text ++ takeColumns (room - g.columns) gs
    else List.replicate room ' '

/-- The part of a line that fits. -/
def crop (limit : Nat) (line : List Char) : List Char :=
  if columns line ≤ limit then line else takeColumns limit (graphemes line)

/-- A line without the blanks at its end that stand beyond the edge. -/
def trimEnd (limit : Nat) (line : List Char) : List Char :=
  let blank := line.length - (stripEndBy isSpace line).length
  line.take (line.length - min blank (line.length - limit))

/-- The lines that a line is printed on. -/
def wrap (limit : Nat) (line : List Char) : List (List Char) :=
  let line := expandTabs line
  let placed := match words line with
    | [] => [line]
    | found => (found.foldl (Filling.place limit) {}).lines
  placed.map fun line => crop limit (trimEnd limit line)

/-- What is printed of a text, without the line break at its end. -/
def laidOut (limit : Nat) (text : String) : String :=
  let lines := (segments '\n' (clean text).toList).flatMap (wrap limit)
  join "\n" (lines.map String.ofList)

/-- What is printed of a text. -/
def printed (limit : Nat) (text : String) : String := laidOut limit text ++ "\n"

end Rollout.Console
