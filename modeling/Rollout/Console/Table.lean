import Rollout.Text.Segments

/-!
# Tables

A table has a title, and columns with a header and one cell a row.  It is drawn in a box with heavy
lines around the headers.  A column is as wide as its widest text, and every text has one blank on
either side; the title stands in the middle above the box.  The texts are taken to be one column a
character, which holds of what tables show here: names of phases, numbers and times.
-/

set_option autoImplicit false

namespace Rollout.Console

/-- A column of a table. -/
structure Column where
  header : String
  /-- Whether the texts stand at the right end of the column. -/
  right : Bool := false
  cells : List String
deriving DecidableEq, Repr

/-- A table with a title. -/
structure Table where
  title : String
  columns : List Column
deriving DecidableEq, Repr

/-- What a line of a box is drawn with: its start, what stands between two columns, and its end. -/
structure Frame where
  first : String
  between : String
  last : String

namespace Frame

/-- The line of a box through texts. -/
def line (f : Frame) (texts : List String) : String :=
  f.first ++ Text.join f.between texts ++ f.last

/-- The line of a box that parts rows. -/
def ruler (f : Frame) (bar : Char) (widths : List Nat) : String :=
  f.line (widths.map fun w => String.ofList (List.replicate (w + 2) bar))

end Frame

/-- So many blanks. -/
def blanks (n : Nat) : String := String.ofList (List.replicate n ' ')

namespace Column

/-- The width of the widest text. -/
def width (c : Column) : Nat := (c.cells.map String.length).foldl max c.header.length

/-- A text in its column. -/
def place (c : Column) (text : String) : String :=
  let room := blanks (c.width - text.length)
  " " ++ (if c.right then room ++ text else text ++ room) ++ " "

end Column

namespace Table

/-- The number of rows. -/
def height (t : Table) : Nat := (t.columns.map fun c => c.cells.length).foldl max 0

/-- The texts of a row, each in its column. -/
def row (t : Table) (i : Nat) : List String :=
  t.columns.map fun c => c.place (c.cells.getD i "")

/-- The width of the box. -/
def width (t : Table) : Nat := t.columns.foldl (fun total c => total + c.width + 3) 1

/-- The title in the middle above the box. -/
def titleLine (t : Table) : String :=
  let room := t.width - t.title.length
  blanks (room / 2) ++ t.title ++ blanks (room - room / 2)

/-- The lines of a drawn table. -/
def lines (t : Table) : List String :=
  let widths := t.columns.map Column.width
  [t.titleLine,
    Frame.ruler ⟨"┏", "┳", "┓"⟩ '━' widths,
    Frame.line ⟨"┃", "┃", "┃"⟩ (t.columns.map fun c => c.place c.header),
    Frame.ruler ⟨"┡", "╇", "┩"⟩ '━' widths]
  ++ (List.range t.height).map (fun i => Frame.line ⟨"│", "│", "│"⟩ (t.row i))
  ++ [Frame.ruler ⟨"└", "┴", "┘"⟩ '─' widths]

/-- A drawn table. -/
def render (t : Table) : String := String.join (t.lines.map (· ++ "\n"))

end Table

end Rollout.Console
