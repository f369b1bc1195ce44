import Rollout.Console.Table

/-!
# Panels

A panel is a box across the whole console with a title in its upper edge.  It holds rows of texts
that stand in columns, with two blanks between a column and the next one.  The texts are taken to be
one column a character and to fit.
-/

set_option autoImplicit false

namespace Rollout.Console

/-- A text with blanks behind it, up to a width. -/
def padTo (width : Nat) (text : String) : String := text ++ blanks (width - text.length)

/-- A panel. -/
structure Panel where
  title : String
  rows : List (List String)
deriving DecidableEq, Repr

namespace Panel

/-- The widths of the columns. -/
def widths (p : Panel) : List Nat :=
  let size := (p.rows.map List.length).foldl max 0
  (List.range size).map fun i => (p.rows.map fun row => (row.getD i "").length).foldl max 0

/-- The texts of a row, each in its column. -/
def rowText (p : Panel) (row : List String) : String :=
  Text.join "  " (List.zipWith padTo p.widths row)

/-- The lines of a panel on a console of a width. -/
def lines (width : Nat) (p : Panel) : List String :=
  let bar := fun n => String.ofList (List.replicate n '─')
  ["╭─ " ++ p.title ++ " " ++ bar (width - 5 - p.title.length) ++ "╮"]
    ++ p.rows.map (fun row => "│ " ++ padTo (width - 4) (p.rowText row) ++ " │")
    ++ ["╰" ++ bar (width - 2) ++ "╯"]

end Panel

end Rollout.Console
