import Rollout.Value.Basic
import Rollout.Number.Shortest
import Rollout.Text.Quoted

/-!
# The text of a value

Plans and drift reports show values on one line: strings quoted, `None` for null, and brackets
around lists and objects.
-/

set_option autoImplicit false

namespace Rollout.Value

mutual

/-- A value as a report shows it. -/
def text : Value → String
  | .null => "None"
  | .bool b => if b then "True" else "False"
  | .int i => toString i
  | .double x => x.text
  | .str s => Text.quoted s
  | .list items => "[" ++ ", ".intercalate (textList items) ++ "]"
  | .object fields => "\x7b" ++ ", ".intercalate (textFields fields) ++ "\x7d"

/-- The texts of the items of a list. -/
def textList : List Value → List String
  | [] => []
  | v :: rest => text v :: textList rest

/-- The texts of the entries of an object. -/
def textFields : List (String × Value) → List String
  | [] => []
  | (key, v) :: rest => (Text.quoted key ++ ": " ++ text v) :: textFields rest

end

/-- A value as a name: a string stands for itself, any other value for its text. -/
def nameText : Value → String
  | .str s => s
  | v => v.text

end Rollout.Value
