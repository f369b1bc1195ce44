import Rollout.Value.Basic
import Rollout.Number.Shortest
import Rollout.Text.Quoted

/-!
# Writing JSON

Values are written on one line in ASCII, with `", "` between items and `": "` after a key.
`Json.write` keeps the order of object keys, `Json.writeSorted` sorts them by code point.
-/

set_option autoImplicit false

namespace Rollout.Json

/-- A character outside ASCII as one code, or as the two codes of a surrogate pair. -/
def unicodeEscape (n : Nat) : String :=
  if n < 0x10000 then "\\u" ++ Text.hex 4 n
  else
    let n := n - 0x10000
    "\\u" ++ Text.hex 4 (0xD800 + n / 0x400) ++ "\\u" ++ Text.hex 4 (0xDC00 + n % 0x400)

/-- A character of a string. -/
def stringChar (c : Char) : String :=
  if c = '"' then "\\\""
  else if c = '\\' then "\\\\"
  else if c = '\n' then "\\n"
  else if c = '\r' then "\\r"
  else if c = '\t' then "\\t"
  else if c = '\x08' then "\\b"
  else if c = '\x0c' then "\\f"
  else if 0x20 ≤ c.toNat ∧ c.toNat < 0x7F then String.singleton c
  else unicodeEscape c.toNat

/-- A string in double quotes. -/
def string (s : String) : String := "\"" ++ String.join (s.toList.map stringChar) ++ "\""

/-- A double; the values that no JSON number stands for are written as names. -/
def double : Double → String
  | .infinite negative => if negative then "-Infinity" else "Infinity"
  | .nan => "NaN"
  | x => x.text

mutual

/-- A value as JSON. -/
def write : Value → String
  | .null => "null"
  | .bool b => if b then "true" else "false"
  | .int i => toString i
  | .double x => double x
  | .str s => string s
  | .list items => "[" ++ ", ".intercalate (writeList items) ++ "]"
  | .object fields => "\x7b" ++ ", ".intercalate (writeFields fields) ++ "\x7d"

/-- The texts of the items of a list. -/
def writeList : List Value → List String
  | [] => []
  | v :: rest => write v :: writeList rest

/-- The texts of the entries of an object. -/
def writeFields : List (String × Value) → List String
  | [] => []
  | (key, v) :: rest => (string key ++ ": " ++ write v) :: writeFields rest

end

/-- Sorts entries by key, keys being compared by code points. -/
def sortEntries {α : Type} (entries : List (String × α)) : List (String × α) :=
  entries.mergeSort fun a b => decide (a.1 ≤ b.1)

mutual

/-- A value with the keys of all its objects in ascending order. -/
def sorted : Value → Value
  | .list items => .list (sortedList items)
  | .object fields => .object (sortEntries (sortedFields fields))
  | v => v

/-- Sorts the keys in each item. -/
def sortedList : List Value → List Value
  | [] => []
  | v :: rest => sorted v :: sortedList rest

/-- Sorts the keys in each entry's value. -/
def sortedFields : List (String × Value) → List (String × Value)
  | [] => []
  | (key, v) :: rest => (key, sorted v) :: sortedFields rest

end

/-- A value as JSON, the keys of its objects in ascending order. -/
def writeSorted (v : Value) : String := write (sorted v)

end Rollout.Json
