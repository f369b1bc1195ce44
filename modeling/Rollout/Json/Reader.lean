import Rollout.Number.Numeral
import Rollout.Value.Basic

/-!
# Reading JSON

A number without a point and without an exponent is an integer of any size, any other number a
double.  An object that has a key twice keeps the last value at the place of the first.  Besides
the standard's values, `NaN`, `Infinity` and `-Infinity` are read as doubles.
-/

set_option autoImplicit false

namespace Rollout.Json

/-- Drops blanks. -/
def skipBlank (cs : List Char) : List Char :=
  cs.dropWhile fun c => c = ' ' || c = '\n' || c = '\r' || c = '\t'

/-- The digits in front of a text, and the rest of it. -/
def spanDigits (cs : List Char) : List Char × List Char :=
  (cs.takeWhile Char.isDigit, cs.dropWhile Char.isDigit)

/-- An exponent in front of a text, and the rest of it. -/
def exponent? : List Char → Option (Int × List Char)
  | mark :: rest =>
    if mark = 'e' ∨ mark = 'E' then
      let (negative, digits) := Numeral.sign rest
      let (ds, after) := spanDigits digits
      if ds.isEmpty then none
      else some (Double.signed negative (Numeral.value ds), after)
    else none
  | [] => none

/-- The digits after a point in front of a text, and the rest of it. -/
def decimals? : List Char → Option (List Char × List Char)
  | '.' :: rest =>
    let (ds, after) := spanDigits rest
    if ds.isEmpty then none else some (ds, after)
  | _ => none

/-- A number without its sign. -/
def unsigned? (negative : Bool) (cs : List Char) : Option (Value × List Char) :=
  let (ds, afterWhole) := match cs with
    | '0' :: rest => (['0'], rest)
    | _ => spanDigits cs
  if ds.isEmpty then none
  else
    let (places, afterPoint) := (decimals? afterWhole).getD ([], afterWhole)
    match places, exponent? afterPoint with
    | [], none => some (.int (Double.signed negative (Numeral.value ds)), afterPoint)
    | _, e =>
      let (power, rest) := e.getD (0, afterPoint)
      some (.double (.ofDecimal negative (Numeral.value (ds ++ places)) (power - places.length)), rest)

/-- A code of four hexadecimal digits, and the rest of the text. -/
def code? : List Char → Option (Nat × List Char)
  | a :: b :: c :: d :: rest =>
    match Numeral.hexDigit? a, Numeral.hexDigit? b, Numeral.hexDigit? c, Numeral.hexDigit? d with
    | some a, some b, some c, some d => some (((a * 16 + b) * 16 + c) * 16 + d, rest)
    | _, _, _, _ => none
  | _ => none

/-- The character of an escape by code, after its `u`: two codes of a surrogate pair make one
character, and half a pair stands for the replacement character. -/
def coded? (cs : List Char) : Option (Char × List Char) :=
  match code? cs with
  | none => none
  | some (high, rest) =>
    if 0xD800 ≤ high ∧ high < 0xDC00 then
      match rest with
      | '\\' :: 'u' :: more =>
        match code? more with
        | some (low, after) =>
          if 0xDC00 ≤ low ∧ low < 0xE000 then
            some (Char.ofNat (0x10000 + (high - 0xD800) * 0x400 + (low - 0xDC00)), after)
          else some ('\uFFFD', rest)
        | none => some ('\uFFFD', rest)
      | _ => some ('\uFFFD', rest)
    else if 0xDC00 ≤ high ∧ high < 0xE000 then some ('\uFFFD', rest)
    else some (Char.ofNat high, rest)

/-- The character of an escape after its backslash, and the rest of the text. -/
def escape? : List Char → Option (Char × List Char)
  | '"' :: r => some ('"', r)
  | '\\' :: r => some ('\\', r)
  | '/' :: r => some ('/', r)
  | 'b' :: r => some ('\x08', r)
  | 'f' :: r => some ('\x0c', r)
  | 'n' :: r => some ('\n', r)
  | 'r' :: r => some ('\r', r)
  | 't' :: r => some ('\t', r)
  | 'u' :: r => coded? r
  | _ => none

/-- The rest of a string after its opening quote; `done` holds the characters read so far, the last
one first. -/
def string? : Nat → List Char → List Char → Option (String × List Char)
  | 0, _, _ => none
  | _ + 1, _, [] => none
  | fuel + 1, done, c :: rest =>
    if c = '"' then some (String.ofList done.reverse, rest)
    else if c = '\\' then
      match escape? rest with
      | some (c, after) => string? fuel (c :: done) after
      | none => none
    else if c.toNat < 0x20 then none
    else string? fuel (c :: done) rest

/-- Drops a word in front of a text. -/
def word? (word : List Char) (cs : List Char) : Option (List Char) :=
  if word.isPrefixOf cs then some (cs.drop word.length) else none

/-- A literal or a number. -/
def atom? (cs : List Char) : Option (Value × List Char) :=
  let literals : List (String × Value) :=
    [("null", .null), ("true", .bool true), ("false", .bool false),
      ("NaN", .double .nan), ("Infinity", .double (.infinite false)),
      ("-Infinity", .double (.infinite true))]
  match literals.findSome? fun (w, v) => (word? w.toList cs).map (v, ·) with
  | some found => some found
  | none =>
    match cs with
    | '-' :: rest => unsigned? true rest
    | _ => unsigned? false cs

mutual

/-- A value in front of a text, and the rest of it.  Each step reads at least one character, so the
length of the text is enough fuel. -/
def value? : Nat → List Char → Option (Value × List Char)
  | 0, _ => none
  | fuel + 1, cs =>
    match skipBlank cs with
    | '"' :: rest => (string? (rest.length + 1) [] rest).map fun (s, after) => (.str s, after)
    | '[' :: rest =>
      match skipBlank rest with
      | ']' :: after => some (.list [], after)
      | _ => (items? fuel rest).map fun (items, after) => (.list items, after)
    | '\x7b' :: rest =>
      match skipBlank rest with
      | '\x7d' :: after => some (.object [], after)
      | _ => (entries? fuel rest).map fun (fields, after) => (.object (Assoc.ofList fields), after)
    | cs => atom? cs

/-- The items of a list up to its closing bracket. -/
def items? : Nat → List Char → Option (List Value × List Char)
  | 0, _ => none
  | fuel + 1, cs =>
    match value? fuel cs with
    | none => none
    | some (v, rest) =>
      match skipBlank rest with
      | ',' :: more => (items? fuel more).map fun (items, after) => (v :: items, after)
      | ']' :: after => some ([v], after)
      | _ => none

/-- The entries of an object up to its closing brace. -/
def entries? : Nat → List Char → Option (List (String × Value) × List Char)
  | 0, _ => none
  | fuel + 1, cs =>
    match skipBlank cs with
    | '"' :: rest =>
      match string? (rest.length + 1) [] rest with
      | none => none
      | some (key, afterKey) =>
        match skipBlank afterKey with
        | ':' :: more =>
          match value? fuel more with
          | none => none
          | some (v, rest) =>
            match skipBlank rest with
            | ',' :: more =>
              (entries? fuel more).map fun (fields, after) => ((key, v) :: fields, after)
            | '\x7d' :: after => some ([(key, v)], after)
            | _ => none
        | _ => none
    | _ => none

end

/-- Reads a JSON text. -/
def read (s : String) : Option Value :=
  let cs := s.toList
  match value? (cs.length + 1) cs with
  | some (v, rest) => if (skipBlank rest).isEmpty then some v else none
  | none => none

end Rollout.Json
