import Rollout.Number.Double
import Rollout.Text.Blank

/-!
# Numbers in texts

How a text gives a number where a number is wanted.

* An integer may have blanks around it, a sign, zeros in front, a fraction of zeros behind it and
  single underscores between its digits.  Zeros in front of a minus sign count as zeros in front.
* A decimal has digits on one side of its point at least, and may have an exponent.

`Numeral.integer` and `Numeral.double?` read them; `Numeral.decimal?` reads a decimal with nothing
around it.
-/

set_option autoImplicit false

namespace Rollout.Numeral

/-- The number written by decimal digits. -/
def value (ds : List Char) : Nat := ds.foldl (fun n d => 10 * n + (d.toNat - '0'.toNat)) 0

/-- Whether a text has digits and nothing else. -/
def isDigits (cs : List Char) : Bool := !cs.isEmpty && cs.all Char.isDigit

/-- The value of a hexadecimal digit. -/
def hexDigit? (c : Char) : Option Nat :=
  if '0' ≤ c ∧ c ≤ '9' then some (c.toNat - '0'.toNat)
  else if 'a' ≤ c ∧ c ≤ 'f' then some (c.toNat - 'a'.toNat + 10)
  else if 'A' ≤ c ∧ c ≤ 'F' then some (c.toNat - 'A'.toNat + 10)
  else none

/-- The number written by hexadecimal digits. -/
def hexValue (ds : List Char) : Nat := ds.foldl (fun n d => 16 * n + (hexDigit? d).getD 0) 0

/-- A sign in front of a text, and the rest of it. -/
def sign : List Char → Bool × List Char
  | '-' :: rest => (true, rest)
  | '+' :: rest => (false, rest)
  | cs => (false, cs)

/-- Whether underscores stand only between other characters, one at a time. -/
def underscoresInside : List Char → Bool
  | [] => true
  | ['_'] => false
  | '_' :: '_' :: _ => false
  | _ :: rest => underscoresInside rest

/-- A text without its underscores, if they are well placed. -/
def dropUnderscores? (cs : List Char) : Option (List Char) :=
  if cs.head? = some '_' || !underscoresInside cs then none else some (cs.filter (· ≠ '_'))

/-! ## Integers -/

/-- Why a text gives no integer. -/
inductive NoInteger where
  | malformed
  | tooLong
deriving DecidableEq, Repr

/-- The longest text that is read as an integer, in bytes and without what may be dropped. -/
def maxLength : Nat := 4300

/-- A text without the plus sign in front of it. -/
def dropPlus? : List Char → Option (List Char)
  | '+' :: '-' :: _ => none
  | '+' :: rest => some rest
  | cs => some cs

/-- What is left of a text after the zeros and underscores in front of it, of which the last one
is `last`; it stays if nothing else would stand before a point or the end. -/
def skipZeros? (last : Char) : List Char → Option (List Char)
  | [] => some [last]
  | c :: cs =>
    if c = '0' ∨ c = '_' then skipZeros? c cs
    else if c = '.' then some (last :: c :: cs)
    else if c = '-' ∨ c.isDigit then some (c :: cs)
    else none

/-- A text without zeros in front, if it starts as an integer does. -/
def dropZeros? : List Char → Option (List Char)
  | [] => none
  | c :: cs =>
    if c = '0' then skipZeros? c cs
    else if c = '-' ∨ c.isDigit then some (c :: cs)
    else none

/-- A text without a fraction of zeros. -/
def dropZeroFraction (cs : List Char) : List Char :=
  let places := (cs.dropWhile (· ≠ '.')).drop 1
  if !places.isEmpty && places.all (· = '0') then cs.takeWhile (· ≠ '.') else cs

/-- A text without all that an integer may have besides its minus sign and its digits. -/
def bare? (cs : List Char) : Option (List Char) :=
  ((dropPlus? (Text.stripBy Text.isWhite cs)).bind dropZeros?).bind fun cs =>
    dropUnderscores? (dropZeroFraction cs)

/-- The integer written by a minus sign and digits, with nothing else. -/
def plain? : List Char → Option Int
  | '-' :: ds => if isDigits ds then some (-(value ds : Int)) else none
  | ds => if isDigits ds then some (value ds) else none

/-- The integer that a text stands for. -/
def integer (s : String) : Except NoInteger Int :=
  match bare? s.toList with
  | none => .error .malformed
  | some cs =>
    if maxLength < (String.ofList cs).utf8ByteSize then .error .tooLong
    else
      match plain? cs with
      | some i => .ok i
      | none => .error .malformed

/-! ## Decimals -/

/-- The exponent that is a whole text, or none for the empty one. -/
def exponent? : List Char → Option Int
  | [] => some 0
  | mark :: rest =>
    if mark = 'e' ∨ mark = 'E' then
      let (negative, ds) := sign rest
      if isDigits ds then some (Double.signed negative (value ds)) else none
    else none

/-- The double nearest to the decimal that is a whole text. -/
def decimal? (cs : List Char) : Option Double :=
  let (negative, cs) := sign cs
  let whole := cs.takeWhile Char.isDigit
  let rest := cs.dropWhile Char.isDigit
  let (places, rest) := match rest with
    | '.' :: more => (more.takeWhile Char.isDigit, more.dropWhile Char.isDigit)
    | _ => ([], rest)
  if whole.isEmpty && places.isEmpty then none
  else (exponent? rest).map fun e =>
    .ofDecimal negative (value (whole ++ places)) (e - places.length)

/-- The double that a text without blanks stands for; an infinity and a NaN have their names. -/
def named? (cs : List Char) : Option Double :=
  let (negative, name) := sign cs
  let name := String.ofList (name.map Char.toLower)
  if name = "inf" ∨ name = "infinity" then some (.infinite negative)
  else if name = "nan" then some .nan
  else decimal? cs

/-- The double that a text stands for: it may have blanks around it or underscores inside, but not
both. -/
def double? (s : String) : Option Double :=
  match named? (Text.stripBy Text.isWhite s.toList) with
  | some x => some x
  | none => (dropUnderscores? s.toList).bind named?

end Rollout.Numeral
