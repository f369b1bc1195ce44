import Rollout.Number.Numeral
import Rollout.Text.Blank
import Rollout.Text.Quoted
import Rollout.Text.Word

/-!
# Literals

The parameters of a handler are written as a literal: a number, texts in quotes, `True`, `False`,
`None`, `...`, or a tuple, a set or a dictionary of literals.  A number may have a sign, and an
imaginary number may be added to a real one.  The items of a set and the keys of a dictionary must
be such as never change, which sets and dictionaries are not.

* `Literal.isLiteral` : whether a text is a literal, or several with commas between them.
-/

set_option autoImplicit false

namespace Rollout.Console.Literal

/-- What has to be known of a literal that stands inside another one. -/
inductive Kind where
  | number (imaginary signed : Bool)
  /-- Anything else that never changes. -/
  | fixed
  /-- What may change: a set, a dictionary, or a tuple that holds one. -/
  | mutable
deriving DecidableEq, Repr

/-- Reads one literal in front of a text, and gives the rest of the text. -/
abbrev Reader := List Char → Option (Kind × List Char)

/-- The text after blanks, and after a comment, which ends the text. -/
def skip (cs : List Char) : List Char :=
  let rest := cs.dropWhile fun c => c = ' ' || c = '\t' || c = '\x0c'
  if rest.head? = some '#' then [] else rest

/-! ## Numbers -/

/-- Digits with single underscores in front of them, and the rest of the text. -/
def moreDigits (isDigit : Char → Bool) : List Char → List Char × List Char
  | '_' :: c :: cs =>
    if isDigit c then
      let (ds, rest) := moreDigits isDigit cs
      (c :: ds, rest)
    else ([], '_' :: c :: cs)
  | c :: cs =>
    if isDigit c then
      let (ds, rest) := moreDigits isDigit cs
      (c :: ds, rest)
    else ([], c :: cs)
  | [] => ([], [])

/-- Decimal digits with single underscores between them, and the rest of the text. -/
def digits (cs : List Char) : List Char × List Char :=
  if cs.head?.any Char.isDigit then moreDigits Char.isDigit cs else ([], cs)

/-- The text after an exponent, if there is one. -/
def exponent? : List Char → Option (List Char)
  | [] => none
  | mark :: cs =>
    let (ds, rest) := digits (Numeral.sign cs).2
    if (mark = 'e' ∨ mark = 'E') ∧ !ds.isEmpty then some rest else none

/-- Whether digits are an integer: no zero stands in front, and they are not too many. -/
def isInteger (ds : List Char) : Bool :=
  ds.length ≤ Numeral.maxLength && (ds.head? ≠ some '0' || ds.all (· = '0'))

/-- A decimal number. -/
def decimal? : Reader := fun cs =>
  let (whole, rest) := digits cs
  let (places, afterPlaces) := digits (rest.drop 1)
  let hasPoint := rest.head? = some '.'
  let rest := if hasPoint then afterPlaces else rest
  if whole.isEmpty && (!hasPoint || places.isEmpty) then none
  else
    let exponent := exponent? rest
    let rest := exponent.getD rest
    match rest with
    | 'j' :: rest | 'J' :: rest => some (.number true false, rest)
    | _ =>
      if hasPoint || exponent.isSome || isInteger whole then some (.number false false, rest)
      else none

/-- An integer to another base, behind its mark. -/
def based? (isDigit : Char → Bool) : Reader := fun cs =>
  let (ds, rest) := moreDigits isDigit cs
  if ds.isEmpty then none else some (.number false false, rest)

/-- A number without a sign. -/
def number? : Reader
  | '0' :: mark :: cs =>
    if mark = 'x' ∨ mark = 'X' then based? (fun c => (Numeral.hexDigit? c).isSome) cs
    else if mark = 'o' ∨ mark = 'O' then based? (fun c => '0' ≤ c && c ≤ '7') cs
    else if mark = 'b' ∨ mark = 'B' then based? (fun c => c = '0' || c = '1') cs
    else decimal? ('0' :: mark :: cs)
  | cs => decimal? cs

/-! ## Texts in quotes -/

/-- The number of a code of so many hexadecimal digits in front of a text. -/
def code? (length : Nat) (cs : List Char) : Option Nat :=
  let ds := cs.take length
  if ds.length = length && ds.all fun c => (Numeral.hexDigit? c).isSome then
    some (Numeral.hexValue ds)
  else none

/-- Whether an escape can be read: the character behind the backslash, and the text after it.  A
text of bytes has codes of two digits only. -/
def isEscape (bytes : Bool) (c : Char) (cs : List Char) : Bool :=
  if c = 'x' then (code? 2 cs).isSome
  else if bytes then true
  else if c = 'u' then (code? 4 cs).isSome
  else if c = 'U' then (code? 8 cs).any (· ≤ 0x10FFFF)
  else if c = 'N' then cs.head? = some '{' && (cs.drop 1).head? ≠ some '}' && cs.contains '}'
  else true

/-- Whether all escapes of a text can be read. -/
def escapesFit (bytes : Bool) : List Char → Bool
  | '\\' :: c :: cs => isEscape bytes c cs && escapesFit bytes cs
  | _ :: cs => escapesFit bytes cs
  | [] => true

/-- The letters that may stand in front of a quote. -/
def marks : List String := ["", "r", "u", "b", "br", "rb"]

/-- A text in quotes: whether it is one of bytes, and the rest. -/
def quoted? (cs : List Char) : Option (Bool × List Char) :=
  let mark := (cs.takeWhile Char.isAlpha).map Char.toLower
  match cs.dropWhile Char.isAlpha with
  | [] => none
  | quote :: rest =>
    if (quote = '"' ∨ quote = '\'') ∧ String.ofList mark ∈ marks then
      let isLong := [quote, quote].isPrefixOf rest
      let (closing, rest) :=
        if isLong then ([quote, quote, quote], rest.drop 2) else ([quote], rest)
      let bytes := mark.contains 'b'
      match Text.untilQuote? closing rest with
      | none => none
      | some (inside, rest) =>
        let fits := (mark.contains 'r' || escapesFit bytes inside)
          && (!bytes || inside.all fun c => c.toNat < 128)
        if fits then some (bytes, rest) else none
    else none

/-- Texts in quotes next to each other, all of them of bytes or none; so many at most. -/
def texts? : Nat → List Char → Option (Bool × List Char)
  | 0, _ => none
  | fuel + 1, cs =>
    match quoted? cs with
    | none => none
    | some (bytes, rest) =>
      match texts? fuel (skip rest) with
      | none => some (bytes, rest)
      | some (others, rest) => if others = bytes then some (bytes, rest) else none

/-! ## Words -/

/-- A word that is a literal, or an empty set. -/
def word? : Reader := fun cs =>
  let word := String.ofList (cs.takeWhile Text.isWord)
  let rest := cs.dropWhile Text.isWord
  if word = "True" ∨ word = "False" ∨ word = "None" then some (.fixed, rest)
  else if word = "set" then
    match skip rest with
    | '(' :: rest =>
      match skip rest with
      | ')' :: rest => some (.mutable, rest)
      | _ => none
    | _ => none
  else none

/-- A literal that holds no other. -/
def simple? : Reader := fun cs =>
  match texts? (cs.length + 1) cs with
  | some (_, rest) => some (.fixed, rest)
  | none =>
    match number? cs with
    | some found => some found
    | none => word? cs

/-! ## Literals that hold others -/

/-- A literal with a sign, or as it is. -/
def signed? (item : Reader) : Reader := fun cs =>
  match skip cs with
  | [] => none
  | c :: rest =>
    if c = '+' ∨ c = '-' then
      match item rest with
      | some (.number imaginary false, rest) => some (.number imaginary true, rest)
      | _ => none
    else item (c :: rest)

/-- A real number and an imaginary one, or one literal. -/
def sum? (item : Reader) : Reader := fun cs =>
  match signed? item cs with
  | none => none
  | some (kind, rest) =>
    match skip rest with
    | [] => some (kind, [])
    | c :: more =>
      if c = '+' ∨ c = '-' then
        match kind, item more with
        | .number false _, some (.number true false, rest) => some (.fixed, rest)
        | _, _ => none
      else some (kind, c :: more)

/-- An item of a list: whether it is a key with a value behind it, and its kind. -/
structure Entry where
  keyed : Bool
  kind : Kind

/-- An item, or a key and its value. -/
def entry? (item : Reader) (cs : List Char) : Option (Entry × List Char) :=
  match item cs with
  | none => none
  | some (kind, rest) =>
    match skip rest with
    | ':' :: rest => (item rest).map fun (_, rest) => (⟨true, kind⟩, rest)
    | rest => some (⟨false, kind⟩, rest)

/-- Items with commas between them, so many at most: the items, whether there is a comma, and the
rest of the text. -/
def entries? (item : Reader) : Nat → List Char → Option (List Entry × Bool × List Char)
  | 0, _ => none
  | fuel + 1, cs =>
    match entry? item cs with
    | none => none
    | some (entry, rest) =>
      match skip rest with
      | ',' :: rest =>
        let rest := skip rest
        if rest.head?.all fun c => c = ')' || c = '}' then some ([entry], true, rest)
        else (entries? item fuel rest).map fun (more, _, rest) => (entry :: more, true, rest)
      | rest => some ([entry], false, rest)

/-- A tuple, or a literal in brackets, behind the opening bracket. -/
def group? (item : Reader) : Reader := fun cs =>
  match skip cs with
  | ')' :: rest => some (.fixed, rest)
  | cs =>
    match entries? item cs.length cs with
    | some (found, comma, ')' :: rest) =>
      if found.any (·.keyed) then none
      else if comma then
        some (if found.any (·.kind = .mutable) then .mutable else .fixed, rest)
      else found.head?.map fun only => (only.kind, rest)
    | _ => none

/-- A set or a dictionary, behind the opening brace. -/
def braces? (item : Reader) : Reader := fun cs =>
  match skip cs with
  | '}' :: rest => some (.mutable, rest)
  | cs =>
    match entries? item cs.length cs with
    | some (found, _, '}' :: rest) =>
      let alike := found.all (·.keyed) || found.all (!·.keyed)
      if alike && found.all (·.kind ≠ .mutable) then some (.mutable, rest) else none
    | _ => none

/-- A literal without a sign, with brackets inside each other so many times at most. -/
def item? : Nat → Reader
  | 0, cs => simple? (skip cs)
  | depth + 1, cs =>
    match skip cs with
    | '(' :: rest => group? (sum? (item? depth)) rest
    | '{' :: rest => braces? (sum? (item? depth)) rest
    | '.' :: '.' :: '.' :: rest => some (.fixed, rest)
    | cs => simple? cs

/-- How many times brackets may stand inside each other. -/
def maxDepth : Nat := 200

/-- Whether a text is a literal, or several with commas between them. -/
def isLiteral (cs : List Char) : Bool :=
  match entries? (sum? (item? maxDepth)) (cs.length + 1) cs with
  | some (found, _, rest) => (skip rest).isEmpty && found.all (!·.keyed)
  | none => false

end Rollout.Console.Literal
