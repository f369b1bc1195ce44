import Rollout.Text.Printable

/-!
# Quoted text

A string is quoted with single quotes, or with double quotes when it holds a single quote and no
double one.  Inside, the quote in use and the backslash are written with a backslash, and a
character that is not printable is written by its code.
-/

set_option autoImplicit false

namespace Rollout.Text

/-- The lower-case hexadecimal digits of a number, at least `width` of them. -/
def hex (width n : Nat) : String :=
  let ds := Nat.toDigits 16 n
  String.ofList (List.replicate (width - ds.length) '0' ++ ds)

/-- The code of a character that is not printable: two, four or eight hexadecimal digits. -/
def codeEscape (c : Char) : String :=
  let n := c.toNat
  if n < 0x100 then "\\x" ++ hex 2 n
  else if n < 0x10000 then "\\u" ++ hex 4 n
  else "\\U" ++ hex 8 n

/-- A character of a string between quotes of the given kind. -/
def quotedChar (quote c : Char) : String :=
  if c = quote ∨ c = '\\' then String.ofList ['\\', c]
  else if c = '\n' then "\\n"
  else if c = '\r' then "\\r"
  else if c = '\t' then "\\t"
  else if isPrintable c then String.singleton c
  else codeEscape c

/-- The quote a string is written with. -/
def quoteFor (s : String) : Char :=
  if s.toList.contains '\'' && !s.toList.contains '"' then '"' else '\''

/-- A string in quotes. -/
def quoted (s : String) : String :=
  let quote := quoteFor s
  String.singleton quote ++ String.join (s.toList.map (quotedChar quote)) ++ String.singleton quote

/-- What stands before closing quotes, and what follows them.  A backslash keeps the character after
it from closing. -/
def untilQuote? (closing : List Char) : List Char → Option (List Char × List Char)
  | [] => none
  | '\\' :: d :: cs =>
    (untilQuote? closing cs).map fun (inside, rest) => ('\\' :: d :: inside, rest)
  | c :: cs =>
    if closing.isPrefixOf (c :: cs) then some ([], (c :: cs).drop closing.length)
    else (untilQuote? closing cs).map fun (inside, rest) => (c :: inside, rest)

end Rollout.Text
