import Rollout.Assoc
import Rollout.Text.Blank
import Rollout.Text.Quoted

/-!
# Environment files

An environment file gives values to names, one binding a line: `NAME=value`, `export NAME=value`.

* A value in single quotes may hold anything; `\'` and `\\` stand for the quote and the backslash.
* A value in double quotes knows the escapes `\n`, `\t` and the like as well.
* Any other value ends at the end of its line, or before blanks and a `#`.
* A name without `=` has no value, and a line that cannot be read is left out.
* In a value, `${NAME}` stands for what the name has been given so far, in the file or else in the
  environment, and `${NAME:-text}` gives the text to use if it has been given nothing.

`EnvFile.bindings` reads a file, and `EnvFile.resolve` gives the names their values.
-/

set_option autoImplicit false

namespace Rollout.EnvFile

/-- A name and its value as it is written, if it has one. -/
abbrev Binding := String × Option (List Char)

/-! ## Lines -/

/-- A text whose line breaks are all single line feeds. -/
def unifyBreaks : List Char → List Char
  | '\r' :: '\n' :: cs => '\n' :: unifyBreaks cs
  | '\r' :: cs => '\n' :: unifyBreaks cs
  | c :: cs => c :: unifyBreaks cs
  | [] => []

/-- Whether a character is a blank inside a line. -/
def isInner (c : Char) : Bool := Text.isSpace c && c ≠ '\n'

/-- The text after the blanks of a line. -/
def skipInner (cs : List Char) : List Char := cs.dropWhile isInner

/-- The text after this line. -/
def nextLine (cs : List Char) : List Char := (cs.dropWhile (· ≠ '\n')).drop 1

/-- The text after the end of a line, if nothing but a comment stands before it. -/
def endLine? (cs : List Char) : Option (List Char) :=
  match skipInner cs with
  | [] => some []
  | '\n' :: rest => some rest
  | '#' :: rest => some (nextLine rest)
  | _ => none

/-! ## Quotes -/

/-- What an escape stands for in single quotes. -/
def singleEscape? : Char → Option Char
  | '\\' => some '\\'
  | '\'' => some '\''
  | _ => none

/-- What an escape stands for in double quotes. -/
def doubleEscape? : Char → Option Char
  | '\\' => some '\\'
  | '\'' => some '\''
  | '"' => some '"'
  | 'a' => some '\x07'
  | 'b' => some '\x08'
  | 'f' => some '\x0c'
  | 'n' => some '\n'
  | 'r' => some '\r'
  | 't' => some '\t'
  | 'v' => some '\x0b'
  | _ => none

/-- A text with its escapes replaced by what they stand for. -/
def unescape (escape? : Char → Option Char) : List Char → List Char
  | '\\' :: d :: cs =>
    match escape? d with
    | some c => c :: unescape escape? cs
    | none => '\\' :: unescape escape? (d :: cs)
  | c :: cs => c :: unescape escape? cs
  | [] => []

/-! ## Bindings -/

/-- The part of a value before blanks and a `#`. -/
def beforeComment : List Char → List Char
  | [] => []
  | c :: cs =>
    if Text.isSpace c && (cs.dropWhile Text.isSpace).head? = some '#' then []
    else c :: beforeComment cs

/-- A value behind the `=`, and what follows it.  A comment may stand in place of the value. -/
def value? (cs : List Char) : Option (List Char × List Char) :=
  match skipInner cs with
  | '\'' :: inside =>
    (Text.untilQuote? ['\''] inside).map fun (text, rest) => (unescape singleEscape? text, rest)
  | '"' :: inside =>
    (Text.untilQuote? ['"'] inside).map fun (text, rest) => (unescape doubleEscape? text, rest)
  | _ =>
    let line := cs.takeWhile (· ≠ '\n')
    some (Text.stripBy Text.isSpace (beforeComment line), cs.dropWhile (· ≠ '\n'))

/-- The text after the word `export` and blanks, if a line starts with them. -/
def skipExport (cs : List Char) : List Char :=
  let word := "export".toList
  let rest := cs.drop word.length
  if word.isPrefixOf cs && rest.head?.any isInner then skipInner rest else cs

/-- A name, and what follows it. -/
def name? : List Char → Option (List Char × List Char)
  | '\'' :: cs =>
    let inside := cs.takeWhile (· ≠ '\'')
    match inside, cs.dropWhile (· ≠ '\'') with
    | _ :: _, _ :: rest => some (inside, rest)
    | _, _ => none
  | cs =>
    let isName (c : Char) : Bool := c ≠ '=' && c ≠ '#' && !Text.isSpace c
    let inside := cs.takeWhile isName
    if inside.isEmpty then none else some (inside, cs.dropWhile isName)

/-- How reading went on: a binding or nothing, and the text from which reading goes on. -/
structure Step where
  binding : Option Binding := none
  rest : List Char

/-- Ends a binding that stands before a text; what follows it in its line spoils it. -/
def close (name value : List Char) (hasValue : Bool) (cs : List Char) : Step :=
  match endLine? cs with
  | some rest => ⟨some (String.ofList name, if hasValue then some value else none), rest⟩
  | none => ⟨none, nextLine cs⟩

/-- Reads the binding at the start of a text that starts with no blank. -/
def readBinding (cs : List Char) : Step :=
  let cs := skipExport cs
  if cs.head? = some '#' then ⟨none, nextLine cs⟩
  else
    match name? cs with
    | none => ⟨none, nextLine cs⟩
    | some (name, cs) =>
      match skipInner cs with
      | '=' :: cs =>
        match value? cs with
        | none => ⟨none, nextLine cs⟩
        | some (value, cs) => close name value true cs
      | cs => close name [] false cs

/-- The bindings of a text, read in so many steps at most. -/
def readAll : Nat → List Char → List Binding
  | 0, _ => []
  | fuel + 1, cs =>
    match cs.dropWhile Text.isSpace with
    | [] => []
    | cs =>
      let step := readBinding cs
      step.binding.toList ++ readAll fuel step.rest

/-- A text without the mark that may stand at the start of a file, telling how it is encoded. -/
def dropMark : List Char → List Char
  | [] => []
  | c :: cs => if c = '\uFEFF' then cs else c :: cs

/-- The bindings of a file: every step reads a character at least. -/
def bindings (file : String) : List Binding :=
  let cs := unifyBreaks (dropMark file.toList)
  readAll cs.length cs

/-! ## References -/

/-- A reference behind its `${`: the name, the text to use instead, and what follows. -/
def reference? (cs : List Char) : Option (String × String × List Char) :=
  let isName (c : Char) : Bool := c ≠ '}' && c ≠ ':'
  let name := String.ofList (cs.takeWhile isName)
  match cs.dropWhile isName with
  | '}' :: rest => some (name, "", rest)
  | ':' :: '-' :: rest =>
    match rest.dropWhile (· ≠ '}') with
    | _ :: after => some (name, String.ofList (rest.takeWhile (· ≠ '}')), after)
    | [] => none
  | _ => none

/-- A value with its references replaced, in so many steps at most. -/
def expandWith (meaning : String → String → String) : Nat → List Char → List Char
  | 0, cs => cs
  | _, [] => []
  | fuel + 1, '$' :: '{' :: cs =>
    match reference? cs with
    | some (name, instead, rest) =>
      (meaning name instead).toList ++ expandWith meaning fuel rest
    | none => '$' :: expandWith meaning fuel ('{' :: cs)
  | fuel + 1, c :: cs => c :: expandWith meaning fuel cs

/-- What a name has been given: in the file so far, or else in the environment. -/
def meaning (environment : List (String × String)) (given : List (String × Option String))
    (name instead : String) : String :=
  match Assoc.lookup name given with
  | some value => value.getD ""
  | none => (Assoc.lookup name environment).getD instead

/-- Gives one more name its value. -/
def give (environment : List (String × String)) (given : List (String × Option String))
    (b : Binding) : List (String × Option String) :=
  let value := b.2.map fun cs => String.ofList (expandWith (meaning environment given) cs.length cs)
  Assoc.put b.1 value given

/-- What a file gives its names, in an environment. -/
def resolve (environment : List (String × String)) (file : String) :
    List (String × Option String) :=
  (bindings file).foldl (give environment) []

end Rollout.EnvFile
