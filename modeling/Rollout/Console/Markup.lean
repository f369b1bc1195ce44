import Rollout.Console.Emoji
import Rollout.Console.Literal
import Rollout.Console.Style

/-!
# Markup

Text on a console may hold tags that style what follows: `[red]` starts a style, `[/red]` ends it
and `[/]` ends the style that was started last.  A tag starts with a lower-case letter, `#`, `/` or
`@`, and a backslash in front of a tag makes it plain text.  What stands behind a `=` in a tag are
its parameters; those of a handler, which starts with `@`, are read when it ends.  Only the text
matters here, so tags are left out; a closing tag that ends nothing is an error, and so are
parameters that cannot be read.

* `Markup.plain?` : the text without its tags, if they match.
-/

set_option autoImplicit false

namespace Rollout.Console.Markup

/-- A style or a handler that has been started: its name, and its parameters. -/
structure Opened where
  name : String
  parameters : List Char := []
deriving DecidableEq, Repr

/-- What has been read: the pieces of text, the last one first, the text since then as it is
written, and what has been started, the last one first. -/
structure Reading where
  pieces : List (List Char) := []
  text : List Char
  opened : List Opened := []

/-- Whether a character may start a tag. -/
def startsTag (c : Char) : Bool := ('a' ≤ c && c ≤ 'z') || c = '#' || c = '/' || c = '@'

/-- What stands between a bracket and the next one, as a tag and the text behind it. -/
def tag? (segment : List Char) : Option (List Char × List Char) :=
  let tag := segment.takeWhile (· ≠ ']')
  match segment.dropWhile (· ≠ ']') with
  | [] => none
  | _ :: rest => if tag.head?.any startsTag then some (tag, rest) else none

/-- The name in a tag: what stands before a `=`. -/
def nameIn (tag : List Char) : List Char := tag.takeWhile (· ≠ '=')

/-- The literal in the parameters of a handler.  A function may stand in front of a tuple, and a
function alone has no parameters. -/
def literalIn (parameters : List Char) : List Char :=
  let cs := Text.stripBy Text.isSpace parameters
  let rest := cs.dropWhile fun c => Text.isWord c || c = '.'
  if rest.isEmpty then "()".toList
  else if rest.head? = some '(' && rest.getLast? = some ')' && !rest.contains '\n' then rest
  else cs

namespace Opened

/-- Whether this is a handler, and no style. -/
def isHandler (o : Opened) : Bool := o.name.toList.head? = some '@'

/-- Whether a handler has parameters that can be read, or none. -/
def canEnd (o : Opened) : Bool :=
  !o.isHandler || o.parameters.isEmpty || Literal.isLiteral (literalIn o.parameters)

/-- Whether a style can be shown together with its parameters. -/
def canShow (o : Opened) : Bool :=
  o.isHandler || (Style.nameOf? (o.name.toList ++ ' ' :: o.parameters)).isSome

/-- What a tag starts. -/
def ofTag? (tag : List Char) : Option Opened :=
  match Style.nameOf? (nameIn tag) with
  | none => none
  | some name =>
    let o : Opened := { name, parameters := (tag.dropWhile (· ≠ '=')).drop 1 }
    if o.canShow then some o else none

end Opened

namespace Reading

/-- Ends the current piece of text; more text may stand behind it. -/
def endPiece (text more : List Char) (r : Reading) : Reading :=
  { r with pieces := more :: withEmoji text :: r.pieces, text := [] }

/-- A bracket that starts no tag is text, without a backslash in front of it. -/
def bracket (segment : List Char) (r : Reading) : Reading :=
  let before := if r.text.getLast? = some '\\' then r.text.dropLast else r.text
  { r with text := before ++ '[' :: segment }

/-- Ends what has been started last, of all that has a property. -/
def endLast (isMeant : Opened → Bool) (r : Reading) : Option Reading :=
  match r.opened.find? isMeant with
  | none => none
  | some o => if o.canEnd then some { r with opened := r.opened.eraseP isMeant } else none

/-- Starts or ends what a tag names. -/
def turn (tag : List Char) (r : Reading) : Option Reading :=
  match tag with
  | '/' :: rest =>
    let name := Text.stripBy Text.isSpace (nameIn rest)
    if name.isEmpty then r.endLast fun _ => true
    else (Style.nameOf? name).bind fun name => r.endLast (·.name = name)
  | tag => (Opened.ofTag? tag).map fun o => { r with opened := o :: r.opened }

/-- Reads a bracket and what stands behind it up to the next one.  Of the backslashes in front of a
tag every other one is text, and an odd one makes the tag text. -/
def step (r : Reading) (segment : List Char) : Option Reading :=
  match tag? segment with
  | none => some (r.bracket segment)
  | some (tag, after) =>
    let text := Text.stripEndBy (· = '\\') r.text
    let slashes := r.text.length - text.length
    let r := r.endPiece text (List.replicate (slashes / 2) '\\')
    if slashes % 2 = 1 then
      some { r with pieces := withEmoji ('[' :: tag ++ [']']) :: r.pieces, text := after }
    else (r.turn tag).map fun r => { r with text := after }

/-- The text that has been read. -/
def plain (r : Reading) : List Char := (withEmoji r.text :: r.pieces).reverse.flatten

end Reading

/-- A text without its tags and with its emoji, if every closing tag ends a style. -/
def plain? (s : String) : Option String :=
  match Text.segments '[' s.toList with
  | [] => some ""
  | first :: rest =>
    (rest.foldlM Reading.step { text := first }).map fun r => String.ofList r.plain

end Rollout.Console.Markup
