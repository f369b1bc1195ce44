import Rollout.Assoc
import Rollout.Console.Colour

/-!
# Styles

A style is written as words: attributes, with `not` in front to turn one off, a colour, `on` and a
colour for the background, and `link` with an address.  Different texts may write one style, so a
style has one text of its own.  A text that writes no style is a name, whatever it stands for.

* `Style.read` : the style that a text writes;
* `Style.nameOf?` : the text of the style, or the name.
-/

set_option autoImplicit false

namespace Rollout.Console

/-- How text is shown. -/
structure Style where
  /-- The attributes that are turned on or off. -/
  attributes : List (String × Bool) := []
  colour : Option String := none
  background : Option String := none
  link : Option String := none
deriving DecidableEq, Repr

namespace Style

/-- The attributes, in the order in which they are written. -/
def attributeNames : List String := ["bold", "dim", "italic", "underline", "blink", "blink2",
  "reverse", "conceal", "strike", "underline2", "frame", "encircle", "overline"]

/-- The short names of attributes. -/
def shortNames : List (String × String) := [("b", "bold"), ("d", "dim"), ("i", "italic"),
  ("u", "underline"), ("r", "reverse"), ("c", "conceal"), ("s", "strike"), ("uu", "underline2"),
  ("o", "overline")]

/-- The attribute with a name or a short name. -/
def attribute? (word : String) : Option String :=
  if word ∈ attributeNames then some word else Assoc.lookup word shortNames

/-- Turns an attribute on or off. -/
def turn (name : String) (on : Bool) (s : Style) : Style :=
  { s with attributes := Assoc.put name on s.attributes }

/-- Adds what words write to a style. -/
def addWords (s : Style) : List (List Char) → Except NoStyle Style
  | [] => .ok s
  | word :: rest =>
    let name := String.ofList (Text.lowerCase word)
    if name = "on" then
      match rest with
      | [] => .error .unknown
      | next :: rest =>
        match Colour.read next with
        | .ok colour => addWords { s with background := some colour } rest
        | .error e => .error e
    else if name = "not" then
      match rest with
      | [] => .error .unknown
      | next :: rest =>
        match attribute? (String.ofList next) with
        | some name => addWords (s.turn name false) rest
        | none => .error .unknown
    else if name = "link" then
      match rest with
      | [] => .error .unknown
      | next :: rest => addWords { s with link := some (String.ofList next) } rest
    else
      match attribute? name with
      | some name => addWords (s.turn name true) rest
      | none =>
        match Colour.read word with
        | .ok colour => addWords { s with colour := some colour } rest
        | .error e => .error e

/-- The style that a text writes. -/
def read (cs : List Char) : Except NoStyle Style :=
  match Text.wordsOf cs with
  | [word] => if word = "none".toList then .ok {} else addWords {} [word]
  | words => addWords {} words

/-- How an attribute is written, if it is turned on or off. -/
def attributeText? (s : Style) (name : String) : Option String :=
  (Assoc.lookup name s.attributes).map fun on => if on then name else "not " ++ name

/-- The one text of a style. -/
def text (s : Style) : String :=
  let parts := attributeNames.filterMap s.attributeText? ++ s.colour.toList
    ++ (s.background.map ("on " ++ ·)).toList ++ (s.link.map ("link " ++ ·)).toList
  if parts.isEmpty then "none" else Text.join " " parts

/-- The text of the style that a text writes, or the name that it is in small letters; nothing if
the text is malformed. -/
def nameOf? (cs : List Char) : Option String :=
  match read cs with
  | .ok s => some s.text
  | .error .unknown => some (String.ofList (Text.lowerCase (Text.stripBy Text.isSpace cs)))
  | .error .malformed => none

end Style

end Rollout.Console
