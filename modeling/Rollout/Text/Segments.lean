/-!
# Segments of text

Identifiers and provider sources are texts made of segments with a separator between them.

* `split sep s` : the segments of `s`, at least one;
* `join sep parts` : the text with the given segments.
-/

set_option autoImplicit false

namespace Rollout.Text

/-- Puts a character in front of the first segment. -/
def consFirst (c : Char) : List (List Char) → List (List Char)
  | [] => [[c]]
  | s :: rest => (c :: s) :: rest

/-- The segments between separators. -/
def segments (sep : Char) : List Char → List (List Char)
  | [] => [[]]
  | c :: cs => if c = sep then [] :: segments sep cs else consFirst c (segments sep cs)

/-- The segments of a text. -/
def split (sep : Char) (s : String) : List String := (segments sep s.toList).map String.ofList

/-- The text with the given segments. -/
def join (sep : String) (parts : List String) : String := sep.intercalate parts

/-- Whether a text holds a character. -/
def holds (c : Char) (s : String) : Bool := s.toList.contains c

end Rollout.Text
