import Rollout.Text.Width

/-!
# Graphemes

What a reader takes for one character may be written with several: a mark, a selector or a
character behind a joiner belongs to what stands before it.  A joiner hides the character behind it,
and the selector for emoji widens the character that was measured last, if that can be an emoji.

* `columns` : the columns that a text takes;
* `graphemes` : a text cut into graphemes, each with the columns that it takes.
-/

set_option autoImplicit false

namespace Rollout.Text

/-- The character that joins its two neighbours. -/
def joiner : Char := '\u200D'

/-- The character that asks for the emoji form of the one before it. -/
def emojiSelector : Char := '\uFE0F'

/-! ## Measuring -/

/-- A text that is being measured: its columns so far, the character that a selector may widen, and
whether a joiner hides the next character. -/
structure Measuring where
  columns : Nat := 0
  last : Option Char := none
  joined : Bool := false

/-- Measures one more character. -/
def Measuring.step (s : Measuring) (c : Char) : Measuring :=
  if s.joined then { s with joined := false }
  else if c = joiner then { s with joined := true }
  else if c = emojiSelector then
    { s with columns := s.columns + (if s.last.any canWiden then 1 else 0), last := none }
  else if width c = 0 then s
  else { s with columns := s.columns + width c, last := some c }

/-- The columns that a text takes. -/
def columns (cs : List Char) : Nat := (cs.foldl Measuring.step {}).columns

/-! ## Cutting -/

/-- Characters that stand together, and the columns that they take. -/
structure Grapheme where
  text : List Char
  columns : Nat
deriving DecidableEq, Repr

/-- A text that is being cut: its graphemes so far, the last one first, the character that a selector
may widen, and whether a joiner hides the next character. -/
structure Cutting where
  found : List Grapheme := []
  last : Option Char := none
  joined : Bool := false

namespace Cutting

/-- Adds a character to the last grapheme; with none before it, it is one of its own. -/
def attach (c : Char) (s : Cutting) : Cutting :=
  match s.found with
  | [] => { s with found := [⟨[c], 0⟩] }
  | g :: before => { s with found := { g with text := g.text ++ [c] } :: before }

/-- Widens the last grapheme, if the character that was measured last allows it. -/
def widen (s : Cutting) : Cutting :=
  match s.found, s.last.any canWiden with
  | g :: before, true =>
    { s with found := { g with columns := g.columns + 1 } :: before, last := none }
  | _, _ => s

/-- Reads one more character.  A joiner at the start of a text joins nothing. -/
def step (s : Cutting) (c : Char) : Cutting :=
  if s.joined then { s.attach c with joined := false }
  else if c = joiner then { s.attach c with joined := !s.found.isEmpty }
  else if c = emojiSelector then (s.attach c).widen
  else if width c = 0 then s.attach c
  else { s with found := ⟨[c], width c⟩ :: s.found, last := some c }

end Cutting

/-- The graphemes of a text. -/
def graphemes (cs : List Char) : List Grapheme := (cs.foldl Cutting.step {}).found.reverse

end Rollout.Text
