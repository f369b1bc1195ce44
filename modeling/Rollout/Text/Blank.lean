/-!
# White space

Two classes of blanks are in use: the characters with the Unicode property White_Space, which may
stand around numbers, and these together with the four information separators, which part words.

* `isWhite`, `isSpace` : the two classes;
* `stripBy` : a text without the blanks at its ends;
* `wordsOf` : the words of a text.
-/

set_option autoImplicit false

namespace Rollout.Text

/-- Whether a character has the Unicode property White_Space. -/
def isWhite (c : Char) : Bool :=
  let n := c.toNat
  (9 ≤ n && n ≤ 13) || n = 0x20 || n = 0x85 || n = 0xA0 || n = 0x1680 || (0x2000 ≤ n && n ≤ 0x200A)
    || n = 0x2028 || n = 0x2029 || n = 0x202F || n = 0x205F || n = 0x3000

/-- Whether a character parts words. -/
def isSpace (c : Char) : Bool := isWhite c || (0x1C ≤ c.toNat && c.toNat ≤ 0x1F)

/-- A text without the characters of a class at its end. -/
def stripEndBy (blank : Char → Bool) (cs : List Char) : List Char :=
  (cs.reverse.dropWhile blank).reverse

/-- A text without the characters of a class at its two ends. -/
def stripBy (blank : Char → Bool) (cs : List Char) : List Char :=
  stripEndBy blank (cs.dropWhile blank)

/-- What stands between the blanks of a text. -/
def wordsOf (cs : List Char) : List (List Char) :=
  (cs.splitBy fun a b => isSpace a == isSpace b).filter fun word => !word.all isSpace

end Rollout.Text
