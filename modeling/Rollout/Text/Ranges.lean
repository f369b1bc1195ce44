/-!
# Ranges of characters

A property of characters is given by a table of ranges of code points, in ascending order and both
ends included.  `memRanges` looks a code point up.
-/

set_option autoImplicit false

namespace Rollout.Text

/-- Whether a code point lies in one of the ranges between two positions of a table in ascending
order, by halving. -/
def inRanges (table : Array (Nat × Nat)) (n : Nat) : Nat → Nat → Nat → Bool
  | 0, _, _ => false
  | steps + 1, low, high =>
    if high ≤ low then false
    else
      let middle := (low + high) / 2
      match table[middle]? with
      | none => false
      | some (first, last) =>
        if n < first then inRanges table n steps low middle
        else if last < n then inRanges table n steps (middle + 1) high
        else true

/-- Whether a code point lies in one of the ranges of a table in ascending order. -/
def memRanges (table : Array (Nat × Nat)) (n : Nat) : Bool :=
  inRanges table n (table.size + 1) 0 table.size

end Rollout.Text
