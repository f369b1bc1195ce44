import Rollout.Number.Double

/-!
# The shortest text of a double

A double is written with the fewest decimal digits that read back as the same double; of several
such decimals, the nearest.  The numbers from `10 ^ -4` up to `10 ^ 16` are written positionally
and keep a `.0` when they are integers; the others have an exponent of at least two digits.
-/

set_option autoImplicit false

namespace Rollout

/-- `digits · 10 ^ exponent`. -/
structure Decimal where
  digits : Nat
  exponent : Int
deriving DecidableEq, Repr

namespace Decimal

/-- Compares `a · 10 ^ i` with `n · 2 ^ j`, exactly. -/
def compareBinary (a : Nat) (i : Int) (n : Nat) (j : Int) : Ordering :=
  compare (a * Nat.pow 10 i.toNat * Nat.pow 2 (-j).toNat)
    (n * Nat.pow 2 j.toNat * Nat.pow 10 (-i).toNat)

/-- Whether a decimal lies among the numbers that round to `m · 2 ^ q`: at most half a unit of the
last bit away, a quarter below a power of two, the ends belonging to an even significand. -/
def readsBack (m : Nat) (q : Int) (d : Decimal) : Bool :=
  let narrow := m = Nat.pow 2 52 ∧ -1074 < q
  let low := if narrow then 4 * m - 1 else 4 * m - 2
  let high := 4 * m + 2
  let ends := m % 2 = 0
  let below := compareBinary d.digits d.exponent low (q - 2)
  let above := compareBinary d.digits d.exponent high (q - 2)
  (below == .gt || (ends && below == .eq)) && (above == .lt || (ends && above == .eq))

/-- `m · 2 ^ q / 10 ^ e` as a fraction of natural numbers. -/
def fraction (m : Nat) (q e : Int) : Nat × Nat :=
  (m * Nat.pow 2 q.toNat * Nat.pow 10 (-e).toNat, Nat.pow 2 (-q).toNat * Nat.pow 10 e.toNat)

/-- The exponent of the leading decimal digit of `m · 2 ^ q`. -/
def leadingExponent (m : Nat) (q : Int) : Int :=
  let (num, den) := fraction m q 0
  let whole := num / den
  if whole ≠ 0 then ((Nat.toDigits 10 whole).length : Int) - 1
  else
    -- `num < den`: count the zeros after the point
    let shift := (Nat.toDigits 10 (den / num)).length
    if den ≤ num * Nat.pow 10 (shift - 1) then -((shift : Int) - 1)
    else if den ≤ num * Nat.pow 10 shift then -(shift : Int)
    else -(shift : Int) - 1

/-- The two neighbours of `m · 2 ^ q` on the grid of multiples of `10 ^ e`, the nearer first. -/
def neighbours (m : Nat) (q e : Int) : List Decimal :=
  let (num, den) := fraction m q e
  let low := num / den
  if Double.roundDiv num den = low then [⟨low, e⟩, ⟨low + 1, e⟩] else [⟨low + 1, e⟩, ⟨low, e⟩]

/-- The decimal of at most `places` digits that reads back, if there is one. -/
def within? (m : Nat) (q : Int) (places : Nat) : Option Decimal :=
  (neighbours m q (leadingExponent m q + 1 - places)).find? (readsBack m q)

/-- Moves the zeros at the end of the digits into the exponent. -/
def stripZeros : Nat → Decimal → Decimal
  | 0, d => d
  | n + 1, d => if d.digits % 10 = 0 then stripZeros n ⟨d.digits / 10, d.exponent + 1⟩ else d

/-- The shortest decimal that reads back as `m · 2 ^ q`, for `m ≠ 0`.  Seventeen digits always
suffice. -/
def shortest (m : Nat) (q : Int) : Decimal :=
  match ((List.range 17).map (· + 1)).findSome? (within? m q) with
  | some d => stripZeros 20 d
  | none => ⟨m, 0⟩

/-- The exponent of a decimal in scientific form, with a sign and at least two digits. -/
def exponentText (e : Int) : String :=
  let digits := toString e.natAbs
  (if e < 0 then "e-" else "e+") ++ (if e.natAbs < 10 then "0" ++ digits else digits)

/-- The text of a decimal with a leading digit that is not zero. -/
def text (d : Decimal) : String :=
  let ds := Nat.toDigits 10 d.digits
  let lead : Int := d.exponent + ds.length - 1
  if -4 ≤ lead ∧ lead < 16 then
    if lead < 0 then
      "0." ++ String.ofList (List.replicate ((-lead).toNat - 1) '0' ++ ds)
    else
      let whole := lead.toNat + 1
      let before := ds.take whole ++ List.replicate (whole - ds.length) '0'
      let after := ds.drop whole
      String.ofList before ++ "." ++ (if after.isEmpty then "0" else String.ofList after)
  else
    match ds with
    | [] => ""
    | [d] => String.ofList [d] ++ exponentText lead
    | d :: rest => String.ofList (d :: '.' :: rest) ++ exponentText lead

end Decimal

namespace Double

/-- The text of a double. -/
def text : Double → String
  | .finite negative m q =>
    let body := if m = 0 then "0.0" else (Decimal.shortest m q).text
    if negative then "-" ++ body else body
  | .infinite negative => if negative then "-inf" else "inf"
  | .nan => "nan"

end Double

end Rollout
