/-!
# Doubles

A number written with a point or an exponent is an IEEE double.  Here a double is kept as the
exact number it stands for, `± significand · 2 ^ exponent`, so comparing two of them, or one of
them with an integer of any size, never rounds.

* `Double.ofDecimal` : the double nearest to a decimal, a tie going to the even significand;
* `Double.number?` : the number a double stands for, as a dyadic rational or an infinity.
-/

set_option autoImplicit false

namespace Rollout

/-- An IEEE double, kept as the number it stands for. -/
inductive Double where
  /-- `± significand · 2 ^ exponent`; only zero tells its sign from its value. -/
  | finite (negative : Bool) (significand : Nat) (exponent : Int)
  | infinite (negative : Bool)
  | nan
deriving DecidableEq, Repr

/-- A number without rounding: what equality of numbers is decided on. -/
inductive Exact where
  | finite (value : Dyadic)
  | infinite (negative : Bool)
deriving DecidableEq

namespace Exact

/-- An integer is exactly itself. -/
def ofInt (i : Int) : Exact := .finite (Dyadic.ofIntWithPrec i 0)

end Exact

namespace Double

/-- The sign of a number as a factor. -/
def signed (negative : Bool) (n : Nat) : Int := if negative then -(n : Int) else n

/-- The number a double stands for; none for a NaN. -/
def number? : Double → Option Exact
  | .finite negative m q => some (.finite (Dyadic.ofIntWithPrec (signed negative m) (-q)))
  | .infinite negative => some (.infinite negative)
  | .nan => none

/-- `num / den` to the nearest natural number, a half going to the even neighbour. -/
def roundDiv (num den : Nat) : Nat :=
  let low := num / den
  let rest := num % den
  if 2 * rest < den then low
  else if den < 2 * rest then low + 1
  else if low % 2 = 0 then low else low + 1

/-- `num / (den · 2 ^ q)` to the nearest natural number. -/
def roundScaled (num den : Nat) (q : Int) : Nat :=
  roundDiv (num * Nat.pow 2 (-q).toNat) (den * Nat.pow 2 q.toNat)

/-- The exponent of the last bit kept of `num / den`: 53 bits are kept, fewer below the least
normal double. -/
def lastBit (num den : Nat) : Int :=
  let guess : Int := (num.log2 : Int) - (den.log2 : Int) - 52
  let fits := den * Nat.pow 2 (52 + guess).toNat ≤ num * Nat.pow 2 (-(52 + guess)).toNat
  max (if fits then guess else guess - 1) (-1074)

/-- The double nearest to `num / den`. -/
def ofRatio (negative : Bool) (num den : Nat) : Double :=
  if num = 0 then .finite negative 0 0
  else
    let q := lastBit num den
    let m := roundScaled num den q
    let (m, q) := if m = Nat.pow 2 53 then (Nat.pow 2 52, q + 1) else (m, q)
    if 971 < q then .infinite negative else .finite negative m q

/-- The double nearest to `± digits · 10 ^ exponent`.  Exponents far outside the range are settled
without computing their power. -/
def ofDecimal (negative : Bool) (digits : Nat) (exponent : Int) : Double :=
  let leading : Int := exponent + (Nat.toDigits 10 digits).length
  if digits = 0 then .finite negative 0 0
  else if 400 < leading then .infinite negative
  else if leading < -400 then .finite negative 0 0
  else ofRatio negative (digits * Nat.pow 10 exponent.toNat) (Nat.pow 10 (-exponent).toNat)

/-- The double nearest to an integer. -/
def ofInt (i : Int) : Double := ofDecimal (i < 0) i.natAbs 0

/-- A double times a natural number, to the nearest double. -/
def timesNat (n : Nat) : Double → Double
  | .finite negative m q =>
    ofRatio negative (m * n * Nat.pow 2 q.toNat) (Nat.pow 2 (-q).toNat)
  | x => x

/-- The natural number nearest to the absolute value of a double, a half going up. -/
def roundUp : Double → Nat
  | .finite _ m q =>
    (2 * m * Nat.pow 2 q.toNat + Nat.pow 2 (-q).toNat) / (2 * Nat.pow 2 (-q).toNat)
  | _ => 0

/-- Whether a double is zero, of either sign. -/
def isZero : Double → Bool
  | .finite _ 0 _ => true
  | _ => false

/-- Whether a double is below or at zero; a NaN is neither. -/
def isPositive : Double → Bool
  | .finite negative m _ => !negative && m != 0
  | .infinite negative => !negative
  | .nan => false

/-- The integer a double is equal to, if it is one. -/
def toInt? : Double → Option Int
  | .finite negative m q =>
    if 0 ≤ q then some (signed negative (m * Nat.pow 2 q.toNat))
    else if m % Nat.pow 2 (-q).toNat = 0 then some (signed negative (m / Nat.pow 2 (-q).toNat))
    else none
  | _ => none

end Double

end Rollout
