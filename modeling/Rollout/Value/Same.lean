import Rollout.Value.Basic

/-!
# Equality of values

Two values are the same when their JSON encodings mean the same: the order of object keys does not
matter, `1` and `1.0` are the same number, and a boolean is never a number.  Numbers are compared
exactly, whatever their size.
-/

set_option autoImplicit false

namespace Rollout.Value

/-- The number a value is; none for a value that is no number, or is a NaN. -/
def number? : Value → Option Exact
  | .int i => some (.ofInt i)
  | .double x => x.number?
  | _ => none

/-- Whether two numbers are exactly equal. -/
def sameNumber (l r : Value) : Bool :=
  match number? l, number? r with
  | some a, some b => decide (a = b)
  | _, _ => false

mutual

/-- Whether two values are the same JSON value. -/
def same : Value → Value → Bool
  | .null, .null => true
  | .bool a, .bool b => a == b
  | .str a, .str b => a == b
  | .list l, .list r => sameList l r
  | .object l, .object r =>
    sameFields l r && (Assoc.keys r).all fun key => (Assoc.keys l).contains key
  | l, r => sameNumber l r

/-- Whether two lists are the same, element by element. -/
def sameList : List Value → List Value → Bool
  | [], [] => true
  | a :: l, b :: r => same a b && sameList l r
  | _, _ => false

/-- Whether each entry has its like in the other object. -/
def sameFields : List (String × Value) → List (String × Value) → Bool
  | [], _ => true
  | (key, a) :: rest, r =>
    (match Assoc.lookup key r with
      | some b => same a b
      | none => false) && sameFields rest r

end

end Rollout.Value
