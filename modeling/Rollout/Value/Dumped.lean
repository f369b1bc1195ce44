import Rollout.Value.Basic

/-!
# Values in records

JSON knows no other numbers than finite ones.  Where a value is written to a record, a double that is
no finite number is written as null.
-/

set_option autoImplicit false

namespace Rollout

/-- Whether a double is a finite number. -/
def Double.isFinite : Double → Bool
  | .finite _ _ _ => true
  | .infinite _ | .nan => false

namespace Value

mutual

/-- A value as records hold it. -/
def dumped : Value → Value
  | .double x => if x.isFinite then .double x else .null
  | .list items => .list (dumpedList items)
  | .object fields => .object (dumpedFields fields)
  | v => v

/-- The items of a list as records hold them. -/
def dumpedList : List Value → List Value
  | [] => []
  | v :: rest => dumped v :: dumpedList rest

/-- The entries of an object as records hold them. -/
def dumpedFields : List (String × Value) → List (String × Value)
  | [] => []
  | (key, v) :: rest => (key, dumped v) :: dumpedFields rest

end

end Value

end Rollout
