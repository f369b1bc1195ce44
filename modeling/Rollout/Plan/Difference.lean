import Rollout.Value.Same

/-!
# Attribute differences

Two objects of attributes are compared path by path: an object inside an object is walked, any other
value is compared as a whole.  The path of a nested key is written with dots.

* `differences base current desired` : the paths at which two objects differ, each with both values.
-/

set_option autoImplicit false

namespace Rollout

/-- The two values at a path; a missing side is null. -/
structure Difference where
  current : Value
  desired : Value
deriving DecidableEq, Repr

/-- Differences by path, in the order in which the paths were met. -/
abbrev Differences := List (String × Difference)

namespace Differences

/-- The differences at the keys that only the desired side has. -/
def ofMissing (base : String) (current : Fields) : Fields → Differences
  | [] => []
  | (key, value) :: rest =>
    if Assoc.has key current then ofMissing base current rest
    else Assoc.overlay [(base ++ key, ⟨.null, value⟩)] (ofMissing base current rest)

mutual

/-- The differences at a path that both sides have. -/
def ofValues (path : String) : Value → Value → Differences
  | .object current, .object desired =>
    Assoc.overlay (ofCurrent (path ++ ".") current desired)
      (ofMissing (path ++ ".") current desired)
  | current, desired => if current.same desired then [] else [(path, ⟨current, desired⟩)]

/-- The differences at the keys of the current side. -/
def ofCurrent (base : String) : Fields → Fields → Differences
  | [], _ => []
  | (key, value) :: rest, desired =>
    let here := match Assoc.lookup key desired with
      | some other => ofValues (base ++ key) value other
      | none => [(base ++ key, ⟨value, .null⟩)]
    Assoc.overlay here (ofCurrent base rest desired)

end

end Differences

/-- The differences between two objects; `base` goes in front of every path. -/
def differences (base : String) (current desired : Fields) : Differences :=
  Assoc.overlay (Differences.ofCurrent base current desired)
    (Differences.ofMissing base current desired)

end Rollout
