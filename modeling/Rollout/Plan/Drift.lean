import Rollout.Plan.Difference
import Rollout.Resource.Basic

/-!
# Drift

Drift is a recorded resource that its backend holds differently, or no longer.  It is reported and
never planned.
-/

set_option autoImplicit false

namespace Rollout

/-- How a live resource differs from the recorded one. -/
inductive Drift where
  | missing
  | modified (differences : Differences)
deriving DecidableEq, Repr

namespace Drift

/-- The name of a kind of drift. -/
def name : Drift → String
  | .missing => "missing"
  | .modified _ => "modified"

/-- The attributes that drifted. -/
def differences : Drift → Differences
  | .missing => []
  | .modified found => found

end Drift

/-- The drift of one resource. -/
structure DriftReport where
  id : String
  drift : Drift
deriving DecidableEq, Repr

namespace DriftReport

/-- A report in one line. -/
def summary (r : DriftReport) : String :=
  match r.drift with
  | .missing => r.id ++ " no longer exists"
  | .modified found => r.id ++ " drifted (fields: " ++ Text.join ", " (found.map Prod.fst) ++ ")"

/-- The report of a recorded resource, given what was read: nothing if it was not read. -/
def of? (live : List (String × Option Resource)) (recorded : Resource) : Option DriftReport :=
  match Assoc.lookup recorded.id live with
  | none => none
  | some none => some ⟨recorded.id, .missing⟩
  | some (some found) =>
    let diffs := Rollout.differences "" recorded.attributes found.attributes
    if diffs.isEmpty then none else some ⟨recorded.id, .modified diffs⟩

end DriftReport

/-- Compares the recorded resources with what the backends answered, in recorded order. -/
def detectDrift (recorded : List Resource) (live : List (String × Option Resource)) :
    List DriftReport :=
  recorded.filterMap (DriftReport.of? live)

end Rollout
