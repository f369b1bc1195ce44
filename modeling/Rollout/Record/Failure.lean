import Rollout.Record.Field

/-!
# Records of failures

The record of a failure has its kind and its wording, and for some failures the particulars that a
caller may act on: the resources of a collection that cannot be ordered, and the action that failed.
-/

set_option autoImplicit false

namespace Rollout.Failure

/-- What a caller may want to know of a failure beside its wording. -/
def particulars : Failure → Fields
  | .graph (.duplicate id) => [("resource_id", .str id)]
  | .graph (.dangling id missing) => [("resource_id", .str id), ("missing", .str missing)]
  | .graph (.cycle ids) => [("cycle", Record.stringList ids)]
  | .action e => [("resource_id", .str e.resource), ("action", .str e.action)]
  | _ => []

/-- The entries of a failure's record. -/
def entries (e : Failure) : Fields :=
  [("error", .str e.kind), ("message", .str e.message)]
    ++ (if e.particulars.isEmpty then [] else [("fields", .object e.particulars)])

/-- The record of a failure. -/
def toValue (e : Failure) : Value := .object e.entries

end Rollout.Failure
