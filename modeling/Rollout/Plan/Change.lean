import Rollout.Failure
import Rollout.Plan.Difference

/-!
# Changes

A change is what is planned for one resource, together with the versions the plan was made from: a
create knows only the desired version, a delete only the recorded one, and a resource that is
updated or stays as it is knows both.
-/

set_option autoImplicit false

namespace Rollout

/-- The action of a change with the versions of the resource it needs. -/
inductive Sides where
  | create (desired : Resource)
  | update (current desired : Resource)
  | delete (current : Resource)
  | noChange (current desired : Resource)
deriving DecidableEq, Repr

namespace Sides

/-- The action. -/
def action : Sides → Action
  | .create _ => .create
  | .update _ _ => .update
  | .delete _ => .delete
  | .noChange _ _ => .noChange

/-- The recorded version. -/
def current? : Sides → Option Resource
  | .create _ => none
  | .update current _ | .delete current | .noChange current _ => some current

/-- The desired version. -/
def desired? : Sides → Option Resource
  | .delete _ => none
  | .create desired | .update _ desired | .noChange _ desired => some desired

/-- The version that the backend is asked about: the desired one if there is one. -/
def resource : Sides → Resource
  | .create desired | .update _ desired | .noChange _ desired => desired
  | .delete current => current

/-- The sides of an action, if the right versions are given. -/
def of? (action : Action) (current desired : Option Resource) : Except ChangeError Sides :=
  match action, current, desired with
  | .create, none, some d => .ok (.create d)
  | .create, _, _ => .error .createSides
  | .delete, some c, none => .ok (.delete c)
  | .delete, _, _ => .error .deleteSides
  | .update, some c, some d => .ok (.update c d)
  | .update, _, _ => .error (.missingSide .update)
  | .noChange, some c, some d => .ok (.noChange c d)
  | .noChange, _, _ => .error (.missingSide .noChange)

end Sides

/-- What is planned for one resource. -/
structure Change where
  id : String
  sides : Sides
  /-- The attributes that an update changes. -/
  differences : Differences := []
  /-- Whether the change is half of a delete and a create, made because the backend changes. -/
  replacement : Bool := false
deriving DecidableEq, Repr

namespace Change

/-- The action. -/
def action (c : Change) : Action := c.sides.action

/-- The recorded version. -/
def current? (c : Change) : Option Resource := c.sides.current?

/-- The desired version. -/
def desired? (c : Change) : Option Resource := c.sides.desired?

/-- The version that the backend is asked about. -/
def resource (c : Change) : Resource := c.sides.resource

/-- Whether a change needs the backend. -/
def isSignificant (c : Change) : Bool := c.action != .noChange

/-- A change of the resource with an identifier, if the right versions are given. -/
def of? (id : String) (action : Action) (current desired : Option Resource)
    (differences : Differences) (replacement : Bool) : Except ChangeError Change :=
  if id = "" then .error .emptyId
  else
    match Sides.of? action current desired with
    | .ok sides => .ok { id, sides, differences, replacement }
    | .error e => .error e

/-- A change in one line. -/
def summary (c : Change) : String :=
  let suffix := if c.replacement then " (replacement)" else ""
  match c.action with
  | .create => "Create " ++ c.id ++ suffix
  | .delete => "Delete " ++ c.id ++ suffix
  | .update =>
    let paths := c.differences.map Prod.fst
    "Update " ++ c.id
      ++ (if paths.isEmpty then "" else " (fields: " ++ Text.join ", " paths ++ ")")
  | .noChange => "No change for " ++ c.id

end Change

end Rollout
