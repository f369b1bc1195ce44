import Rollout.Graph.Basic
import Rollout.Plan.Change

/-!
# Plans

A plan compares the desired resources with the last recorded ones and gives every resource its
action.  It lists the deletes first, in the destroy order of the recorded resources, and then every
desired resource in apply order.  A resource whose backend changes is deleted and created anew, since
the attributes of different backends cannot be compared.
-/

set_option autoImplicit false

namespace Rollout

/-- What is to be done to turn the recorded resources into the desired ones. -/
structure Plan where
  changes : List Change
deriving DecidableEq, Repr

namespace Plan

/-- The changes with a given action. -/
def withAction (a : Action) (p : Plan) : List Change := p.changes.filter fun c => c.action = a

/-- The deletes. -/
def deletes (p : Plan) : List Change := p.withAction .delete

/-- The changes that need the backend, in the order of the plan. -/
def actions (p : Plan) : List Change := p.changes.filter Change.isSignificant

/-- Whether no change needs the backend. -/
def isEmpty (p : Plan) : Bool := p.actions.isEmpty

/-- The changes of one resource. -/
def changesFor (id : String) (p : Plan) : List Change := p.changes.filter fun c => c.id = id

/-- How many changes have a given action. -/
def count (a : Action) (p : Plan) : Nat := (p.withAction a).length

/-- What becomes of a recorded resource that is not kept: it is deleted if it is not desired, or is
desired of another backend. -/
def deleteOf (desired : Graph) (current : Resource) : Option Change :=
  match desired.find current.id with
  | none => some { id := current.id, sides := .delete current }
  | some wanted =>
    if wanted.backend = current.backend then none
    else some { id := current.id, sides := .delete current, replacement := true }

/-- What becomes of a desired resource. -/
def applyOf (last : Graph) (desired : Resource) : Change :=
  match last.find desired.id with
  | none => { id := desired.id, sides := .create desired }
  | some current =>
    if current.backend = desired.backend then
      let found := Rollout.differences "" current.attributes desired.attributes
      { id := desired.id, differences := found,
        sides := if found.isEmpty then .noChange current desired else .update current desired }
    else { id := desired.id, sides := .create desired, replacement := true }

/-- The changes between two graphs. -/
def between (desired last : Graph) : Plan :=
  ⟨last.destroyOrdered.filterMap (deleteOf desired) ++ desired.ordered.map (applyOf last)⟩

/-- Plans the desired resources against the recorded ones. -/
def compute (desired last : List Resource) : Except Failure Plan :=
  match Graph.build true desired with
  | .error e => .error (.graph e)
  | .ok desiredGraph =>
    match Graph.build false last with
    | .error e => .error (.graph e)
    | .ok lastGraph =>
      let plan := between desiredGraph lastGraph
      if plan.changes.any fun c => c.id = "" then .error (.change .emptyId) else .ok plan

end Plan

end Rollout
