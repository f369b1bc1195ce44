import Rollout.Graph.Arrange
import Rollout.Plan.Basic

/-!
# Schedules

The actions of a plan wait for each other:

* a create or update waits for the creates and updates of the resources it depends on, and the
  create of a replaced resource also for the delete of the old one;
* a delete waits for the deletes of the recorded resources that depend on it, and for the updates of
  those that stop depending on it.

An action that others wait for is looked up by its resource.

A schedule is the actions of a plan together with what each waits for, provided they can be ordered.
-/

set_option autoImplicit false

namespace Rollout

namespace Change

/-- Whether a change is an update after which the resource does not depend on another one. -/
def releases (id : String) (c : Change) : Bool :=
  match c.sides with
  | .update _ desired => !desired.dependsOn.contains id
  | _ => false

/-- An action as texts name it. -/
def actionLabel (c : Change) : String := c.action.name ++ ":" ++ c.id

end Change

/-- The actions of a plan, what each waits for, and an order in which all of them can be done. -/
structure Schedule where
  actions : List Change
  /-- For each action, the positions of those it waits for, in ascending order. -/
  before : List (List Nat)
  order : List Nat
deriving Repr

namespace Schedule

/-- The position of the last action that a test admits. -/
def lastAt? (p : Change → Bool) (actions : List Change) : Option Nat :=
  (List.range actions.length).reverse.find? fun i => (actions[i]?).any p

/-- The position of the action that deletes a resource; of several, the last one counts. -/
def deleteAt? (actions : List Change) (id : String) : Option Nat :=
  lastAt? (fun c => c.action = .delete ∧ c.id = id) actions

/-- The position of the action that creates or updates a resource; of several, the last one
counts. -/
def applyAt? (actions : List Change) (id : String) : Option Nat :=
  lastAt? (fun c => c.action ≠ .delete ∧ c.id = id) actions

/-- The recorded resources that depend on a resource. -/
def dependents (baseline : List Resource) (id : String) : List String :=
  Resource.ids (baseline.filter fun r => r.dependsOn.contains id)

/-- What the delete of a resource waits for on account of a recorded resource that depends on it:
its delete if there is one, else its update if that gives up the dependency. -/
def releasedAt? (actions : List Change) (id dependent : String) : Option Nat :=
  (deleteAt? actions dependent).or
    ((applyAt? actions dependent).filter fun j => (actions[j]?).any (Change.releases id))

/-- The positions of the actions that an action waits for, one entry for each reason to wait. -/
def reasons (baseline : List Resource) (actions : List Change) (c : Change) : List Nat :=
  match c.sides with
  | .delete _ => (dependents baseline c.id).filterMap (releasedAt? actions c.id)
  | .create desired | .update _ desired | .noChange _ desired =>
    desired.dependsOn.filterMap (applyAt? actions)
      ++ (if c.replacement then (deleteAt? actions c.id).toList else [])

/-- The positions of the actions that an action waits for, in ascending order. -/
def prerequisites (baseline : List Resource) (actions : List Change) (c : Change) : List Nat :=
  (List.range actions.length).filter fun j => (reasons baseline actions c).contains j

/-- The positions that the action at a position waits for. -/
def waits (s : Schedule) (i : Nat) : List Nat := s.before.getD i []

/-- The number of actions. -/
def size (s : Schedule) : Nat := s.actions.length

/-- The schedule of a plan, or the actions that wait for each other. -/
def of? (plan : Plan) (baseline : List Resource) : Except GraphError Schedule :=
  let actions := plan.actions
  let before := actions.map (prerequisites baseline actions)
  let arranged := arrange (fun i => before.getD i []) actions.length
  if arranged.stuck.isEmpty then .ok ⟨actions, before, arranged.placed⟩
  else .error (.cycle (arranged.stuck.filterMap fun i => (actions[i]?).map Change.actionLabel))

end Schedule

end Rollout
