import Rollout.Plan.Basic
import Rollout.Release.Basic

/-!
# The state that an execution leaves

The recorded resources with every confirmed action applied: a confirmed delete removes the recorded
version, a confirmed create or update records what the backend answered, and a resource that needed
no action is recorded in its desired version.  What was not confirmed keeps its recorded version.
The resources are listed in apply order, and after them those that are recorded only.
-/

set_option autoImplicit false

namespace Rollout

/-- Why a state cannot be computed from the outcomes of actions. -/
inductive OutcomeError where
  | tooFewStatuses
  | unknownResult (id : String)
deriving DecidableEq, Repr

namespace Plan

/-- The status of the action of a kind on a resource. -/
def statusOf (p : Plan) (statuses : List Status) (action : Action) (id : String) : Option Status :=
  (p.actions.zip statuses).reverse.findSome? fun entry =>
    if entry.1.action = action ∧ entry.1.id = id then some entry.2 else none

/-- Whether the action of a change succeeded. -/
def confirmed (p : Plan) (statuses : List Status) (c : Change) : Bool :=
  p.statusOf statuses c.action c.id = some .succeeded

/-- What the backends answered, by resource. -/
def results (p : Plan) (applied : List (Nat × Resource)) : List (String × Resource) :=
  p.actions.zipIdx.foldl
    (fun found (c, i) =>
      match applied.find? fun entry => entry.1 = i with
      | some (_, r) => Assoc.put c.id r found
      | none => found) []

/-- The recorded resources by identifier. -/
def recorded (baseline : List Resource) : List (String × Resource) :=
  Assoc.ofList (baseline.map fun r => (r.id, r))

/-- The recorded resources that no delete has removed. -/
def remaining (p : Plan) (baseline : List Resource) (statuses : List Status) :
    List (String × Resource) :=
  (recorded baseline).filter fun entry =>
    !p.deletes.any fun c => c.id = entry.1 && p.confirmed statuses c

/-- The version of a desired resource that is recorded after the execution, if there is one. -/
def keptVersion (p : Plan) (statuses : List Status) (found left : List (String × Resource))
    (c : Change) : Option Resource :=
  match c.sides with
  | .delete _ => none
  | .noChange _ desired => some desired
  | .create desired | .update _ desired =>
    if p.confirmed statuses c then some ((Assoc.lookup c.id found).getD desired)
    else Assoc.lookup c.id left

/-- The state after an execution.  A confirmed action whose backend answered nothing records the
desired version. -/
def resultingState (p : Plan) (baseline : List Resource) (statuses : List Status)
    (applied : List (Nat × Resource)) : List Resource :=
  let found := p.results applied
  let left := p.remaining baseline statuses
  let applies := p.changes.filter fun c => c.action ≠ .delete
  applies.filterMap (p.keptVersion statuses found left)
    ++ (left.filter fun entry => !applies.any fun c => c.id = entry.1).map Prod.snd

/-- The first confirmed create or update whose result is not known. -/
def unknownResult? (p : Plan) (statuses : List Status) (applied : List (Nat × Resource)) :
    Option String :=
  (p.changes.find? fun c =>
    (c.action = .create || c.action = .update) && p.confirmed statuses c
      && !Assoc.has c.id (p.results applied)).map Change.id

/-- The state after an execution, provided that every action has a status and every confirmed create
or update a result. -/
def resultingState? (p : Plan) (baseline : List Resource) (statuses : List Status)
    (applied : List (Nat × Resource)) : Except OutcomeError (List Resource) :=
  if statuses.length < p.actions.length then .error .tooFewStatuses
  else
    match p.unknownResult? statuses applied with
    | some id => .error (.unknownResult id)
    | none => .ok (p.resultingState baseline statuses applied)

end Plan

end Rollout
