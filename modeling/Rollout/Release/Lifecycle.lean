import Rollout.Release.Basic

/-!
# The life of a release

The steps of a release, each stamped with the time `now` at which it is taken.  A step that is not
allowed answers why, and the release it was tried on stays as it was.

* the phase changes only along `Phase.canMove`;
* the spec is attached while generating and frozen after that;
* the state changes only while applying or destroying.
-/

set_option autoImplicit false

namespace Rollout.Release

/-- A new release: its state is that of the release before it. -/
def new (now : DateTime) (triple : Triple) (revision : Int) (baseline : List Resource) : Release :=
  { triple, revision, state := some baseline, createTime := now, modifiedTime := now }

/-- Moves to another phase. -/
def move (now : DateTime) (target : Phase) (r : Release) : Except LifecycleError Release :=
  if r.phase.canMove target then .ok { r with phase := target, modifiedTime := now }
  else .error (.move r.label r.phase target)

/-- Attaches the generated spec. -/
def attachSpec (now : DateTime) (spec : List Resource) (r : Release) :
    Except LifecycleError Release :=
  if r.phase = .generating then .ok { r with spec := some spec, modifiedTime := now }
  else .error (.specFrozen r.label r.phase)

/-- Starts the operation; all but destroy need a spec. -/
def start (now : DateTime) (operation : Operation) (r : Release) : Except LifecycleError Release :=
  if operation.needsSpec ∧ r.spec = none then .error (.noSpec r.label operation)
  else r.move now operation.phase

/-- Records the state reached so far, or that it is not known. -/
def checkpoint (now : DateTime) (state : Option (List Resource)) (r : Release) :
    Except LifecycleError Release :=
  if r.phase.isMutating then .ok { r with state, modifiedTime := now }
  else .error (.stateFixed r.label r.phase)

/-- Records the last state, if one is given. -/
def settle (state : Option (List Resource)) (required : Bool) (r : Release) :
    Except LifecycleError Release :=
  match state with
  | none => if required then .error (.stateRequired r.label r.phase) else .ok r
  | some state =>
    if r.phase.isMutating then .ok { r with state := some state }
    else .error (.stateFixed r.label r.phase)

/-- Finishes successfully.  A release that changes its state has to record the last one, any other
must not. -/
def succeed (now : DateTime) (state : Option (List Resource)) (r : Release) :
    Except LifecycleError Release :=
  match r.settle state r.phase.isMutating with
  | .ok r => r.move now .succeeded
  | .error e => .error e

/-- Finishes as failed, with the reason and the state reached, if one is given. -/
def fail (now : DateTime) (reason : String) (state : Option (List Resource)) (r : Release) :
    Except LifecycleError Release :=
  if r.isTerminal then .error (.finished r.label r.phase)
  else
    match r.settle state false with
    | .ok r => { r with error := some reason }.move now .failed
    | .error e => .error e

end Rollout.Release
