/-!
# Phases and operations

A release passes from `generating` through the phase of its operation to one of the two terminal
phases:

    generating ─┬─> previewing ─┐
                ├─> applying  ──┼─> succeeded | failed
                ├─> destroying ─┘
                └─> failed

`Phase.Allowed` is that diagram as a relation and `Phase.canMove` decides it.
-/

set_option autoImplicit false

namespace Rollout

/-- The phase of a release. -/
inductive Phase where
  | generating
  | previewing
  | applying
  | destroying
  | succeeded
  | failed
deriving DecidableEq, Repr, Inhabited

/-- What a release was made for. -/
inductive Operation where
  | preview
  | apply
  | destroy
deriving DecidableEq, Repr

namespace Phase

/-- All phases, in the order of a release's life. -/
def all : List Phase := [.generating, .previewing, .applying, .destroying, .succeeded, .failed]

/-- The name of a phase in records. -/
def name : Phase → String
  | .generating => "generating"
  | .previewing => "previewing"
  | .applying => "applying"
  | .destroying => "destroying"
  | .succeeded => "succeeded"
  | .failed => "failed"

/-- Whether a release in this phase is finished. -/
def isTerminal : Phase → Bool
  | .succeeded | .failed => true
  | _ => false

/-- Whether a release in this phase changes its state. -/
def isMutating : Phase → Bool
  | .applying | .destroying => true
  | _ => false

/-- Whether a release may move from one phase to another. -/
def canMove : Phase → Phase → Bool
  | .generating, .previewing | .generating, .applying | .generating, .destroying => true
  | .generating, .failed => true
  | .previewing, .succeeded | .applying, .succeeded | .destroying, .succeeded => true
  | .previewing, .failed | .applying, .failed | .destroying, .failed => true
  | _, _ => false

/-- The diagram of phases: an operation is started, a started operation ends, and a release may fail
before its operation starts. -/
inductive Allowed : Phase → Phase → Prop where
  | start {p : Phase} (started : p = .previewing ∨ p = .applying ∨ p = .destroying) :
      Allowed .generating p
  | finish {p q : Phase} (started : p = .previewing ∨ p = .applying ∨ p = .destroying)
      (terminal : q.isTerminal = true) : Allowed p q
  | giveUp : Allowed .generating .failed

end Phase

namespace Operation

/-- The name of an operation. -/
def name : Operation → String
  | .preview => "preview"
  | .apply => "apply"
  | .destroy => "destroy"

/-- All operations. -/
def all : List Operation := [.preview, .apply, .destroy]

/-- The phase that runs an operation. -/
def phase : Operation → Phase
  | .preview => .previewing
  | .apply => .applying
  | .destroy => .destroying

/-- Whether an operation works from a generated spec. -/
def needsSpec : Operation → Bool
  | .destroy => false
  | _ => true

end Operation

/-- What is done to a resource. -/
inductive Action where
  | create
  | update
  | delete
  | noChange
deriving DecidableEq, Repr, Inhabited

namespace Action

/-- The name of an action in records. -/
def name : Action → String
  | .create => "create"
  | .update => "update"
  | .delete => "delete"
  | .noChange => "no_change"

/-- All actions. -/
def all : List Action := [.create, .update, .delete, .noChange]

end Action

/-- How far a planned action got. -/
inductive Status where
  | pending
  | running
  | succeeded
  | failed
  | skipped
  | cancelled
deriving DecidableEq, Repr, Inhabited

namespace Status

/-- The name of a status in records. -/
def name : Status → String
  | .pending => "pending"
  | .running => "running"
  | .succeeded => "succeeded"
  | .failed => "failed"
  | .skipped => "skipped"
  | .cancelled => "cancelled"

/-- All statuses. -/
def all : List Status := [.pending, .running, .succeeded, .failed, .skipped, .cancelled]

end Status

end Rollout
