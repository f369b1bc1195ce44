import Rollout.DateTime
import Rollout.Failure

/-!
# Releases

A release is one versioned attempt to bring a stack to its desired resources.  It keeps the desired
resources (its spec), the resources confirmed to exist (its state) and the outcome of every planned
action.
-/

set_option autoImplicit false

namespace Rollout

/-- A stack of a project in a workspace. -/
structure Triple where
  project : String
  workspace : String
  stack : String
deriving DecidableEq, Repr, Inhabited

namespace Triple

/-- The parts of a triple. -/
def parts (t : Triple) : List String := [t.project, t.workspace, t.stack]

/-- A triple as texts show it. -/
def label (t : Triple) : String := Text.join "/" t.parts

end Triple

/-- The outcome of one planned action. -/
structure ActionRecord where
  resourceId : String
  action : Action
  status : Status := .pending
  error : Option String := none
  startedAt : Option DateTime := none
  finishedAt : Option DateTime := none
deriving DecidableEq, Repr, Inhabited

/-- One versioned attempt to bring a stack to its desired resources. -/
structure Release where
  triple : Triple
  revision : Int
  /-- The desired resources, once they have been generated. -/
  spec : Option (List Resource) := none
  /-- The resources confirmed to exist, if they are known. -/
  state : Option (List Resource) := some []
  phase : Phase := .generating
  createTime : DateTime
  modifiedTime : DateTime
  actions : List ActionRecord := []
  error : Option String := none
deriving DecidableEq, Repr, Inhabited

/-- The name of a revision of a triple. -/
def Triple.at (t : Triple) (revision : Int) : String := t.label ++ "@" ++ toString revision

namespace Release

/-- A release as texts name it. -/
def label (r : Release) : String := r.triple.at r.revision

/-- The resources confirmed to exist. -/
def resources (r : Release) : List Resource := r.state.getD []

/-- Whether a release is finished. -/
def isTerminal (r : Release) : Bool := r.phase.isTerminal

/-- The records of the actions that failed. -/
def failedActions (r : Release) : List ActionRecord :=
  r.actions.filter fun record => record.status = .failed

end Release

end Rollout
