import Rollout.Console.Table
import Rollout.Release.Basic
import Rollout.Text.Control

/-!
# Reports of releases

A release is shown with its phase, its times, the sizes of its spec and its state, and the outcome
of every planned action; several releases are shown in a table with one row each.
-/

set_option autoImplicit false

namespace Rollout.Report

/-- The mark of an action's outcome. -/
def outcomeMark : Status → String
  | .succeeded => "✓"
  | .failed => "✗"
  | _ => "⋯"

/-- The line of an action's error, if it has one and did not succeed. -/
def errorLine (r : ActionRecord) : String :=
  match r.error with
  | none => ""
  | some text => if text = "" ∨ r.status = .succeeded then "" else "    " ++ text ++ "\n"

/-- An action with its outcome. -/
def actionLines (r : ActionRecord) : String :=
  "  " ++ outcomeMark r.status ++ " " ++ r.action.name ++ " " ++ r.resourceId ++ ": "
    ++ r.status.name ++ "\n" ++ errorLine r

/-- The number of actions with a status. -/
def countStatus (s : Status) (records : List ActionRecord) : String :=
  toString (records.countP fun r => r.status = s)

/-- The outcome of every action. -/
def actions (records : List ActionRecord) : String :=
  Text.clean (String.join (records.map actionLines))
    ++ "\nActions: " ++ countStatus .succeeded records ++ " succeeded, "
    ++ countStatus .failed records ++ " failed, " ++ countStatus .skipped records ++ " skipped.\n"

/-- The line of a release's error, if it has one. -/
def releaseErrorLine (r : Release) : String :=
  match r.error with
  | none => ""
  | some text => if text = "" then "" else "  Error:    " ++ text ++ "\n"

/-- What is shown of a release apart from its actions. -/
def summaryLines (r : Release) : String :=
  "Release " ++ r.label ++ "\n"
    ++ "  Phase:    " ++ r.phase.name ++ "\n"
    ++ "  Created:  " ++ r.createTime.toSecond ++ "\n"
    ++ "  Modified: " ++ r.modifiedTime.toSecond ++ "\n"
    ++ "  Spec:     " ++ toString (r.spec.getD []).length ++ " resources\n"
    ++ "  State:    " ++ toString r.resources.length ++ " resources\n"
    ++ releaseErrorLine r

/-- A release with the outcome of its actions. -/
def release (r : Release) : String :=
  Text.clean (summaryLines r) ++ (if r.actions.isEmpty then "" else "\n" ++ actions r.actions)

/-- The size of a release's spec, or a dash if it has none. -/
def specSize (r : Release) : String :=
  match r.spec with
  | some resources => toString resources.length
  | none => "-"

/-- The table of several releases. -/
def releases (rs : List Release) : Console.Table where
  title := "Releases"
  columns :=
    [⟨"Revision", true, rs.map fun r => toString r.revision⟩,
      ⟨"Phase", false, rs.map fun r => r.phase.name⟩,
      ⟨"Created", false, rs.map fun r => r.createTime.toMinute⟩,
      ⟨"Modified", false, rs.map fun r => r.modifiedTime.toMinute⟩,
      ⟨"Spec", true, rs.map specSize⟩,
      ⟨"State", true, rs.map fun r => toString r.resources.length⟩]

end Rollout.Report
