import Rollout.Plan.Basic
import Rollout.Plan.Drift
import Rollout.Text.Control

/-!
# Reports of plans and drift

A plan is shown with one line a resource, marked by what becomes of it (`mark`), and with one line a
changed attribute.
-/

set_option autoImplicit false

namespace Rollout.Report

/-- The mark of a change; a resource that is deleted and created anew has a mark of its own. -/
def mark (c : Change) : String :=
  if c.replacement then "-/+"
  else
    match c.action with
    | .create => "+"
    | .update => "~"
    | .delete => "-"
    | .noChange => " "

/-- Whether a change is shown: a replacement appears once, at its create. -/
def isShown (unchanged : Bool) (c : Change) : Bool :=
  !(c.action = .delete && c.replacement) && (unchanged || c.isSignificant)

/-- A difference in a plan. -/
def differenceLine (entry : String × Difference) : String :=
  "      " ++ entry.1 ++ ": " ++ entry.2.current.text ++ " => " ++ entry.2.desired.text ++ "\n"

/-- A change with its differences. -/
def changeLines (c : Change) : String :=
  "  " ++ mark c ++ " " ++ c.id ++ "\n" ++ String.join (c.differences.map differenceLine)

/-- A plan; resources that need no action are shown on request. -/
def plan (unchanged : Bool) (p : Plan) : String :=
  if p.isEmpty then "No changes. Infrastructure is up-to-date.\n"
  else
    "Shipyard will perform the following actions:\n\n"
      ++ Text.clean (String.join ((p.changes.filter (isShown unchanged)).map changeLines))
      ++ "\nPlan: " ++ toString (p.count .create) ++ " to add, " ++ toString (p.count .update)
      ++ " to change, " ++ toString (p.count .delete) ++ " to destroy.\n"

/-- A difference in a drift report. -/
def driftLine (entry : String × Difference) : String :=
  "      " ++ entry.1 ++ ": recorded " ++ entry.2.current.text ++ ", live " ++ entry.2.desired.text
    ++ "\n"

/-- The drift of one resource. -/
def driftLines (r : DriftReport) : String :=
  match r.drift with
  | .missing => "  - " ++ r.id ++ ": missing\n"
  | .modified found => "  ~ " ++ r.id ++ "\n" ++ String.join (found.map driftLine)

/-- The drift of a state. -/
def drift (reports : List DriftReport) : String :=
  if reports.isEmpty then "No drift detected.\n"
  else "Shipyard detected drift:\n\n" ++ Text.clean (String.join (reports.map driftLines))

end Rollout.Report
