import Rollout.Record.Resource
import Rollout.Release.Lifecycle

/-!
# Records of releases
-/

set_option autoImplicit false

namespace Rollout

/-- A time as a value. -/
def DateTime.toValue (d : DateTime) : Value := .str d.text

/-- The record of an action's outcome. -/
def ActionRecord.toValue (r : ActionRecord) : Value :=
  .object [("resourceId", .str r.resourceId), ("action", .str r.action.name),
    ("status", .str r.status.name), ("error", Record.orNull Value.str r.error),
    ("startedAt", Record.orNull DateTime.toValue r.startedAt),
    ("finishedAt", Record.orNull DateTime.toValue r.finishedAt)]

/-- The record of a release. -/
def Release.toValue (r : Release) : Value :=
  .object [("project", .str r.triple.project), ("workspace", .str r.triple.workspace),
    ("stack", .str r.triple.stack), ("revision", .int r.revision),
    ("spec", Record.orNull Record.collection r.spec),
    ("state", Record.orNull Record.collection r.state),
    ("phase", .str r.phase.name), ("createTime", r.createTime.toValue),
    ("modifiedTime", r.modifiedTime.toValue),
    ("actions", .list (r.actions.map ActionRecord.toValue)),
    ("error", Record.orNull Value.str r.error)]

namespace Record

/-- An action by its name. -/
def action : Value → Checked Action := literal Action.name Action.all

/-- A status by its name. -/
def status : Value → Checked Status := literal Status.name Status.all

/-- A phase by its name. -/
def phase : Value → Checked Phase := literal Phase.name Phase.all

/-- Reads the fields of an action's outcome. -/
def actionFields (fs : Fields) : Checked ActionRecord :=
  (Checked.map ActionRecord.mk (required "resourceId" "resource_id" string fs))
    |>.app (required "action" "action" action fs)
    |>.app (optional "status" "status" .pending status fs)
    |>.app (optional "error" "error" none (nullable string) fs)
    |>.app (optional "startedAt" "started_at" none (nullable time) fs)
    |>.app (optional "finishedAt" "finished_at" none (nullable time) fs)

/-- Reads an action's outcome. -/
def actionRecord : Value → Checked ActionRecord := record actionFields

/-- Reads the fields of a release; one that has no times is made now. -/
def releaseFields (now : DateTime) (fs : Fields) : Checked Release :=
  let build (project workspace stack : String) := Release.mk ⟨project, workspace, stack⟩
  (Checked.map build (required "project" "project" string fs))
    |>.app (required "workspace" "workspace" string fs)
    |>.app (required "stack" "stack" string fs)
    |>.app (required "revision" "revision" positive fs)
    |>.app (optional "spec" "spec" none (nullable resources) fs)
    |>.app (optional "state" "state" (some []) (fun v => (resources v).map some) fs)
    |>.app (optional "phase" "phase" .generating phase fs)
    |>.app (optional "createTime" "create_time" now time fs)
    |>.app (optional "modifiedTime" "modified_time" now time fs)
    |>.app (optional "actions" "actions" [] (listOf actionRecord) fs)
    |>.app (optional "error" "error" none (nullable string) fs)

/-- Reads a release. -/
def release (now : DateTime) : Value → Checked Release := record (releaseFields now)

/-- A new release at a revision that is read. -/
def newRelease (now : DateTime) (t : Triple) (revision : Value) (baseline : List Resource) :
    Checked Release :=
  (Checked.under "revision" (positive revision)).map fun n => Release.new now t n baseline

end Record

end Rollout
