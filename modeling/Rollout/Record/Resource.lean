import Rollout.Record.Field

/-!
# Records of resources
-/

set_option autoImplicit false

namespace Rollout

/-- The fields of a resource's record. -/
def Resource.toFields (r : Resource) : Fields :=
  [("id", .str r.id), ("type", .str r.backend.name), ("attributes", Record.freeFields r.attributes),
    ("dependsOn", Record.stringList r.dependsOn), ("extensions", Record.freeFields r.extensions)]

/-- The record of a resource. -/
def Resource.toValue (r : Resource) : Value := .object r.toFields

namespace Record

/-- A backend by its name. -/
def backend : Value → Checked Backend := literal Backend.name Backend.all

/-- Reads the fields of a resource. -/
def resourceFields (fs : Fields) : Checked Resource :=
  (Checked.map Resource.mk (required "id" "id" nonEmpty fs))
    |>.app (required "type" "type" backend fs)
    |>.app (optional "attributes" "attributes" [] fields fs)
    |>.app (optional "dependsOn" "depends_on" [] strings fs)
    |>.app (optional "extensions" "extensions" [] fields fs)

/-- Reads a resource. -/
def resource : Value → Checked Resource := record resourceFields

/-- The record of a collection of resources. -/
def collection (resources : List Resource) : Value :=
  .object [("resources", .list (resources.map Resource.toValue))]

/-- Reads a collection of resources. -/
def resources : Value → Checked (List Resource) :=
  record (optional "resources" "resources" [] (listOf resource))

end Record

end Rollout
