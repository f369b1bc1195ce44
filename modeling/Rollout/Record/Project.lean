import Rollout.Project
import Rollout.Record.Field

/-!
# Records of projects and stacks
-/

set_option autoImplicit false

namespace Rollout

/-- The record of labels and annotations. -/
def Metadata.toValue (m : Metadata) : Value :=
  .object [("labels", Record.stringFields m.labels),
    ("annotations", Record.stringFields m.annotations)]

/-- The record of an extension. -/
def Extension.toValue (e : Extension) : Value :=
  .object [("kind", .str e.kind.name),
    ("kubernetesNamespace", .object [("namespace", .str e.space)]),
    ("kubernetesMetadata", e.metadata.toValue)]

/-- The record of a stack. -/
def Stack.toValue (s : Stack) : Value :=
  .object [("name", .str s.name), ("workspace", .str s.workspace), ("backend", .str s.backend),
    ("description", Record.orNull Value.str s.description),
    ("labels", Record.stringFields s.labels), ("path", .str s.path),
    ("extensions", .list (s.extensions.map Extension.toValue))]

/-- The record of a project. -/
def Project.toValue (p : Project) : Value :=
  .object [("name", .str p.name), ("description", Record.orNull Value.str p.description),
    ("labels", Record.stringFields p.labels), ("path", .str p.path),
    ("stacks", .list (p.allStacks.map Stack.toValue)),
    ("extensions", .list (p.extensions.map Extension.toValue))]

namespace Record

/-- Reads the namespace of an extension. -/
def spaceBlock : Value → Checked String := record (optional "namespace" "namespace" "" string)

/-- Reads labels and annotations. -/
def metadata : Value → Checked Metadata := record fun fs =>
  (Checked.map Metadata.mk (optional "labels" "labels" [] (dictionary string) fs))
    |>.app (optional "annotations" "annotations" [] (dictionary string) fs)

/-- Reads an extension. -/
def extension : Value → Checked Extension := record fun fs =>
  (Checked.map Extension.mk
      (required "kind" "kind" (literal ExtensionKind.name ExtensionKind.all) fs))
    |>.app (optional "kubernetesNamespace" "kube_namespace" "" spaceBlock fs)
    |>.app (optional "kubernetesMetadata" "kube_metadata" {} metadata fs)

/-- Reads a stack. -/
def stack : Value → Checked Stack := record fun fs =>
  (Checked.map Stack.mk (required "name" "name" string fs))
    |>.app (optional "workspace" "workspace" "" string fs)
    |>.app (optional "backend" "backend" "" string fs)
    |>.app (optional "description" "description" none (nullable string) fs)
    |>.app (optional "labels" "labels" [] (dictionary string) fs)
    |>.app (optional "path" "path" "" string fs)
    |>.app (optional "extensions" "extensions" [] (listOf extension) fs)

/-- Reads a project. -/
def project : Value → Checked Project := record fun fs =>
  (Checked.map Project.mk (required "name" "name" string fs))
    |>.app (optional "description" "description" none (nullable string) fs)
    |>.app (optional "labels" "labels" [] (dictionary string) fs)
    |>.app (optional "path" "path" "" string fs)
    |>.app (optional "stacks" "stacks" [] (listOf stack) fs)
    |>.app (optional "extensions" "extensions" [] (listOf extension) fs)

end Record

end Rollout
