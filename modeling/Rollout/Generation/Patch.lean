import Rollout.Generation.Pipeline
import Rollout.Project
import Rollout.Workspace.Basic

/-!
# Patches of Kubernetes resources

What a project, a stack and a workspace ask of generated resources:

* `Patch.space` moves namespaced resources to one namespace.  The namespace is part of their
  identifiers, so these change, and every dependency on an old identifier follows;
* `Patch.metadata` adds labels and annotations;
* `Patch.kubeConfig` names the kubeconfig of resources that have none.

`patchesFor` lists what there is to do for a stack.
-/

set_option autoImplicit false

namespace Rollout

/-- A change that is made to all Kubernetes resources. -/
inductive Patch where
  | space (name : String)
  | metadata (added : Metadata)
  | kubeConfig (path : String)
deriving DecidableEq, Repr

namespace Patch

/-- The name that a patch goes by in failures. -/
def name : Patch → String
  | .space _ => "NamespacePatcher"
  | .metadata _ => "MetadataPatcher"
  | .kubeConfig _ => "KubeConfigPatcher"

/-- The attribute that holds the name, namespace, labels and annotations of a Kubernetes object. -/
def metadataKey : String := "metadata"

/-- The metadata of a resource; one that has none has empty ones. -/
def metadataOf (r : Resource) : Value := (Assoc.lookup metadataKey r.attributes).getD (.object [])

/-- A resource with other metadata. -/
def withMetadata (metadata : Value) (r : Resource) : Resource :=
  { r with attributes := Assoc.put metadataKey metadata r.attributes }

/-! ## Namespaces -/

/-- The identifier of a namespaced resource in another namespace. -/
def movedId? (space : String) (id : String) : Option String :=
  match Text.split ':' id with
  | [version, kind, _, name] => some (Text.join ":" [version, kind, space, name])
  | _ => none

/-- A resource in another namespace, if it is namespaced. -/
def moved? (space : String) (r : Resource) : Except Failure (Option Resource) :=
  match r.backend, movedId? space r.id with
  | .kubernetes, some id =>
    match metadataOf r with
    | .object fs =>
      .ok (some { withMetadata (.object (Assoc.put "namespace" (.str space) fs)) r with id })
    | v => .error (.misuse (.assign v))
  | _, _ => .ok none

/-- Resources that are being moved, and the new identifiers by the old ones. -/
abbrev Moves := Workbench × List (String × String)

/-- Moves the resource with a label. -/
def moveItem (space : String) (state : Moves) (label : Nat) : Except Failure Moves :=
  match state.1.item? label with
  | none => .ok state
  | some r =>
    match moved? space r with
    | .error e => .error e
    | .ok none => .ok state
    | .ok (some new) =>
      .ok (state.1.modify label fun _ => new,
        if new.id = r.id then state.2 else Assoc.put r.id new.id state.2)

/-- Moves resources. -/
def moveItems (space : String) : List Nat → Moves → Except Failure Moves
  | [], state => .ok state
  | label :: rest, state =>
    match moveItem space state label with
    | .error e => .error e
    | .ok state => moveItems space rest state

/-- A resource whose dependencies follow the new identifiers. -/
def follow (moves : List (String × String)) (r : Resource) : Resource :=
  { r with dependsOn := r.dependsOn.map fun id => (Assoc.lookup id moves).getD id }

/-- Moves all namespaced resources. -/
def moveAll (space : String) (b : Workbench) : Except Failure Workbench :=
  match moveItems space b.labels (b, []) with
  | .error e => .error e
  | .ok (b, moves) => .ok (b.modifyAll (follow moves))

/-! ## Labels and annotations -/

/-- Strings as entries of an object. -/
def entriesOf (texts : List (String × String)) : Fields := texts.map fun (key, s) => (key, .str s)

/-- Metadata with entries added under a key. -/
def merge (key : String) (added : List (String × String)) (metadata : Value) :
    Except Failure Value :=
  if added.isEmpty then .ok metadata
  else
    match metadata with
    | .object fs =>
      match Assoc.lookup key fs with
      | none => .ok (.object (Assoc.put key (.object (Assoc.ofList (entriesOf added))) fs))
      | some (.object old) =>
        .ok (.object (Assoc.put key (.object (Assoc.overlay old (entriesOf added))) fs))
      | some v => .error (.misuse (.call v "update"))
    | v => .error (.misuse (.call v "setdefault"))

/-- A Kubernetes resource with labels and annotations added. -/
def labelled (added : Metadata) (r : Resource) : Except Failure Resource :=
  match r.backend with
  | .terraform => .ok r
  | .kubernetes =>
    match merge "labels" added.labels (metadataOf r) with
    | .error e => .error e
    | .ok labelled =>
      match merge "annotations" added.annotations labelled with
      | .error e => .error e
      | .ok annotated => .ok (withMetadata annotated r)

/-- Adds labels and annotations to resources. -/
def labelItems (added : Metadata) : List Nat → Workbench → Except Failure Workbench
  | [], b => .ok b
  | label :: rest, b =>
    match b.item? label with
    | none => labelItems added rest b
    | some r =>
      match labelled added r with
      | .error e => .error e
      | .ok new => labelItems added rest (b.modify label fun _ => new)

/-! ## Kubeconfigs -/

/-- A Kubernetes resource that names a kubeconfig. -/
def configured (path : String) (r : Resource) : Resource :=
  match r.backend with
  | .terraform => r
  | .kubernetes =>
    if Assoc.has Resource.kubeConfigExtension r.extensions then r
    else { r with
      extensions := Assoc.put Resource.kubeConfigExtension (.str path) r.extensions }

/-! ## All patches -/

/-- Carries out a patch. -/
def apply (p : Patch) (b : Workbench) : Except Failure Workbench :=
  match p with
  | .space name => moveAll name b
  | .metadata added => labelItems added b.labels b
  | .kubeConfig path => .ok (b.modifyAll (configured path))

/-- A patch as a patcher. -/
def toPatcher (p : Patch) : Patcher := ⟨p.name, p.apply⟩

end Patch

/-- What there is to do for a stack.  The stack's extensions are read after the project's. -/
def patchesFor (project : Project) (stack : Stack) (workspace : Option Workspace) : List Patch :=
  let extensions := project.extensions ++ stack.extensions
  let space := Extension.namespaceOf extensions
  let added := Extension.metadataOf extensions
  let path := match workspace with
    | some w => w.kubeConfig
    | none => ""
  (if space = "" then [] else [.space space])
    ++ (if added.labels.isEmpty && added.annotations.isEmpty then [] else [.metadata added])
    ++ (if path = "" then [] else [.kubeConfig path])

end Rollout
