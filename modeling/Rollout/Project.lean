import Rollout.Value.Basic

/-!
# Projects and stacks

A project has stacks.  Both may carry extensions, which change how the generated resources look: the
namespace they go to, or labels and annotations that are added to them.
-/

set_option autoImplicit false

namespace Rollout

/-- What an extension changes. -/
inductive ExtensionKind where
  | metadata
  | space
deriving DecidableEq, Repr

namespace ExtensionKind

/-- The name of a kind in records. -/
def name : ExtensionKind → String
  | .metadata => "kubernetesMetadata"
  | .space => "kubernetesNamespace"

/-- All kinds. -/
def all : List ExtensionKind := [.metadata, .space]

end ExtensionKind

/-- Labels and annotations by key. -/
structure Metadata where
  labels : List (String × String) := []
  annotations : List (String × String) := []
deriving DecidableEq, Repr

/-- A change of how generated resources look.  Only the part that its kind names counts. -/
structure Extension where
  kind : ExtensionKind
  space : String := ""
  metadata : Metadata := {}
deriving DecidableEq, Repr

/-- A stack of a project. -/
structure Stack where
  name : String
  workspace : String := ""
  backend : String := ""
  description : Option String := none
  labels : List (String × String) := []
  path : String := ""
  extensions : List Extension := []
deriving DecidableEq, Repr

/-- A project. -/
structure Project where
  name : String
  description : Option String := none
  labels : List (String × String) := []
  path : String := ""
  allStacks : List Stack := []
  extensions : List Extension := []
deriving DecidableEq, Repr

/-- The namespace that extensions move resources to: the last one that is given. -/
def Extension.namespaceOf (extensions : List Extension) : String :=
  extensions.foldl
    (fun found e => if e.kind = .space ∧ e.space ≠ "" then e.space else found) ""

/-- The labels and annotations that extensions add; of several values for a key the last one
counts. -/
def Extension.metadataOf (extensions : List Extension) : Metadata :=
  extensions.foldl
    (fun found e =>
      if e.kind = .metadata then
        ⟨Assoc.overlay found.labels e.metadata.labels,
          Assoc.overlay found.annotations e.metadata.annotations⟩
      else found) {}

end Rollout
