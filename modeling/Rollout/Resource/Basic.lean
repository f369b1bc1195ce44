import Rollout.Text.Segments
import Rollout.Value.Text

/-!
# Resources

A resource is one object that a backend holds or is asked to hold.  Its identifier is what the
engine plans by; its attributes are the backend's business.
-/

set_option autoImplicit false

namespace Rollout

/-- The kind of backend that owns a resource. -/
inductive Backend where
  | kubernetes
  | terraform
deriving DecidableEq, Repr, Inhabited

namespace Backend

/-- The name of a backend in records and reports. -/
def name : Backend → String
  | .kubernetes => "Kubernetes"
  | .terraform => "Terraform"

/-- All backends. -/
def all : List Backend := [.kubernetes, .terraform]

end Backend

/-- One desired or recorded backend object. -/
structure Resource where
  id : String
  backend : Backend
  attributes : Fields := []
  /-- The identifiers of the resources it needs. -/
  dependsOn : List String := []
  /-- Hints for patchers and backends. -/
  extensions : Fields := []
deriving DecidableEq, Repr, Inhabited

namespace Resource

/-- The extension that overrides the kind of a Kubernetes resource. -/
def kindExtension : String := "GVK"

/-- The extension that names the kubeconfig of a Kubernetes resource. -/
def kubeConfigExtension : String := "kubeConfig"

/-- The leading segments of a resource's identifier. -/
def leading (count : Nat) (r : Resource) : String := Text.join ":" ((Text.split ':' r.id).take count)

/-- The key that resources of one kind share: `apiVersion:kind` for Kubernetes, unless the resource
has a kind of its own, and `namespace:provider:type` for Terraform. -/
def kindKey (r : Resource) : String :=
  match r.backend with
  | .kubernetes =>
    match Assoc.lookup kindExtension r.extensions with
    | some kind => if kind.truthy then kind.nameText else r.leading 2
    | none => r.leading 2
  | .terraform => r.leading 3

/-- The identifiers of a list of resources, in order. -/
def ids (resources : List Resource) : List String := resources.map Resource.id

/-- The first resource with an identifier. -/
def find (id : String) (resources : List Resource) : Option Resource :=
  resources.find? fun r => r.id = id

end Resource

end Rollout
