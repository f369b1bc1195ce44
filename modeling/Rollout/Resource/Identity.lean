import Rollout.Failure

/-!
# Identifiers

The identifier of a Kubernetes object is `apiVersion:kind:namespace:name`, without the namespace
when it is cluster-scoped; that of a Terraform resource is `namespace:provider:type:name`, where
namespace and provider come from the provider's source.
-/

set_option autoImplicit false

namespace Rollout

/-- The identifier of a Kubernetes object; the empty namespace is that of a cluster-scoped one. -/
def kubernetesId? (apiVersion kind name space : String) : Except Failure String :=
  if apiVersion = "" ∨ kind = "" ∨ name = "" then .error .incompleteId
  else .ok (Text.join ":" ([apiVersion, kind] ++ (if space = "" then [] else [space]) ++ [name]))

/-- Where a Terraform provider comes from. -/
structure ProviderSource where
  space : String
  name : String
deriving DecidableEq, Repr

namespace ProviderSource

/-- Reads `namespace/name`, with a host in front, a version behind, or both.  Of three parts the
first is a host when it has a dot in it. -/
def parse? (source : String) : Except ConfigurationError ProviderSource :=
  match (Text.split '/' source).filter (· ≠ "") with
  | [space, name] => .ok ⟨space, name⟩
  | [a, b, c] => if Text.holds '.' a then .ok ⟨b, c⟩ else .ok ⟨a, b⟩
  | [_, space, name, _] => .ok ⟨space, name⟩
  | _ => .error (.providerSource source)

end ProviderSource

/-- The identifier of a Terraform resource. -/
def terraformId? (source type name : String) : Except Failure String :=
  match ProviderSource.parse? source with
  | .ok provider => .ok (Text.join ":" [provider.space, provider.name, type, name])
  | .error e => .error (.configuration e)

end Rollout
