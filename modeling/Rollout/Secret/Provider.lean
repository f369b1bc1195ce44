import Rollout.Failure

/-!
# Secret providers

A secret lives in a store outside, and is referred to by name.  The provider says which store that
is; a specification has room for one provider of each kind and has to fill exactly one.

* `ProviderSpec.configured` : the providers that are filled in;
* `ProviderSpec.single?` : the one that is, or why there is no such one.
-/

set_option autoImplicit false

namespace Rollout

/-- A reference to a secret. -/
structure SecretRef where
  name : String
  version : String := ""
  property : String := ""
deriving DecidableEq, Repr

/-- The versions of a vault's key-value engine. -/
inductive VaultVersion where
  | v1
  | v2
deriving DecidableEq, Repr

namespace VaultVersion

/-- The name of a version in records. -/
def name : VaultVersion → String
  | .v1 => "v1"
  | .v2 => "v2"

/-- All versions. -/
def all : List VaultVersion := [.v1, .v2]

end VaultVersion

/-- The clouds that a key vault may live in. -/
inductive AzureCloud where
  | global
  | usGovernment
  | china
  | german
deriving DecidableEq, Repr

namespace AzureCloud

/-- The name of a cloud in records. -/
def name : AzureCloud → String
  | .global => "PublicCloud"
  | .usGovernment => "USGovernmentCloud"
  | .china => "ChinaCloud"
  | .german => "GermanCloud"

/-- All clouds. -/
def all : List AzureCloud := [.global, .usGovernment, .china, .german]

end AzureCloud

/-- The secrets manager of a region. -/
structure AlicloudProvider where
  region : String
deriving DecidableEq, Repr

/-- The secrets manager of a region, reached with a profile. -/
structure AwsProvider where
  region : String
  profile : String := ""
deriving DecidableEq, Repr

/-- A vault server. -/
structure VaultProvider where
  server : String
  path : Option String := none
  version : VaultVersion := .v2
deriving DecidableEq, Repr

/-- A key vault. -/
structure AzureProvider where
  vaultUrl : Option String := none
  tenantId : Option String := none
  cloud : AzureCloud := .global
deriving DecidableEq, Repr

/-- A secret written into the specification itself. -/
structure FakeSecret where
  key : String
  value : String := ""
  /-- The properties of the secret. -/
  properties : List (String × String) := []
  version : String := ""
deriving DecidableEq, Repr

/-- The secrets written into the specification itself. -/
structure FakeProvider where
  secrets : List FakeSecret := []
deriving DecidableEq, Repr

/-- A provider with its settings. -/
inductive SecretProvider where
  | alicloud (settings : AlicloudProvider)
  | aws (settings : AwsProvider)
  | vault (settings : VaultProvider)
  | azure (settings : AzureProvider)
  | fake (settings : FakeProvider)
deriving DecidableEq, Repr

/-- The name of a provider's kind. -/
def SecretProvider.kind : SecretProvider → String
  | .alicloud _ => "alicloud"
  | .aws _ => "aws"
  | .vault _ => "vault"
  | .azure _ => "azure"
  | .fake _ => "fake"

/-- A specification with room for one provider of each kind. -/
structure ProviderSpec where
  alicloud : Option AlicloudProvider := none
  aws : Option AwsProvider := none
  vault : Option VaultProvider := none
  azure : Option AzureProvider := none
  fake : Option FakeProvider := none
deriving DecidableEq, Repr

namespace ProviderSpec

/-- The providers that are filled in. -/
def configured (s : ProviderSpec) : List SecretProvider :=
  (s.alicloud.map .alicloud).toList ++ (s.aws.map .aws).toList ++ (s.vault.map .vault).toList
    ++ (s.azure.map .azure).toList ++ (s.fake.map .fake).toList

/-- The one provider that is filled in. -/
def single? (s : ProviderSpec) : Except ConfigurationError SecretProvider :=
  match s.configured with
  | [] => .error .noProvider
  | [provider] => .ok provider
  | several => .error (.manyProviders (several.map SecretProvider.kind))

end ProviderSpec

end Rollout
