import Rollout.Record.Field
import Rollout.Secret.Provider

/-!
# Records of secret references and providers
-/

set_option autoImplicit false

namespace Rollout

/-- The record of a secret reference. -/
def SecretRef.toValue (r : SecretRef) : Value :=
  .object [("name", .str r.name), ("version", .str r.version), ("property", .str r.property)]

/-- The record of settings. -/
def AlicloudProvider.toValue (p : AlicloudProvider) : Value := .object [("region", .str p.region)]

/-- The record of settings. -/
def AwsProvider.toValue (p : AwsProvider) : Value :=
  .object [("region", .str p.region), ("profile", .str p.profile)]

/-- The record of settings. -/
def VaultProvider.toValue (p : VaultProvider) : Value :=
  .object [("server", .str p.server), ("path", Record.orNull Value.str p.path),
    ("version", .str p.version.name)]

/-- The record of settings. -/
def AzureProvider.toValue (p : AzureProvider) : Value :=
  .object [("vaultUrl", Record.orNull Value.str p.vaultUrl),
    ("tenantId", Record.orNull Value.str p.tenantId), ("environmentType", .str p.cloud.name)]

/-- The record of a secret that the specification holds. -/
def FakeSecret.toValue (s : FakeSecret) : Value :=
  .object [("key", .str s.key), ("value", .str s.value),
    ("valueMap", Record.stringFields s.properties), ("version", .str s.version)]

/-- The record of settings. -/
def FakeProvider.toValue (p : FakeProvider) : Value :=
  .object [("data", .list (p.secrets.map FakeSecret.toValue))]

/-- The record of a provider's settings. -/
def SecretProvider.toValue : SecretProvider → Value
  | .alicloud p => p.toValue
  | .aws p => p.toValue
  | .vault p => p.toValue
  | .azure p => p.toValue
  | .fake p => p.toValue

/-- The record of a provider specification. -/
def ProviderSpec.toValue (s : ProviderSpec) : Value :=
  .object [("alicloud", Record.orNull AlicloudProvider.toValue s.alicloud),
    ("aws", Record.orNull AwsProvider.toValue s.aws),
    ("vault", Record.orNull VaultProvider.toValue s.vault),
    ("azure", Record.orNull AzureProvider.toValue s.azure),
    ("fake", Record.orNull FakeProvider.toValue s.fake)]

namespace Record

/-- Reads a secret reference. -/
def secretRef : Value → Checked SecretRef := record fun fs =>
  (Checked.map SecretRef.mk (required "name" "name" nonEmpty fs))
    |>.app (optional "version" "version" "" string fs)
    |>.app (optional "property" "property" "" string fs)

/-- Reads settings. -/
def alicloud : Value → Checked AlicloudProvider := record fun fs =>
  Checked.map AlicloudProvider.mk (required "region" "region" string fs)

/-- Reads settings. -/
def aws : Value → Checked AwsProvider := record fun fs =>
  (Checked.map AwsProvider.mk (required "region" "region" string fs))
    |>.app (optional "profile" "profile" "" string fs)

/-- Reads settings. -/
def vault : Value → Checked VaultProvider := record fun fs =>
  (Checked.map VaultProvider.mk (required "server" "server" string fs))
    |>.app (optional "path" "path" none (nullable string) fs)
    |>.app (optional "version" "version" .v2 (literal VaultVersion.name VaultVersion.all) fs)

/-- Reads settings. -/
def azure : Value → Checked AzureProvider := record fun fs =>
  (Checked.map AzureProvider.mk (optional "vaultUrl" "vault_url" none (nullable string) fs))
    |>.app (optional "tenantId" "tenant_id" none (nullable string) fs)
    |>.app (optional "environmentType" "environment_type" .global
      (literal AzureCloud.name AzureCloud.all) fs)

/-- Reads a secret that the specification holds. -/
def fakeSecret : Value → Checked FakeSecret := record fun fs =>
  (Checked.map FakeSecret.mk (required "key" "key" string fs))
    |>.app (optional "value" "value" "" string fs)
    |>.app (optional "valueMap" "value_map" [] (dictionary string) fs)
    |>.app (optional "version" "version" "" string fs)

/-- Reads settings. -/
def fake : Value → Checked FakeProvider := record fun fs =>
  Checked.map FakeProvider.mk (optional "data" "data" [] (listOf fakeSecret) fs)

/-- Reads a provider specification. -/
def providerSpec : Value → Checked ProviderSpec := record fun fs =>
  (Checked.map ProviderSpec.mk (optional "alicloud" "alicloud" none (nullable alicloud) fs))
    |>.app (optional "aws" "aws" none (nullable aws) fs)
    |>.app (optional "vault" "vault" none (nullable vault) fs)
    |>.app (optional "azure" "azure" none (nullable azure) fs)
    |>.app (optional "fake" "fake" none (nullable fake) fs)

end Record

end Rollout
