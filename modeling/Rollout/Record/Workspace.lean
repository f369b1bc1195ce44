import Rollout.Record.Secret
import Rollout.Workspace.Basic

/-!
# Records of workspaces

The blocks of a module may be written out, as `default` and `patchers`, or inline: then every key but
`default` is a patch block.  A patch block may be written out, as `config` and `projectSelector`, or
inline: then every key but the selector is configuration.
-/

set_option autoImplicit false

namespace Rollout

/-- The record of a patch block. -/
def PatchBlock.toValue (b : PatchBlock) : Value :=
  .object [("config", Record.freeFields b.config), ("projectSelector", Record.stringList b.selector)]

/-- The record of the blocks of a module. -/
def ModuleBlocks.toValue (b : ModuleBlocks) : Value :=
  .object [("default", Record.freeFields b.base),
    ("patchers", .object (b.patches.map fun (name, block) => (name, block.toValue)))]

/-- The record of a module's configuration. -/
def ModuleConfig.toValue (m : ModuleConfig) : Value :=
  .object [("path", .str m.path), ("version", .str m.version), ("configs", m.blocks.toValue)]

/-- The record of a provider's settings. -/
def ProviderSettings.toValue (p : ProviderSettings) : Value :=
  .object ([("source", .str p.source), ("version", .str p.version)]
    ++ Value.dumpedFields p.extra)

/-- The record of the settings of Kubernetes. -/
def kubeConfigToValue (path : String) : Value := .object [("kubeConfig", .str path)]

/-- The record of the settings of the backends. -/
def BackendSettings.toValue (s : BackendSettings) : Value :=
  .object [("kubernetes", Record.orNull kubeConfigToValue s.kubeConfig),
    ("terraform", .object (s.terraform.map fun (name, p) => (name, p.toValue)))]

/-- The record of the place where secrets are kept. -/
def SecretStoreSpec.toValue (s : SecretStoreSpec) : Value :=
  .object [("provider", Record.orNull ProviderSpec.toValue s.provider)]

/-- The record of a workspace. -/
def Workspace.toValue (w : Workspace) : Value :=
  .object [("name", .str w.name),
    ("modules", .object (w.modules.map fun (name, m) => (name, m.toValue))),
    ("runtimes", Record.orNull BackendSettings.toValue w.backends),
    ("secretStore", Record.orNull SecretStoreSpec.toValue w.secretStore)]

namespace Record

/-- The name of a patch block's selector. -/
def selectorField : String := "projectSelector"

/-- The plain name of a patch block's selector, which is also the one that an inline block's selector
is reported under. -/
def plainSelectorField : String := "project_selector"

/-- Reads the selector of an inline block. -/
def inlineSelector (fs : Fields) : Checked (List String) :=
  match field? selectorField plainSelectorField fs with
  | some (_, v) => .under plainSelectorField (strings v)
  | none => .ok []

/-- Reads a patch block. -/
def patchBlock : Value → Checked PatchBlock := record fun fs =>
  if Assoc.has "config" fs then
    (Checked.map PatchBlock.mk (required "config" "config" fields fs))
      |>.app (optional selectorField plainSelectorField [] strings fs)
  else
    Checked.map (PatchBlock.mk (Assoc.erase plainSelectorField (Assoc.erase selectorField fs)))
      (inlineSelector fs)

/-- Reads the patch blocks of a module. -/
def patchBlocks (v : Value) : Checked (List (String × PatchBlock)) :=
  .under "patchers" (dictionary patchBlock v)

/-- Reads an inline default block: one that counts as absent is empty. -/
def inlineDefault (fs : Fields) : Checked Fields :=
  match Assoc.lookup defaultBlock fs with
  | some v => if v.truthy then .under defaultBlock (fields v) else .ok []
  | none => .ok []

/-- Reads the blocks of a module. -/
def moduleBlocks : Value → Checked ModuleBlocks := record fun fs =>
  match Assoc.lookup "patchers" fs with
  | some patches =>
    (Checked.map ModuleBlocks.mk (optional defaultBlock defaultBlock [] fields fs))
      |>.app (patchBlocks patches)
  | none =>
    (Checked.map ModuleBlocks.mk (inlineDefault fs))
      |>.app (patchBlocks (.object (Assoc.erase defaultBlock fs)))

/-- Reads a module's configuration. -/
def moduleConfig : Value → Checked ModuleConfig := record fun fs =>
  (Checked.map ModuleConfig.mk (optional "path" "path" "" string fs))
    |>.app (optional "version" "version" "" string fs)
    |>.app (optional "configs" "configs" {} moduleBlocks fs)

/-- Reads a provider's settings. -/
def providerSettings : Value → Checked ProviderSettings := record fun fs =>
  (Checked.map ProviderSettings.mk (required "source" "source" string fs))
    |>.app (optional "version" "version" "" string fs)
    |>.app (.ok (Assoc.erase "version" (Assoc.erase "source" fs)))

/-- Reads the settings of Kubernetes. -/
def kubeConfig : Value → Checked String :=
  record (optional "kubeConfig" "kube_config" "" string)

/-- Reads the settings of the backends. -/
def backendSettings : Value → Checked BackendSettings := record fun fs =>
  (Checked.map BackendSettings.mk
      (optional "kubernetes" "kubernetes" none (nullable kubeConfig) fs))
    |>.app (optional "terraform" "terraform" [] (dictionary providerSettings) fs)

/-- Reads the place where secrets are kept. -/
def secretStore : Value → Checked SecretStoreSpec := record fun fs =>
  Checked.map SecretStoreSpec.mk (optional "provider" "provider" none (nullable providerSpec) fs)

/-- Reads a workspace. -/
def workspace : Value → Checked Workspace := record fun fs =>
  (Checked.map Workspace.mk (optional "name" "name" "" string fs))
    |>.app (optional "modules" "modules" [] (dictionary moduleConfig) fs)
    |>.app (optional "runtimes" "runtimes" none (nullable backendSettings) fs)
    |>.app (optional "secretStore" "secret_store" none (nullable secretStore) fs)

end Record

end Rollout
