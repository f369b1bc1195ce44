import Rollout.Proofs.Assoc
import Rollout.Proofs.Record.RoundTrip
import Rollout.Record.Project
import Rollout.Record.Workspace

/-!
# Records are read again as what they record

A record may be accepted in many forms: under the names of fields in records or their plain names, with
blocks written out or inline, with times and integers in several spellings.  It is written in one form,
and that is read as the same record.

* `Record.project_rereads`, `Record.stack_rereads`, `Record.providerSpec_rereads` : records that are
  read again whatever is in them;
* `Record.workspace_roundTrips`, `Record.release_roundTrips` : those that are if they were read before;
* `Record.survives` : all of them.
-/

set_option autoImplicit false

namespace Rollout.Record

open Checked

/-! ## Releases -/

theorem backend_rereads : Rereads backend fun b => .str b.name := literal_rereads fun b => by
  cases b <;> rfl

theorem resource_roundTrips : RoundTrips resource Resource.toValue := by
  refine record_roundTrips fun fs r hfinite h => ?_
  obtain ⟨_, extensions, h₁, hextensions, rfl⟩ := exists_of_app h
  obtain ⟨_, dependsOn, h₂, _, rfl⟩ := exists_of_app h₁
  obtain ⟨_, attributes, h₃, hattributes, rfl⟩ := exists_of_app h₂
  obtain ⟨_, backend, h₄, _, rfl⟩ := exists_of_app h₃
  obtain ⟨id, hid, rfl⟩ := exists_of_map h₄
  refine app_ok (app_ok (app_ok (app_ok (map_ok ?_) ?_) ?_) ?_) ?_
  · exact required_ok rfl (nonEmpty_roundTrips.required hfinite hid)
  · exact required_ok rfl (backend_rereads backend)
  · exact optional_ok rfl (fields_roundTrips.optional hfinite rfl hattributes)
  · exact optional_ok rfl (strings_rereads dependsOn)
  · exact optional_ok rfl (fields_roundTrips.optional hfinite rfl hextensions)

theorem resources_roundTrips : RoundTrips resources collection := by
  refine record_roundTrips fun fs rs hfinite h => ?_
  exact optional_ok rfl (resource_roundTrips.listOf.optional hfinite rfl h)

theorem action_rereads : Rereads action fun a => .str a.name := literal_rereads fun a => by
  cases a <;> rfl

theorem status_rereads : Rereads status fun st => .str st.name := literal_rereads fun st => by
  cases st <;> rfl

theorem phase_rereads : Rereads phase fun p => .str p.name := literal_rereads fun p => by
  cases p <;> rfl

theorem actionRecord_roundTrips : RoundTrips actionRecord ActionRecord.toValue := by
  refine record_roundTrips fun fs r hfinite h => ?_
  obtain ⟨_, finishedAt, h₁, hfinished, rfl⟩ := exists_of_app h
  obtain ⟨_, startedAt, h₂, hstarted, rfl⟩ := exists_of_app h₁
  obtain ⟨_, error, h₃, _, rfl⟩ := exists_of_app h₂
  obtain ⟨_, status, h₄, _, rfl⟩ := exists_of_app h₃
  obtain ⟨_, action, h₅, _, rfl⟩ := exists_of_app h₄
  obtain ⟨resourceId, _, rfl⟩ := exists_of_map h₅
  refine app_ok (app_ok (app_ok (app_ok (app_ok (map_ok ?_) ?_) ?_) ?_) ?_) ?_
  · exact required_ok rfl (string_rereads resourceId)
  · exact required_ok rfl (action_rereads action)
  · exact optional_ok rfl (status_rereads status)
  · exact optional_ok rfl (stringOrNull_rereads error)
  · exact optional_ok rfl (timeOrNull_roundTrips.optional hfinite rfl hstarted)
  · exact optional_ok rfl (timeOrNull_roundTrips.optional hfinite rfl hfinished)

/-- **A release is read again**, whenever that is, since its record gives all times. -/
theorem release_roundTrips {now : DateTime} (hnow : now.Valid) (later : DateTime) :
    ∀ v r, v.Finite → release now v = .ok r → release later r.toValue = .ok r := by
  have hspec : RoundTrips (nullable resources) (orNull collection) :=
    resources_roundTrips.nullable fun _ => Value.noConfusion
  refine record_roundTrips fun fs r hfinite h => ?_
  obtain ⟨_, error, h₁, _, rfl⟩ := exists_of_app h
  obtain ⟨_, actions, h₂, hactions, rfl⟩ := exists_of_app h₁
  obtain ⟨_, modifiedTime, h₃, hmodified, rfl⟩ := exists_of_app h₂
  obtain ⟨_, createTime, h₄, hcreated, rfl⟩ := exists_of_app h₃
  obtain ⟨_, phase, h₅, _, rfl⟩ := exists_of_app h₄
  obtain ⟨_, state, h₆, hstate, rfl⟩ := exists_of_app h₅
  obtain ⟨_, spec, h₇, hspecified, rfl⟩ := exists_of_app h₆
  obtain ⟨_, revision, h₈, hrevision, rfl⟩ := exists_of_app h₇
  obtain ⟨_, stack, h₉, _, rfl⟩ := exists_of_app h₈
  obtain ⟨_, workspace, h₁₀, _, rfl⟩ := exists_of_app h₉
  obtain ⟨project, _, rfl⟩ := exists_of_map h₁₀
  refine app_ok (app_ok (app_ok (app_ok (app_ok (app_ok (app_ok (app_ok (app_ok (app_ok (map_ok ?_)
    ?_) ?_) ?_) ?_) ?_) ?_) ?_) ?_) ?_) ?_
  · exact required_ok rfl (string_rereads project)
  · exact required_ok rfl (string_rereads workspace)
  · exact required_ok rfl (string_rereads stack)
  · exact required_ok rfl (positive_roundTrips.required hfinite hrevision)
  · exact optional_ok rfl (hspec.optional hfinite rfl hspecified)
  · exact optional_ok rfl (resources_roundTrips.present.optional hfinite rfl hstate)
  · exact optional_ok rfl (phase_rereads phase)
  · exact optional_ok rfl (time_roundTrips.optional hfinite (time_toValue hnow) hcreated)
  · exact optional_ok rfl (time_roundTrips.optional hfinite (time_toValue hnow) hmodified)
  · exact optional_ok rfl (actionRecord_roundTrips.listOf.optional hfinite rfl hactions)
  · exact optional_ok rfl (stringOrNull_rereads error)

/-! ## Projects and stacks -/

theorem spaceBlock_rereads :
    Rereads spaceBlock fun space => .object [("namespace", .str space)] :=
  record_rereads fun space => optional_ok rfl (string_rereads space)

theorem metadata_rereads : Rereads metadata Metadata.toValue := by
  rintro ⟨labels, annotations⟩
  refine app_ok (map_ok ?_) ?_
  · exact optional_ok rfl (stringFields_rereads labels)
  · exact optional_ok rfl (stringFields_rereads annotations)

theorem extensionKind_rereads :
    Rereads (literal ExtensionKind.name ExtensionKind.all) fun k => .str k.name :=
  literal_rereads fun k => by cases k <;> rfl

theorem extension_rereads : Rereads extension Extension.toValue := by
  rintro ⟨kind, space, metadata⟩
  refine app_ok (app_ok (map_ok ?_) ?_) ?_
  · exact required_ok rfl (extensionKind_rereads kind)
  · exact optional_ok rfl (spaceBlock_rereads space)
  · exact optional_ok rfl (metadata_rereads metadata)

theorem stack_rereads : Rereads stack Stack.toValue := by
  rintro ⟨name, workspace, backend, description, labels, path, extensions⟩
  refine app_ok (app_ok (app_ok (app_ok (app_ok (app_ok (map_ok ?_) ?_) ?_) ?_) ?_) ?_) ?_
  · exact required_ok rfl (string_rereads name)
  · exact optional_ok rfl (string_rereads workspace)
  · exact optional_ok rfl (string_rereads backend)
  · exact optional_ok rfl (stringOrNull_rereads description)
  · exact optional_ok rfl (stringFields_rereads labels)
  · exact optional_ok rfl (string_rereads path)
  · exact optional_ok rfl (extension_rereads.listOf extensions)

theorem project_rereads : Rereads project Project.toValue := by
  rintro ⟨name, description, labels, path, allStacks, extensions⟩
  refine app_ok (app_ok (app_ok (app_ok (app_ok (map_ok ?_) ?_) ?_) ?_) ?_) ?_
  · exact required_ok rfl (string_rereads name)
  · exact optional_ok rfl (stringOrNull_rereads description)
  · exact optional_ok rfl (stringFields_rereads labels)
  · exact optional_ok rfl (string_rereads path)
  · exact optional_ok rfl (stack_rereads.listOf allStacks)
  · exact optional_ok rfl (extension_rereads.listOf extensions)

/-! ## Providers of secrets -/

theorem alicloud_rereads : Rereads alicloud AlicloudProvider.toValue :=
  record_rereads fun p => map_ok (required_ok rfl (string_rereads p.region))

theorem aws_rereads : Rereads aws AwsProvider.toValue := by
  refine record_rereads ?_
  rintro ⟨region, profile⟩
  refine app_ok (map_ok ?_) ?_
  · exact required_ok rfl (string_rereads region)
  · exact optional_ok rfl (string_rereads profile)

theorem vaultVersion_rereads :
    Rereads (literal VaultVersion.name VaultVersion.all) fun version => .str version.name :=
  literal_rereads fun version => by cases version <;> rfl

theorem vault_rereads : Rereads vault VaultProvider.toValue := by
  rintro ⟨server, path, version⟩
  refine app_ok (app_ok (map_ok ?_) ?_) ?_
  · exact required_ok rfl (string_rereads server)
  · exact optional_ok rfl (stringOrNull_rereads path)
  · exact optional_ok rfl (vaultVersion_rereads version)

theorem azureCloud_rereads :
    Rereads (literal AzureCloud.name AzureCloud.all) fun cloud => .str cloud.name :=
  literal_rereads fun cloud => by cases cloud <;> rfl

theorem azure_rereads : Rereads azure AzureProvider.toValue := by
  rintro ⟨vaultUrl, tenantId, cloud⟩
  refine app_ok (app_ok (map_ok ?_) ?_) ?_
  · exact optional_ok rfl (stringOrNull_rereads vaultUrl)
  · exact optional_ok rfl (stringOrNull_rereads tenantId)
  · exact optional_ok rfl (azureCloud_rereads cloud)

theorem fakeSecret_rereads : Rereads fakeSecret FakeSecret.toValue := by
  rintro ⟨key, value, properties, version⟩
  refine app_ok (app_ok (app_ok (map_ok ?_) ?_) ?_) ?_
  · exact required_ok rfl (string_rereads key)
  · exact optional_ok rfl (string_rereads value)
  · exact optional_ok rfl (stringFields_rereads properties)
  · exact optional_ok rfl (string_rereads version)

theorem fake_rereads : Rereads fake FakeProvider.toValue :=
  fun p => map_ok (optional_ok rfl (fakeSecret_rereads.listOf p.secrets))

theorem providerSpec_rereads : Rereads providerSpec ProviderSpec.toValue := by
  rintro ⟨inAlicloud, inAws, inVault, inAzure, inFake⟩
  refine app_ok (app_ok (app_ok (app_ok (map_ok ?_) ?_) ?_) ?_) ?_
  · exact optional_ok rfl (alicloud_rereads.nullable (fun _ => Value.noConfusion) inAlicloud)
  · exact optional_ok rfl (aws_rereads.nullable (fun _ => Value.noConfusion) inAws)
  · exact optional_ok rfl (vault_rereads.nullable (fun _ => Value.noConfusion) inVault)
  · exact optional_ok rfl (azure_rereads.nullable (fun _ => Value.noConfusion) inAzure)
  · exact optional_ok rfl (fake_rereads.nullable (fun _ => Value.noConfusion) inFake)

/-! ## Workspaces -/

theorem patchBlock_toValue {b : PatchBlock} (h : fields (freeFields b.config) = .ok b.config) :
    patchBlock b.toValue = .ok b := by
  simp only [patchBlock, PatchBlock.toValue, record]
  refine (if_pos rfl).trans (app_ok (map_ok ?_) ?_)
  · exact required_ok rfl h
  · exact optional_ok rfl (strings_rereads b.selector)

/-- A patch block is written out, whether or not it was so when it was read. -/
theorem patchBlock_roundTrips : RoundTrips patchBlock PatchBlock.toValue := by
  refine record_roundTrips fun fs b hfinite h => patchBlock_toValue ?_
  split at h
  · obtain ⟨_, selector, h₁, _, rfl⟩ := exists_of_app h
    obtain ⟨config, hconfig, rfl⟩ := exists_of_map h₁
    exact fields_roundTrips.required hfinite hconfig
  · obtain ⟨selector, _, rfl⟩ := exists_of_map h
    exact fields_roundTrips (.object _) _ ((hfinite.erase selectorField).erase plainSelectorField) rfl

theorem patchBlocks_ok {v : Value} (hfinite : v.Finite) {patches : List (String × PatchBlock)}
    (h : patchBlocks v = .ok patches) :
    patchBlocks (.object (patches.map fun e => (e.1, e.2.toValue))) = .ok patches :=
  under_eq_ok_iff.mpr (patchBlock_roundTrips.dictionary _ _ hfinite (under_eq_ok_iff.mp h))

theorem inlineDefault_ok {fs base : Fields} (hfinite : Value.FiniteFields fs)
    (h : inlineDefault fs = .ok base) : fields (freeFields base) = .ok base := by
  unfold inlineDefault at h
  split at h
  · rename_i v hlookup
    split at h
    · exact fields_roundTrips v base (hfinite.of_lookup hlookup) (under_eq_ok_iff.mp h)
    · cases h
      rfl
  · cases h
    rfl

theorem moduleBlocks_toValue {b : ModuleBlocks} (hbase : fields (freeFields b.base) = .ok b.base)
    (hpatches : patchBlocks (.object (b.patches.map fun e => (e.1, e.2.toValue))) = .ok b.patches) :
    moduleBlocks b.toValue = .ok b :=
  app_ok (map_ok (optional_ok rfl hbase)) hpatches

/-- So are the blocks of a module. -/
theorem moduleBlocks_roundTrips : RoundTrips moduleBlocks ModuleBlocks.toValue := by
  refine record_roundTrips fun fs b hfinite h => ?_
  split at h
  · rename_i v hlookup
    obtain ⟨_, patches, h₁, hpatches, rfl⟩ := exists_of_app h
    obtain ⟨base, hbase, rfl⟩ := exists_of_map h₁
    exact moduleBlocks_toValue (fields_roundTrips.optional hfinite rfl hbase)
      (patchBlocks_ok (hfinite.of_lookup hlookup) hpatches)
  · obtain ⟨_, patches, h₁, hpatches, rfl⟩ := exists_of_app h
    obtain ⟨base, hbase, rfl⟩ := exists_of_map h₁
    exact moduleBlocks_toValue (inlineDefault_ok hfinite hbase)
      (patchBlocks_ok (v := .object _) (hfinite.erase _) hpatches)

theorem moduleConfig_roundTrips : RoundTrips moduleConfig ModuleConfig.toValue := by
  refine record_roundTrips fun fs m hfinite h => ?_
  obtain ⟨_, blocks, h₁, hblocks, rfl⟩ := exists_of_app h
  obtain ⟨_, version, h₂, _, rfl⟩ := exists_of_app h₁
  obtain ⟨path, _, rfl⟩ := exists_of_map h₂
  refine app_ok (app_ok (map_ok ?_) ?_) ?_
  · exact optional_ok rfl (string_rereads path)
  · exact optional_ok rfl (string_rereads version)
  · exact optional_ok rfl (moduleBlocks_roundTrips.optional hfinite rfl hblocks)

/-- The settings of a provider's own are those that have no place of their own. -/
theorem erase_erase_eq_self {extra : Fields} (hsource : "source" ∉ Assoc.keys extra)
    (hversion : "version" ∉ Assoc.keys extra) (source version : Value) :
    Assoc.erase "version" (Assoc.erase "source"
      ([("source", source), ("version", version)] ++ extra)) = extra := by
  have herased : Assoc.erase "version" (Assoc.erase "source"
      ([("source", source), ("version", version)] ++ extra))
        = Assoc.erase "version" (Assoc.erase "source" extra) := rfl
  rw [herased, Assoc.erase_of_notMem hsource, Assoc.erase_of_notMem hversion]

theorem providerSettings_roundTrips : RoundTrips providerSettings ProviderSettings.toValue := by
  refine record_roundTrips fun fs p hfinite h => ?_
  obtain ⟨_, extra, h₁, hextra, rfl⟩ := exists_of_app h
  obtain ⟨_, version, h₂, _, rfl⟩ := exists_of_app h₁
  obtain ⟨source, _, rfl⟩ := exists_of_map h₂
  cases hextra
  refine app_ok (app_ok (map_ok ?_) ?_) (congrArg Except.ok ?_)
  · exact required_ok rfl (string_rereads source)
  · exact optional_ok rfl (string_rereads version)
  · rw [((hfinite.erase "source").erase "version").dumped_eq]
    refine erase_erase_eq_self ?_ ?_ _ _
    · simp [Assoc.mem_keys_erase]
    · simp [Assoc.mem_keys_erase]

theorem kubeConfig_rereads : Rereads kubeConfig kubeConfigToValue :=
  record_rereads fun path => optional_ok rfl (string_rereads path)

theorem backendSettings_roundTrips : RoundTrips backendSettings BackendSettings.toValue := by
  refine record_roundTrips fun fs s hfinite h => ?_
  obtain ⟨_, terraform, h₁, hterraform, rfl⟩ := exists_of_app h
  obtain ⟨kubernetes, _, rfl⟩ := exists_of_map h₁
  refine app_ok (map_ok ?_) ?_
  · exact optional_ok rfl (kubeConfig_rereads.nullable (fun _ => Value.noConfusion) kubernetes)
  · exact optional_ok rfl (providerSettings_roundTrips.dictionary.optional hfinite rfl hterraform)

theorem secretStore_rereads : Rereads secretStore SecretStoreSpec.toValue := fun s =>
  map_ok (optional_ok rfl
    (providerSpec_rereads.nullable (fun _ => Value.noConfusion) s.provider))

/-- **A workspace is read again.** -/
theorem workspace_roundTrips : RoundTrips workspace Workspace.toValue := by
  have hbackends : RoundTrips (nullable backendSettings) (orNull BackendSettings.toValue) :=
    backendSettings_roundTrips.nullable fun _ => Value.noConfusion
  refine record_roundTrips fun fs w hfinite h => ?_
  obtain ⟨_, store, h₁, _, rfl⟩ := exists_of_app h
  obtain ⟨_, backends, h₂, hread, rfl⟩ := exists_of_app h₁
  obtain ⟨_, modules, h₃, hmodules, rfl⟩ := exists_of_app h₂
  obtain ⟨name, _, rfl⟩ := exists_of_map h₃
  refine app_ok (app_ok (app_ok (map_ok ?_) ?_) ?_) ?_
  · exact optional_ok rfl (string_rereads name)
  · exact optional_ok rfl (moduleConfig_roundTrips.dictionary.optional hfinite rfl hmodules)
  · exact optional_ok rfl (hbackends.optional hfinite rfl hread)
  · exact optional_ok rfl (secretStore_rereads.nullable (fun _ => Value.noConfusion) store)

/-! ## All records -/

/-- What is written is read as what it was, and so written in the same way. -/
def Survives {α : Type} (read : Value → Checked α) (write : α → Value) (a : α) : Prop :=
  read (write a) = .ok a ∧ (read (write a)).map write = .ok (write a)

theorem survives_of_eq {α : Type} {read : Value → Checked α} {write : α → Value} {a : α}
    (h : read (write a) = .ok a) : Survives read write a := ⟨h, map_ok h⟩

/-- **Records survive being written and read again**: releases and workspaces whatever value they were
read from, if its numbers are finite, projects, stacks and providers of secrets whatever is in them.
Only a release depends on when it is read, and only the first time. -/
theorem survives {now : DateTime} (hnow : now.Valid) :
    (∀ v r, v.Finite → release now v = .ok r →
      ∀ later, Survives (release later) Release.toValue r) ∧
    (∀ v w, v.Finite → workspace v = .ok w → Survives workspace Workspace.toValue w) ∧
    (∀ p, Survives project Project.toValue p) ∧
    (∀ s, Survives stack Stack.toValue s) ∧
    (∀ s, Survives providerSpec ProviderSpec.toValue s) := by
  refine ⟨fun v r hv hr later => ?_, fun v w hv hw => ?_, fun p => ?_, fun s => ?_, fun s => ?_⟩
  · exact survives_of_eq (release_roundTrips hnow later v r hv hr)
  · exact survives_of_eq (workspace_roundTrips v w hv hw)
  · exact survives_of_eq (project_rereads p)
  · exact survives_of_eq (stack_rereads s)
  · exact survives_of_eq (providerSpec_rereads s)

/-- A release under plain names, with an integer and a time as texts. -/
def plainRelease : Value := .object
  [("project", .str "shop"), ("workspace", .str "prod"), ("stack", .str "eu"),
    ("revision", .str " 7 "), ("create_time", .str "2024-02-29 12:30:05.5+01:00"),
    ("spec", .object [("resources", .list [.object [("id", .str "db"), ("type", .str "Terraform"),
      ("depends_on", .list [.str "net"])]])])]

/-- The release that it stands for, if it is read on a day in March. -/
def shopRelease : Release where
  triple := ⟨"shop", "prod", "eu"⟩
  revision := 7
  spec := some [⟨"db", .terraform, [], ["net"], []⟩]
  createTime := ⟨2024, 2, 29, 12, 30, 5, 500000, some 60⟩
  modifiedTime := { year := 2024, month := 3, day := 1 }

/-- A workspace with inline blocks and a provider's own setting. -/
def inlineWorkspace : Value := .object
  [("modules", .object [("web", .object [("configs", .object
      [("default", .null), ("small", .object
        [("replicas", .int 1), ("project_selector", .list [.str "shop"])])])])]),
    ("runtimes", .object [("terraform", .object [("aws", .object
      [("source", .str "hashicorp/aws"), ("region", .str "eu-1")])])])]

/-- The workspace that it stands for. -/
def webWorkspace : Workspace where
  modules := [("web", { blocks := ⟨[], [("small", ⟨[("replicas", .int 1)], ["shop"]⟩)]⟩ })]
  backends := some { terraform := [("aws", ⟨"hashicorp/aws", "", [("region", .str "eu-1")]⟩)] }

/-- Both are accepted, and survive. -/
theorem survives_plain_inline :
    plainRelease.Finite ∧ inlineWorkspace.Finite ∧
    release shopRelease.modifiedTime plainRelease = .ok shopRelease ∧
    workspace inlineWorkspace = .ok webWorkspace ∧
    (∀ later, Survives (release later) Release.toValue shopRelease) ∧
    Survives workspace Workspace.toValue webWorkspace := by
  have hvalid : shopRelease.modifiedTime.Valid := by decide
  have hrelease : release shopRelease.modifiedTime plainRelease = .ok shopRelease := by rfl
  have hworkspace : workspace inlineWorkspace = .ok webWorkspace := by rfl
  have hfinite : plainRelease.Finite := by simp [plainRelease, Value.Finite, Value.FiniteFields,
    Value.FiniteList]
  have hfinite' : inlineWorkspace.Finite := by simp [inlineWorkspace, Value.Finite,
    Value.FiniteFields, Value.FiniteList]
  exact ⟨hfinite, hfinite', hrelease, hworkspace, (survives hvalid).1 _ _ hfinite hrelease,
    (survives hvalid).2.1 _ _ hfinite' hworkspace⟩

end Rollout.Record
