import Rollout.Proofs.Assoc
import Rollout.Workspace.Validation

/-!
# What validation finds

The check of a workspace enters the projects that patch blocks select one by one, together with the
first block that selects each.  The configuration of a project is found by asking every block again.
Both agree, so a workspace that passes the check gives every project its configuration.

* `ModuleConfig.mem_issues_iff` : what is wrong with the configuration of a module;
* `ModuleConfig.exists_effective_error_iff` : a project has no configuration exactly if it is found
  to be contested;
* `ProviderSource.exists_parse_iff` : which provider sources can be read;
* `ProviderSpec.single_eq_ok_iff` : the one provider that a specification fills in;
* `Workspace.exists_check_error_iff` : what the check of a workspace refuses.
-/

set_option autoImplicit false

namespace Rollout

/-! ## Claims on projects -/

namespace ModuleConfig

/-- The projects that blocks select, each with the name of the block, in the order of the check. -/
def claims (blocks : List (String × PatchBlock)) : List (String × String) :=
  blocks.flatMap fun entry => entry.2.selector.map fun project => (project, entry.1)

/-- What is wrong with a patch block by itself. -/
def blockIssues (entry : String × PatchBlock) : List ModuleIssue :=
  (if entry.1 = defaultBlock then [.named] else []) ++
    (if entry.2.selector.isEmpty then [.noProjects entry.1] else [])

/-- Of the blocks that claim a project the first one, and another one. -/
structure Contested (claimed : List (String × String)) (project first second : String) : Prop where
  owner : Assoc.lookup project claimed = some first
  claims : (project, second) ∈ claimed
  ne : first ≠ second

/-- The state of the check once some claims have been entered, where the issues in `own` were met on
the way. -/
structure Tallied (own : List ModuleIssue) (claimed : List (String × String)) (state : Owners) :
    Prop where
  owners : ∀ project, Assoc.lookup project state.1 = Assoc.lookup project claimed
  issues : ∀ issue, issue ∈ state.2 ↔ issue ∈ own ∨
    ∃ project first second, issue = .contested project first second ∧
      Contested claimed project first second

variable {m : ModuleConfig} {own : List ModuleIssue} {claimed : List (String × String)}
  {state : Owners} {block project first second : String}

/-- A further claim contests a project that another block owns. -/
theorem contested_append_iff {other : String} :
    Contested (claimed ++ [(project, block)]) other first second ↔
      Contested claimed other first second ∨
        other = project ∧ second = block ∧ Assoc.lookup project claimed = some first ∧
          first ≠ block := by
  have happend := Assoc.lookup_append other claimed [(project, block)]
  constructor
  · rintro ⟨howner, hclaims, hne⟩
    rw [happend] at howner
    rw [List.mem_append, List.mem_singleton, Prod.mk.injEq] at hclaims
    cases hfound : Assoc.lookup other claimed with
    | none =>
      -- nobody claimed the project before, so the owner is the block itself
      rw [hfound, Option.none_or] at howner
      have hlast := List.mem_singleton.mp (Assoc.mem_of_lookup howner)
      rcases hclaims with hclaims | ⟨_, rfl⟩
      · exact absurd (Assoc.mem_keys hclaims) (Assoc.lookup_eq_none_iff.mp hfound)
      · exact absurd (Prod.mk.inj hlast).2 hne
    | some owner =>
      rw [hfound, Option.some_or] at howner
      rcases hclaims with hclaims | ⟨rfl, rfl⟩
      · exact .inl ⟨hfound.trans howner, hclaims, hne⟩
      · exact .inr ⟨rfl, rfl, hfound.trans howner, hne⟩
  · rintro (⟨howner, hclaims, hne⟩ | ⟨rfl, rfl, howner, hne⟩)
    · exact ⟨by rw [happend, howner, Option.some_or], List.mem_append_left _ hclaims, hne⟩
    · exact ⟨by rw [happend, howner, Option.some_or], by simp, hne⟩

theorem Tallied.claimProject (h : Tallied own claimed state) (block project : String) :
    Tallied own (claimed ++ [(project, block)]) (claimProject block state project) := by
  have hkept : ∀ owner, Assoc.lookup project state.1 = some owner → ∀ other,
      Assoc.lookup other state.1 = Assoc.lookup other (claimed ++ [(project, block)]) := by
    intro owner howner other
    rw [Assoc.lookup_append, h.owners]
    cases hfound : Assoc.lookup other claimed with
    | some _ => rfl
    | none =>
      have hne : project ≠ other := by
        rintro rfl
        rw [h.owners, hfound] at howner
        cases howner
      simp [Assoc.lookup, hne]
  unfold ModuleConfig.claimProject
  cases howner : Assoc.lookup project state.1 with
  | none =>
    refine ⟨fun other => ?_, fun issue => ?_⟩
    · rw [Assoc.lookup_put, Assoc.lookup_append, h.owners]
      by_cases heq : project = other
      · subst heq
        rw [← h.owners, howner]
        simp [Assoc.lookup]
      · simp [Assoc.lookup, heq]
    · have hno : ∀ first, Assoc.lookup project claimed ≠ some first := by
        intro first hfirst
        rw [h.owners, hfirst] at howner
        cases howner
      simp only [h.issues, contested_append_iff, hno, false_and, and_false, or_false]
  | some owner =>
    rw [h.owners] at howner
    dsimp only
    split
    · rename_i hsame
      refine ⟨hkept owner (h.owners _ ▸ howner), fun issue => ?_⟩
      have hno : ∀ first, ¬ (Assoc.lookup project claimed = some first ∧ first ≠ block) := by
        rintro first ⟨hfirst, hne⟩
        exact hne ((Option.some.inj (hfirst.symm.trans howner)).trans hsame)
      simp only [h.issues, contested_append_iff, hno, and_false, or_false]
    · rename_i hother
      refine ⟨hkept owner (h.owners _ ▸ howner), fun issue => ?_⟩
      rw [List.mem_append, List.mem_singleton, h.issues, or_assoc]
      refine or_congr_right ⟨?_, ?_⟩
      · rintro (⟨p, a, b, rfl, hcontested⟩ | rfl)
        · exact ⟨p, a, b, rfl, contested_append_iff.mpr (.inl hcontested)⟩
        · exact ⟨project, owner, block, rfl,
            contested_append_iff.mpr (.inr ⟨rfl, rfl, howner, hother⟩)⟩
      · rintro ⟨p, a, b, rfl, hcontested⟩
        rcases contested_append_iff.mp hcontested with hcontested | ⟨rfl, rfl, hfirst, _⟩
        · exact .inl ⟨p, a, b, rfl, hcontested⟩
        · rw [Option.some.inj (hfirst.symm.trans howner)]
          exact .inr rfl

theorem Tallied.claimProjects (block : String) : ∀ (projects : List String)
    {claimed : List (String × String)} {state : Owners}, Tallied own claimed state →
    Tallied own (claimed ++ projects.map fun project => (project, block))
      (projects.foldl (ModuleConfig.claimProject block) state)
  | [], _, _, h => by simpa using h
  | project :: rest, claimed, state, h => by
    have hrest := claimProjects block rest (h.claimProject block project)
    rwa [List.append_assoc] at hrest

theorem Tallied.claimBlock (h : Tallied own claimed state) (entry : String × PatchBlock) :
    Tallied (own ++ blockIssues entry) (claimed ++ claims [entry]) (claimBlock state entry) := by
  have hown :
      Tallied (own ++ blockIssues entry) claimed (state.1, state.2 ++ blockIssues entry) := by
    refine ⟨h.owners, fun issue => ?_⟩
    rw [List.mem_append, List.mem_append, h.issues, or_right_comm]
  have hprojects := hown.claimProjects entry.1 entry.2.selector
  simpa only [ModuleConfig.claimBlock, claims, List.flatMap_cons, List.flatMap_nil, List.append_nil,
    blockIssues, List.append_assoc] using hprojects

/-- The claims of all blocks are entered. -/
theorem Tallied.claimBlocks : ∀ (blocks : List (String × PatchBlock)) {own : List ModuleIssue}
    {claimed : List (String × String)} {state : Owners}, Tallied own claimed state →
    Tallied (own ++ blocks.flatMap blockIssues) (claimed ++ claims blocks)
      (blocks.foldl ModuleConfig.claimBlock state)
  | [], _, _, _, h => by simpa [claims] using h
  | entry :: rest, _, _, _, h => by
    have hrest := claimBlocks rest (h.claimBlock entry)
    simpa only [claims, List.flatMap_cons, List.flatMap_nil, List.append_nil, List.append_assoc,
      List.foldl_cons] using hrest

/-! ## The configuration of a module -/

theorem mem_selecting_iff : block ∈ m.selecting project ↔
    ∃ b, (block, b) ∈ m.blocks.patches ∧ project ∈ b.selector := by
  simp [selecting, selectingBlocks, Assoc.keys]

theorem mem_claims_iff :
    (project, block) ∈ claims m.blocks.patches ↔ block ∈ m.selecting project := by
  rw [mem_selecting_iff]
  simp only [claims, List.mem_flatMap, List.mem_map, Prod.mk.injEq, Prod.exists]
  constructor
  · rintro ⟨_, b, hmem, _, hproject, rfl, rfl⟩
    exact ⟨b, hmem, hproject⟩
  · rintro ⟨b, hmem, hproject⟩
    exact ⟨block, b, hmem, project, hproject, rfl, rfl⟩

/-- The owner of a project is the first block that selects it. -/
theorem lookup_claims (project : String) (m : ModuleConfig) :
    Assoc.lookup project (claims m.blocks.patches) = (m.selecting project).head? := by
  have hblock : ∀ (name : String) (projects : List String),
      Assoc.lookup project (projects.map fun p => (p, name)) =
        if projects.contains project then some name else none := by
    intro name projects
    induction projects with
    | nil => rfl
    | cons p rest ih =>
      rw [List.map_cons, Assoc.lookup, ih]
      by_cases heq : p = project
      · simp [heq]
      · simp [heq, Ne.symm heq]
  unfold selecting selectingBlocks
  induction m.blocks.patches with
  | nil => rfl
  | cons entry rest ih =>
    have hcons : claims (entry :: rest) =
        (entry.2.selector.map fun p => (p, entry.1)) ++ claims rest := by simp [claims]
    rw [hcons, Assoc.lookup_append, hblock, ih, List.filter_cons]
    split <;> simp [Assoc.keys]

/-- What is wrong with a module: it configures nothing, or a patch block has the name of the default
one, selects nothing, or selects what the first block that selects it does not own alone. -/
inductive Shows (m : ModuleConfig) : ModuleIssue → Prop
  | empty (base : m.blocks.base = []) (patches : m.blocks.patches = []) : Shows m .empty
  | named {b : PatchBlock} (block : (defaultBlock, b) ∈ m.blocks.patches) : Shows m .named
  | noProjects {name : String} {b : PatchBlock} (block : (name, b) ∈ m.blocks.patches)
      (selector : b.selector = []) : Shows m (.noProjects name)
  | contested {project first second : String} (owner : (m.selecting project).head? = some first)
      (claims : second ∈ m.selecting project) (ne : first ≠ second) :
      Shows m (.contested project first second)

theorem mem_blockIssues_iff {issue : ModuleIssue} {entry : String × PatchBlock} :
    issue ∈ blockIssues entry ↔ issue = .named ∧ entry.1 = defaultBlock ∨
      issue = .noProjects entry.1 ∧ entry.2.selector = [] := by
  simp only [blockIssues, List.mem_append, List.mem_ite_nil_right, List.mem_singleton,
    List.isEmpty_iff]
  rw [and_comm, and_comm (a := entry.2.selector = [])]

/-- **The check of a module finds what is wrong with it**, and nothing else. -/
theorem mem_issues_iff {issue : ModuleIssue} : issue ∈ m.issues ↔ m.Shows issue := by
  have hstart : ∀ own, Tallied own [] ([], own) := fun own =>
    ⟨fun _ => rfl, fun issue => by
      refine (or_iff_left ?_).symm
      rintro ⟨_, _, _, _, _, hclaims, _⟩
      cases hclaims⟩
  have htallied := (hstart
    (if m.blocks.base.isEmpty && m.blocks.patches.isEmpty then [.empty] else [])).claimBlocks
      m.blocks.patches
  rw [issues, htallied.issues, List.nil_append, List.mem_append, List.mem_flatMap]
  simp only [mem_blockIssues_iff, List.mem_ite_nil_right, Bool.and_eq_true, List.isEmpty_iff,
    List.mem_singleton, Prod.exists]
  constructor
  · rintro ((⟨⟨hbase, hpatches⟩, rfl⟩ | ⟨name, b, hmem, (⟨rfl, rfl⟩ | ⟨rfl, hselector⟩)⟩) |
      ⟨project, first, second, rfl, howner, hclaims, hne⟩)
    · exact .empty hbase hpatches
    · exact .named hmem
    · exact .noProjects hmem hselector
    · exact .contested (lookup_claims project m ▸ howner) (mem_claims_iff.mp hclaims) hne
  · intro hshows
    cases hshows with
    | empty hbase hpatches => exact .inl (.inl ⟨⟨hbase, hpatches⟩, rfl⟩)
    | @named b hmem => exact .inl (.inr ⟨_, b, hmem, .inl ⟨rfl, rfl⟩⟩)
    | @noProjects name b hmem hselector => exact .inl (.inr ⟨name, b, hmem, .inr ⟨rfl, hselector⟩⟩)
    | @contested project first second howner hclaims hne =>
      exact .inr ⟨project, first, second, rfl, (lookup_claims project m).trans howner,
        mem_claims_iff.mpr hclaims, hne⟩

/-- A module configuration in which no two patch blocks have one name. -/
def Keyed (m : ModuleConfig) : Prop := (Assoc.keys m.blocks.patches).Nodup

/-- **A project has no configuration exactly if it is found to be contested.** -/
theorem exists_effective_error_iff (hkeyed : m.Keyed) :
    (∃ e, m.effective? project = .error e) ↔
      ∃ first second, .contested project first second ∈ m.issues := by
  simp only [mem_issues_iff]
  have hnodup : (m.selecting project).Nodup := hkeyed.sublist (List.filter_sublist.map _)
  unfold effective?
  constructor
  · rintro ⟨e, he⟩
    have hselecting : m.selecting project = Assoc.keys (m.selectingBlocks project) := rfl
    match hblocks : m.selectingBlocks project with
    | [] => simp [hblocks] at he
    | [(_, _)] => simp [hblocks] at he
    | (first, _) :: (second, _) :: rest =>
      simp only [hblocks, Assoc.keys_cons] at hselecting
      rw [hselecting, List.nodup_cons] at hnodup
      refine ⟨first, second, .contested (by rw [hselecting]; rfl) (by simp [hselecting]) ?_⟩
      rintro rfl
      exact hnodup.1 List.mem_cons_self
  · rintro ⟨first, second, hshows⟩
    cases hshows with
    | contested howner hclaims hne =>
      unfold selecting at howner hclaims
      split
      · rename_i hblocks
        simp [hblocks] at howner
      · rename_i hblocks
        simp only [hblocks, Assoc.keys_cons, Assoc.keys_nil, List.head?_cons, Option.some.injEq,
          List.mem_singleton] at howner hclaims
        exact absurd (howner.symm.trans hclaims.symm) hne
      · exact ⟨_, rfl⟩

/-- What a project is configured with: the default block if no patch block selects it, else the
default block with that patch block laid over it. -/
structure Configures (m : ModuleConfig) (project : String) (fields : Fields) : Prop where
  unselected : (∀ name b, (name, b) ∈ m.blocks.patches → project ∉ b.selector) →
    fields = m.blocks.base
  selected : ∀ name b, (name, b) ∈ m.blocks.patches → project ∈ b.selector →
    fields = Assoc.overlay m.blocks.base b.config ∧
      ∀ other c, (other, c) ∈ m.blocks.patches → project ∈ c.selector → (other, c) = (name, b)

theorem configures_of_effective {fields : Fields} (h : m.effective? project = .ok fields) :
    m.Configures project fields := by
  have hmem : ∀ name b, (name, b) ∈ m.selectingBlocks project ↔
      (name, b) ∈ m.blocks.patches ∧ project ∈ b.selector := by
    intro name b
    simp [selectingBlocks]
  unfold effective? at h
  split at h
  · rename_i hnone
    refine ⟨fun _ => (Except.ok.inj h).symm, fun name b hb hproject => ?_⟩
    have := (hmem name b).mpr ⟨hb, hproject⟩
    rw [hnone] at this
    cases this
  · rename_i name b hone
    simp only [hone, List.mem_singleton] at hmem
    refine ⟨fun hno => ?_, fun name' b' hb hproject => ?_⟩
    · obtain ⟨hb, hproject⟩ := (hmem name b).mp rfl
      exact absurd hproject (hno name b hb)
    · obtain ⟨rfl, rfl⟩ := Prod.mk.inj ((hmem name' b').mpr ⟨hb, hproject⟩)
      exact ⟨(Except.ok.inj h).symm, fun other c hc hother => (hmem other c).mpr ⟨hc, hother⟩⟩
  · cases h

/-- Of a selected project the keys of the patch block are found first. -/
theorem Configures.lookup {fields : Fields} (h : m.Configures project fields) {b : PatchBlock}
    (hblock : (block, b) ∈ m.blocks.patches) (hproject : project ∈ b.selector)
    (hconfig : (Assoc.keys b.config).Nodup) (key : String) :
    Assoc.lookup key fields =
      (Assoc.lookup key b.config).or (Assoc.lookup key m.blocks.base) := by
  rw [(h.selected block b hblock hproject).1, Assoc.lookup_overlay key m.blocks.base hconfig]

end ModuleConfig

/-! ## Provider sources -/

namespace ProviderSource

/-- The parts of a source. -/
def parts (source : String) : List String := (Text.split '/' source).filter (· ≠ "")

/-- **A provider source can be read exactly if it has two, three or four parts.** -/
theorem exists_parse_iff {source : String} :
    (∃ provider, parse? source = .ok provider) ↔
      2 ≤ (parts source).length ∧ (parts source).length ≤ 4 := by
  unfold parse? parts
  match (Text.split '/' source).filter (· ≠ "") with
  | [] | [_] => simp
  | [_, _] | [_, _, _, _] => simp
  | [a, b, c] => by_cases hhost : Text.holds '.' a <;> simp [hhost]
  | _ :: _ :: _ :: _ :: _ :: _ => simp

end ProviderSource

theorem exists_terraformId_iff {source type name : String} :
    (∃ id, terraformId? source type name = .ok id) ↔
      ∃ provider, ProviderSource.parse? source = .ok provider := by
  unfold terraformId?
  cases ProviderSource.parse? source <;> simp

/-! ## The provider of a secret store -/

namespace ProviderSpec

/-- Whether a specification fills in a provider. -/
def Has (spec : ProviderSpec) : SecretProvider → Prop
  | .alicloud p => spec.alicloud = some p
  | .aws p => spec.aws = some p
  | .vault p => spec.vault = some p
  | .azure p => spec.azure = some p
  | .fake p => spec.fake = some p

variable {spec : ProviderSpec} {provider : SecretProvider}

theorem mem_configured_iff : provider ∈ spec.configured ↔ spec.Has provider := by
  cases provider <;> simp [configured, Has]

theorem nodup_configured : spec.configured.Nodup := by
  obtain ⟨alicloud, aws, vault, azure, fake⟩ := spec
  cases alicloud <;> cases aws <;> cases vault <;> cases azure <;> cases fake <;>
    simp [configured]

/-- **The provider of a specification** is the only one that it fills in. -/
theorem single_eq_ok_iff :
    spec.single? = .ok provider ↔ ∀ other, spec.Has other ↔ other = provider := by
  simp only [← mem_configured_iff]
  have hnodup := spec.nodup_configured
  unfold single?
  generalize spec.configured = configured at hnodup
  match configured, hnodup with
  | [], _ => simp
  | [p], _ => simp [eq_comm]
  | p :: q :: rest, hnodup =>
    simp only [reduceCtorEq, false_iff]
    intro honly
    obtain rfl := (honly p).mp List.mem_cons_self
    obtain rfl := (honly q).mp (by simp)
    exact (List.nodup_cons.mp hnodup).1 List.mem_cons_self

end ProviderSpec

/-! ## Workspaces -/

namespace ModuleConfig

/-- A module configuration with which something is wrong: it has neither a default block nor a patch
block, a patch block has the name of the default one or selects no project, or two of them select
the same project. -/
inductive Flawed (m : ModuleConfig) : Prop
  | empty (base : m.blocks.base = []) (patches : m.blocks.patches = [])
  | named (b : PatchBlock) (block : (defaultBlock, b) ∈ m.blocks.patches)
  | noProjects (name : String) (b : PatchBlock) (block : (name, b) ∈ m.blocks.patches)
      (selector : b.selector = [])
  | contested (first second : String) (b c : PatchBlock) (project : String)
      (ne : first ≠ second) (left : (first, b) ∈ m.blocks.patches)
      (right : (second, c) ∈ m.blocks.patches) (leftSelects : project ∈ b.selector)
      (rightSelects : project ∈ c.selector)

theorem flawed_iff {m : ModuleConfig} : m.Flawed ↔ ∃ issue, m.Shows issue := by
  constructor
  · intro h
    cases h with
    | empty base patches => exact ⟨_, .empty base patches⟩
    | named b block => exact ⟨_, .named block⟩
    | noProjects name b block selector => exact ⟨_, .noProjects block selector⟩
    | contested first second b c project ne left right leftSelects rightSelects =>
      have hfirst := mem_selecting_iff.mpr ⟨b, left, leftSelects⟩
      have hsecond := mem_selecting_iff.mpr ⟨c, right, rightSelects⟩
      obtain ⟨owner, howner⟩ : ∃ owner, (m.selecting project).head? = some owner := by
        rw [← Option.ne_none_iff_exists', Ne, List.head?_eq_none_iff]
        exact List.ne_nil_of_mem hfirst
      -- the owner is not both of them
      by_cases heq : owner = first
      · exact ⟨_, .contested howner hsecond (heq ▸ ne)⟩
      · exact ⟨_, .contested howner hfirst heq⟩
  · rintro ⟨issue, h⟩
    cases h with
    | empty base patches => exact .empty base patches
    | named block => exact .named _ block
    | noProjects block selector => exact .noProjects _ _ block selector
    | @contested project first second owner claims ne =>
      obtain ⟨b, left, leftSelects⟩ := mem_selecting_iff.mp (List.mem_of_head? owner)
      obtain ⟨c, right, rightSelects⟩ := mem_selecting_iff.mp claims
      exact .contested first second b c project ne left right leftSelects rightSelects

end ModuleConfig

namespace Workspace

/-- A workspace with which something is wrong: a module is flawed, the source of a Terraform
provider cannot be read, or a place for secrets is given without exactly one provider. -/
inductive Flawed (w : Workspace) : Prop
  | inModule (name : String) (m : ModuleConfig) (mem : (name, m) ∈ w.modules) (flawed : m.Flawed)
  | provider (settings : BackendSettings) (backends : w.backends = some settings) (name : String)
      (p : ProviderSettings) (mem : (name, p) ∈ settings.terraform)
      (source : ¬ (2 ≤ (ProviderSource.parts p.source).length ∧
        (ProviderSource.parts p.source).length ≤ 4))
  | secretStore (store : SecretStoreSpec) (given : w.secretStore = some store)
      (single : ¬ ∃ spec, store.provider = some spec ∧ ∃! provider, spec.Has provider)

variable {w : Workspace}

theorem exists_single_iff {spec : ProviderSpec} :
    (∃ provider, spec.single? = .ok provider) ↔ ∃! provider, spec.Has provider := by
  simp only [ProviderSpec.single_eq_ok_iff]
  constructor
  · rintro ⟨provider, hhas⟩
    exact ⟨provider, (hhas provider).mpr rfl, fun other => (hhas other).mp⟩
  · rintro ⟨provider, hhas, honly⟩
    exact ⟨provider, fun other => ⟨honly other, fun h => h ▸ hhas⟩⟩

theorem moduleIssues_eq_nil_iff :
    w.moduleIssues = [] ↔ ∀ name m, (name, m) ∈ w.modules → ¬ m.Flawed := by
  have hnil : ∀ m : ModuleConfig, m.issues = [] ↔ ¬ m.Flawed := by
    intro m
    rw [ModuleConfig.flawed_iff, List.eq_nil_iff_forall_not_mem, not_exists]
    simp only [ModuleConfig.mem_issues_iff]
  simp only [moduleIssues, List.flatMap_eq_nil_iff, List.map_eq_nil_iff, Prod.forall, hnil]

theorem providerIssues_eq_nil_iff :
    w.providerIssues = [] ↔ ∀ settings, w.backends = some settings →
      ∀ name p, (name, p) ∈ settings.terraform →
        ∃ provider, ProviderSource.parse? p.source = .ok provider := by
  have hnone : ∀ entry, providerIssue entry = none ↔
      ∃ provider, ProviderSource.parse? entry.2.source = .ok provider := by
    intro entry
    unfold providerIssue
    cases ProviderSource.parse? entry.2.source <;> simp
  unfold providerIssues
  cases w.backends with
  | none => simp
  | some settings => simp [List.filterMap_eq_nil_iff, hnone]

theorem secretIssues_eq_nil_iff :
    w.secretIssues = [] ↔ ∀ store, w.secretStore = some store →
      ∃ spec provider, store.provider = some spec ∧ spec.single? = .ok provider := by
  unfold secretIssues
  match w.secretStore with
  | none => simp
  | some ⟨none⟩ => simp
  | some ⟨some spec⟩ => cases hsingle : spec.single? <;> simp [hsingle]

theorem check_eq_ok_iff : w.check = .ok () ↔
    w.moduleIssues = [] ∧ w.providerIssues = [] ∧ w.secretIssues = [] := by
  unfold check issues
  rw [← List.append_eq_nil_iff, ← List.append_eq_nil_iff, List.append_assoc, ← List.isEmpty_iff]
  split <;> simp_all

/-- **A workspace is refused exactly if something is wrong with it.** -/
theorem exists_check_error_iff : (∃ e, w.check = .error e) ↔ w.Flawed := by
  have hcheck : (∃ e, w.check = .error e) ↔ ¬ w.check = .ok () := by
    cases w.check <;> simp
  rw [hcheck, check_eq_ok_iff, moduleIssues_eq_nil_iff, providerIssues_eq_nil_iff,
    secretIssues_eq_nil_iff, not_iff_comm]
  constructor
  · intro hsound
    refine ⟨fun name m hmem hflawed => hsound (.inModule name m hmem hflawed),
      fun settings hbackends name p hmem => ?_, fun store hstore => ?_⟩
    · rw [ProviderSource.exists_parse_iff]
      exact by_contra fun hsource => hsound (.provider settings hbackends name p hmem hsource)
    · obtain ⟨spec, hspec, hone⟩ :=
        by_contra fun hsingle => hsound (.secretStore store hstore hsingle)
      obtain ⟨provider, hprovider⟩ := exists_single_iff.mpr hone
      exact ⟨spec, provider, hspec, hprovider⟩
  · rintro ⟨hmodules, hproviders, hsecrets⟩ hflawed
    cases hflawed with
    | inModule name m mem flawed => exact hmodules name m mem flawed
    | provider settings backends name p mem source =>
      exact source (ProviderSource.exists_parse_iff.mp (hproviders settings backends name p mem))
    | secretStore store given single =>
      obtain ⟨spec, provider, hspec, hprovider⟩ := hsecrets store given
      exact single ⟨spec, hspec, exists_single_iff.mp ⟨provider, hprovider⟩⟩

end Workspace

end Rollout
