import Rollout.Resource.Identity
import Rollout.Workspace.Basic

/-!
# Validating workspaces

A workspace is checked before any release is made for it, and everything that is wrong is reported
at once.

* `ModuleConfig.issues` : what is wrong with the configuration of a module;
* `Workspace.issues`, `Workspace.check` : what is wrong with a workspace.
-/

set_option autoImplicit false

namespace Rollout

/-- What is wrong with the configuration of a module. -/
inductive ModuleIssue where
  | empty
  /-- A patch block has the name of the default block. -/
  | named
  | noProjects (block : String)
  | contested (project first second : String)
deriving DecidableEq, Repr

/-- The wording of an issue with a module. -/
def ModuleIssue.message (name : String) : ModuleIssue → String
  | .empty => "module " ++ name ++ ": empty module config"
  | .named =>
    "module " ++ name ++ ": patcher block cannot be named " ++ Text.quoted defaultBlock
  | .noProjects block =>
    "module " ++ name ++ ": patcher " ++ block ++ " has an empty projectSelector"
  | .contested project first second =>
    "module " ++ name ++ ": project " ++ project ++ " is selected by both " ++ first ++ " and "
      ++ second

namespace ModuleConfig

/-- The projects with the first block that selects each, and the issues met on the way. -/
abbrev Owners := List (String × String) × List ModuleIssue

/-- Enters a project that a block selects. -/
def claimProject (block : String) (state : Owners) (project : String) : Owners :=
  match Assoc.lookup project state.1 with
  | none => (Assoc.put project block state.1, state.2)
  | some owner =>
    if owner = block then state else (state.1, state.2 ++ [.contested project owner block])

/-- Enters a block. -/
def claimBlock (state : Owners) (entry : String × PatchBlock) : Owners :=
  let named : List ModuleIssue := if entry.1 = defaultBlock then [.named] else []
  let empty : List ModuleIssue := if entry.2.selector.isEmpty then [.noProjects entry.1] else []
  entry.2.selector.foldl (claimProject entry.1) (state.1, state.2 ++ named ++ empty)

/-- What is wrong with the configuration of a module. -/
def issues (m : ModuleConfig) : List ModuleIssue :=
  let empty : List ModuleIssue :=
    if m.blocks.base.isEmpty && m.blocks.patches.isEmpty then [.empty] else []
  (m.blocks.patches.foldl claimBlock ([], empty)).2

end ModuleConfig

/-- What is wrong with a workspace. -/
inductive WorkspaceIssue where
  | inModule (name : String) (issue : ModuleIssue)
  | provider (name : String) (cause : ConfigurationError)
  | noSecretProvider
  | secretStore (cause : ConfigurationError)
deriving DecidableEq, Repr

/-- The wording of an issue with a workspace. -/
def WorkspaceIssue.message : WorkspaceIssue → String
  | .inModule name issue => issue.message name
  | .provider name cause => "terraform provider " ++ name ++ ": " ++ cause.message
  | .noSecretProvider => "secret store: provider is required"
  | .secretStore cause => "secret store: " ++ cause.message

namespace Workspace

/-- What is wrong with the modules. -/
def moduleIssues (w : Workspace) : List WorkspaceIssue :=
  w.modules.flatMap fun (name, config) => config.issues.map (.inModule name)

/-- What is wrong with a Terraform provider. -/
def providerIssue (entry : String × ProviderSettings) : Option WorkspaceIssue :=
  match ProviderSource.parse? entry.2.source with
  | .ok _ => none
  | .error e => some (.provider entry.1 e)

/-- What is wrong with the Terraform providers. -/
def providerIssues (w : Workspace) : List WorkspaceIssue :=
  match w.backends with
  | some settings => settings.terraform.filterMap providerIssue
  | none => []

/-- What is wrong with the place where secrets are kept. -/
def secretIssues (w : Workspace) : List WorkspaceIssue :=
  match w.secretStore with
  | none => []
  | some ⟨none⟩ => [.noSecretProvider]
  | some ⟨some spec⟩ =>
    match spec.single? with
    | .ok _ => []
    | .error e => [.secretStore e]

/-- Everything that is wrong with a workspace. -/
def issues (w : Workspace) : List WorkspaceIssue :=
  w.moduleIssues ++ w.providerIssues ++ w.secretIssues

/-- Refuses a workspace with which something is wrong. -/
def check (w : Workspace) : Except ConfigurationError Unit :=
  if w.issues.isEmpty then .ok () else .error (.issues (w.issues.map WorkspaceIssue.message))

end Workspace

end Rollout
