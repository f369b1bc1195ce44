import Rollout.Secret.Provider
import Rollout.Workspace.Module

/-!
# Workspaces

What the platform gives to every project in a workspace: the configuration of modules, the settings
of the backends, and the place where secrets are kept.
-/

set_option autoImplicit false

namespace Rollout

/-- The settings of a Terraform provider; settings of its own are kept as they are. -/
structure ProviderSettings where
  source : String
  version : String := ""
  extra : Fields := []
deriving DecidableEq, Repr

/-- The settings of the backends. -/
structure BackendSettings where
  /-- The path of the kubeconfig, if there are settings for Kubernetes. -/
  kubeConfig : Option String := none
  terraform : List (String × ProviderSettings) := []
deriving DecidableEq, Repr

/-- Where secrets are kept. -/
structure SecretStoreSpec where
  provider : Option ProviderSpec := none
deriving DecidableEq, Repr

/-- What the platform gives to every project. -/
structure Workspace where
  name : String := ""
  modules : List (String × ModuleConfig) := []
  backends : Option BackendSettings := none
  secretStore : Option SecretStoreSpec := none
deriving DecidableEq, Repr

/-- The path of the kubeconfig that a workspace sets, or the empty one. -/
def Workspace.kubeConfig (w : Workspace) : String :=
  match w.backends with
  | some settings => settings.kubeConfig.getD ""
  | none => ""

end Rollout
