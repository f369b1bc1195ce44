import Rollout.Failure

/-!
# Module configuration

The platform configures a module by a default block and by patch blocks, each of which selects the
projects that it is laid over the default block for.

* `ModuleConfig.selecting` : the patch blocks that select a project;
* `ModuleConfig.effective?` : the configuration of a project, unless several blocks select it.
-/

set_option autoImplicit false

namespace Rollout

/-- The name of the default block. -/
def defaultBlock : String := "default"

/-- A block that is laid over the default one for some projects. -/
structure PatchBlock where
  config : Fields := []
  /-- The names of the projects. -/
  selector : List String := []
deriving DecidableEq, Repr

/-- The default block and the patch blocks by name. -/
structure ModuleBlocks where
  base : Fields := []
  patches : List (String × PatchBlock) := []
deriving DecidableEq, Repr

/-- The platform's configuration of a module. -/
structure ModuleConfig where
  path : String := ""
  version : String := ""
  blocks : ModuleBlocks := {}
deriving DecidableEq, Repr

namespace ModuleConfig

/-- The patch blocks that select a project. -/
def selectingBlocks (project : String) (m : ModuleConfig) : List (String × PatchBlock) :=
  m.blocks.patches.filter fun entry => entry.2.selector.contains project

/-- The names of the patch blocks that select a project. -/
def selecting (project : String) (m : ModuleConfig) : List String :=
  Assoc.keys (m.selectingBlocks project)

/-- The configuration of a project. -/
def effective? (project : String) (m : ModuleConfig) : Except ConfigurationError Fields :=
  match m.selectingBlocks project with
  | [] => .ok m.blocks.base
  | [(_, block)] => .ok (Assoc.overlay m.blocks.base block.config)
  | several => .error (.overlap project (Assoc.keys several))

end ModuleConfig

end Rollout
