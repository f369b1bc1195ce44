import Rollout.Failure
import Rollout.Generation.Edit

/-!
# Pipelines

A pipeline runs its generators one after the other, each of which adds to the resources generated so
far, and then its patchers over the workbench.  The first failure ends the run, and nothing that it
produced is kept.

* `Pipeline.run` : the spec that a pipeline produces, or the failure;
* `Pipeline.benches` : the workbench that each patcher met.
-/

set_option autoImplicit false

namespace Rollout

/-- Generates the resources of a module, given those that were generated before. -/
structure Generator where
  name : String
  generate : List Resource → Except Failure (List Resource)

/-- Changes generated resources. -/
structure Patcher where
  name : String
  patch : Workbench → Except Failure Workbench

/-- What the failure of a generator is reported as. -/
def Generator.failed (g : Generator) : Failure → Failure
  | .generation e => .generation e
  | .secret e => .secret e
  | .cancelled text => .cancelled text
  | e => .generation (.generator g.name e.message)

/-- What the failure of a patcher is reported as. -/
def Patcher.failed (p : Patcher) : Failure → Failure
  | .patch e => .patch e
  | .cancelled text => .cancelled text
  | e => .patch (.patcher p.name e.message)

/-- Generators and patchers, in the order in which they run. -/
structure Pipeline where
  generators : List Generator
  patchers : List Patcher := []

namespace Pipeline

/-- Runs generators. -/
def generateAll : List Generator → List Resource → Except Failure (List Resource)
  | [], resources => .ok resources
  | g :: rest, resources =>
    match g.generate resources with
    | .error e => .error (g.failed e)
    | .ok resources => generateAll rest resources

/-- Runs patchers. -/
def patchAll : List Patcher → Workbench → Except Failure Workbench
  | [], b => .ok b
  | p :: rest, b =>
    match p.patch b with
    | .error e => .error (p.failed e)
    | .ok b => patchAll rest b

/-- The workbenches that patchers met, as far as they ran. -/
def met : List Patcher → Workbench → List Workbench
  | [], _ => []
  | p :: rest, b =>
    match p.patch b with
    | .error _ => [b]
    | .ok next => b :: met rest next

/-- Runs a pipeline. -/
def run (p : Pipeline) : Except Failure (List Resource) :=
  match generateAll p.generators [] with
  | .error e => .error e
  | .ok resources =>
    match patchAll p.patchers (.ofResources resources) with
    | .error e => .error e
    | .ok b => .ok b.resources

/-- The workbenches that the patchers of a pipeline met. -/
def benches (p : Pipeline) : List Workbench :=
  match generateAll p.generators [] with
  | .error _ => []
  | .ok resources => met p.patchers (.ofResources resources)

end Pipeline

end Rollout
