import Rollout.Resource.Basic

/-!
# The workbench

Generated resources are put on a workbench, grouped by kind, for patchers to work on.  The groups
refer to the resources by label, so that a resource stays the same one whatever becomes of its group,
its identifier or its attributes: a patcher may move it, put it into several groups, or drop it.

* `Workbench.ofResources` : the generated resources, grouped;
* `Workbench.resources` : what is left in the end.
-/

set_option autoImplicit false

namespace Rollout

/-- Puts items into groups, which stand in the order of their first items. -/
def groupBy {α : Type} (key : α → String) (items : List α) : List (String × List α) :=
  items.foldl
    (fun groups a => Assoc.put (key a) ((Assoc.lookup (key a) groups).getD [] ++ [a]) groups) []

/-- Puts resources into groups by kind. -/
def groupByKind (resources : List Resource) : List (String × List Resource) :=
  groupBy Resource.kindKey resources

/-- Resources that are being worked on. -/
structure Workbench where
  /-- The resources by label: first the generated ones, then those that were added. -/
  items : List Resource
  /-- How many of the resources were generated. -/
  generated : Nat
  /-- The labels of the resources in each group. -/
  groups : List (String × List Nat)
deriving DecidableEq, Repr

namespace Workbench

/-- Generated resources, grouped by kind. -/
def ofResources (resources : List Resource) : Workbench where
  items := resources
  generated := resources.length
  groups :=
    (groupBy (fun entry => entry.1.kindKey) resources.zipIdx).map fun (key, entries) =>
      (key, entries.map Prod.snd)

/-- The labels in all groups, group by group. -/
def labels (b : Workbench) : List Nat := b.groups.flatMap Prod.snd

/-- The resource with a label. -/
def item? (label : Nat) (b : Workbench) : Option Resource := b.items[label]?

/-- The groups with the identifiers of their resources. -/
def view (b : Workbench) : List (String × List String) :=
  b.groups.map fun (key, group) => (key, group.filterMap fun l => (b.item? l).map Resource.id)

/-- Changes the resource with a label. -/
def modify (label : Nat) (f : Resource → Resource) (b : Workbench) : Workbench :=
  { b with items := b.items.modify label f }

/-- Changes all resources in groups, one after the other. -/
def modifyAll (f : Resource → Resource) (b : Workbench) : Workbench :=
  b.labels.foldl (fun b label => b.modify label f) b

/-- Whether a generated resource is still in a group. -/
def isKept (b : Workbench) (label : Nat) : Bool := b.labels.contains label

/-- The generated resources that are still in a group, in the order of generation, and then those
that were added, group by group. -/
def resources (b : Workbench) : List Resource :=
  ((List.range b.generated).filter b.isKept ++ b.labels.filter fun l => b.generated ≤ l).filterMap
    fun l => b.item? l

end Workbench

end Rollout
