import Rollout.Generation.Workbench

/-!
# Edits of the workbench

What may be done to the resources on a workbench and to their groups.  An edit that names an
identifier applies to every resource that has it, group by group.
-/

set_option autoImplicit false

namespace Rollout

/-- One edit. -/
inductive Edit where
  /-- Adds a new resource to a group, which is created if there is none. -/
  | add (group : String) (r : Resource)
  | dropGroup (group : String)
  /-- Takes resources out of their groups. -/
  | drop (id : String)
  /-- Moves resources to the end of a group, which is created if there is none. -/
  | move (id group : String)
  /-- Puts resources into one more group. -/
  | share (id group : String)
  | set (id key : String) (value : Value)
  | depend (id : String) (on : List String)
  | rename (id name : String)
deriving Repr

namespace Workbench

/-- The labels in a group. -/
def group (key : String) (b : Workbench) : List Nat := (Assoc.lookup key b.groups).getD []

/-- Gives a group its labels. -/
def setGroup (key : String) (labels : List Nat) (b : Workbench) : Workbench :=
  { b with groups := Assoc.put key labels b.groups }

/-- Puts a label at the end of a group. -/
def append (key : String) (label : Nat) (b : Workbench) : Workbench :=
  b.setGroup key (b.group key ++ [label])

/-- Takes a label out of a group, once. -/
def remove (key : String) (label : Nat) (b : Workbench) : Workbench :=
  b.setGroup key ((b.group key).erase label)

/-- Whether the resource with a label has an identifier. -/
def isCalled (id : String) (b : Workbench) (label : Nat) : Bool :=
  (b.item? label).map Resource.id = some id

/-- Does something with every resource of a group that has an identifier. -/
def forGroup (id : String) (f : String → Nat → Workbench → Workbench) (b : Workbench)
    (key : String) : Workbench :=
  (b.group key).foldl (fun b label => if b.isCalled id label then f key label b else b) b

/-- Does something with every resource that has an identifier, group by group. -/
def forEach (id : String) (f : String → Nat → Workbench → Workbench) (b : Workbench) : Workbench :=
  (Assoc.keys b.groups).foldl (forGroup id f) b

/-- Carries out an edit. -/
def edit (e : Edit) (b : Workbench) : Workbench :=
  match e with
  | .add key r => { b with items := b.items ++ [r] }.append key b.items.length
  | .dropGroup key => { b with groups := Assoc.erase key b.groups }
  | .drop id => b.forEach id fun key label b => b.remove key label
  | .move id target => b.forEach id fun key label b => (b.remove key label).append target label
  | .share id target => b.forEach id fun _ label b => b.append target label
  | .set id key value =>
    b.forEach id fun _ label b =>
      b.modify label fun r => { r with attributes := Assoc.put key value r.attributes }
  | .depend id on => b.forEach id fun _ label b => b.modify label fun r => { r with dependsOn := on }
  | .rename id name => b.forEach id fun _ label b => b.modify label fun r => { r with id := name }

end Workbench

end Rollout
