import Rollout.Generation.Workbench
import Rollout.Proofs.Assoc
import Rollout.Proofs.Graph.Accepted

/-!
# Work on whole benches

A workbench of generated resources from which nothing was taken, and to which nothing was added, has
each of them in one group: whatever the groups are, to change all resources in groups is to change all
resources, and what is left in the end stands in the order of generation.

* `groupBy_perm` : grouping keeps every item, once;
* `Workbench.Whole` : a workbench on which every resource was generated and is in one group;
* `Workbench.Whole.modifyAll_eq`, `Workbench.Whole.resources_eq` : work on all its resources, and what
  is left of it.
-/

set_option autoImplicit false

namespace Rollout

/-! ## Groups -/

section

variable {α : Type}

/-- An item that is put behind a group is one more item. -/
theorem flatMap_put_append (key : String) (a : α) : ∀ groups : List (String × List α),
    ((Assoc.put key ((Assoc.lookup key groups).getD [] ++ [a]) groups).flatMap Prod.snd).Perm
      (groups.flatMap Prod.snd ++ [a])
  | [] => by simp [Assoc.put, Assoc.lookup]
  | (k, items) :: groups => by
    rw [Assoc.put, Assoc.lookup]
    split
    · simp only [Option.getD_some, List.flatMap_cons, List.append_assoc]
      exact List.perm_append_comm.append_left items
    · simp only [List.flatMap_cons, List.append_assoc]
      exact (flatMap_put_append key a groups).append_left items

/-- **Grouping keeps every item, once.** -/
theorem groupBy_perm (key : α → String) (items : List α) :
    ((groupBy key items).flatMap Prod.snd).Perm items := by
  suffices h : ∀ (items : List α) (groups : List (String × List α)),
      ((items.foldl (fun groups a =>
        Assoc.put (key a) ((Assoc.lookup (key a) groups).getD [] ++ [a]) groups) groups).flatMap
          Prod.snd).Perm (groups.flatMap Prod.snd ++ items) from h items []
  intro items
  induction items with
  | nil => exact fun groups => by simp
  | cons a items ih =>
    intro groups
    have hput := (flatMap_put_append (key a) a groups).append_right items
    rw [List.append_assoc] at hput
    exact (ih _).trans hput

end

namespace Workbench

variable {b : Workbench}

/-! ## Changing resources -/

/-- Changes the resources with some labels, one after the other. -/
def modifyEach (f : Resource → Resource) (labels : List Nat) (b : Workbench) : Workbench :=
  labels.foldl (fun b label => b.modify label f) b

theorem item?_modify (label other : Nat) (f : Resource → Resource) (b : Workbench) :
    (b.modify label f).item? other =
      (b.item? other).map fun r => if label = other then f r else r :=
  List.getElem?_modify f label b.items other

/-- Only what a change makes of the resource with the label counts. -/
theorem modify_congr {label : Nat} {f g : Resource → Resource}
    (h : ∀ r, b.item? label = some r → f r = g r) : b.modify label f = b.modify label g := by
  have hitems : b.items.modify label f = b.items.modify label g := by
    ext1 i
    rw [List.getElem?_modify, List.getElem?_modify]
    cases hi : b.items[i]? with
    | none => rfl
    | some r =>
      simp only [Option.map_eq_map, Option.map_some, Option.some.injEq]
      split
      · rename_i hlabel
        exact h r (hlabel ▸ hi)
      · rfl
  rw [modify, modify, hitems]

theorem modify_eq_self {label : Nat} {f : Resource → Resource}
    (h : ∀ r, b.item? label = some r → f r = r) : b.modify label f = b := by
  rw [modify_congr (g := id) h, modify, List.modify_id]

@[simp]
theorem modifyEach_cons (f : Resource → Resource) (label : Nat) (rest : List Nat) (b : Workbench) :
    modifyEach f (label :: rest) b = modifyEach f rest (b.modify label f) := rfl

theorem modifyEach_groups (f : Resource → Resource) : ∀ (labels : List Nat) (b : Workbench),
    (modifyEach f labels b).groups = b.groups
  | [], _ => rfl
  | label :: rest, b => modifyEach_groups f rest (b.modify label f)

theorem modifyEach_generated (f : Resource → Resource) : ∀ (labels : List Nat) (b : Workbench),
    (modifyEach f labels b).generated = b.generated
  | [], _ => rfl
  | label :: rest, b => modifyEach_generated f rest (b.modify label f)

/-- Of labels that do not repeat, each resource is changed once. -/
theorem item?_modifyEach (f : Resource → Resource) (i : Nat) : ∀ (labels : List Nat)
    (b : Workbench), labels.Nodup →
    (modifyEach f labels b).item? i = (b.item? i).map fun r => if i ∈ labels then f r else r
  | [], b, _ => by simp [modifyEach]
  | label :: rest, b, h => by
    obtain ⟨hlabel, hrest⟩ := List.nodup_cons.mp h
    rw [modifyEach_cons, item?_modifyEach f i rest _ hrest, item?_modify, Option.map_map]
    congr 1
    funext r
    by_cases hi : label = i
    · subst hi
      simp [hlabel]
    · simp [hi, Ne.symm hi]

/-! ## Whole benches -/

/-- **A whole bench**: every resource on it was generated and is in one group. -/
structure Whole (b : Workbench) : Prop where
  generated : b.generated = b.items.length
  labels : b.labels.Perm (List.range b.items.length)

theorem whole_ofResources (resources : List Resource) : (ofResources resources).Whole where
  generated := rfl
  labels := by
    have hperm := (groupBy_perm (fun entry : Resource × Nat => entry.1.kindKey)
      resources.zipIdx).map Prod.snd
    rw [List.zipIdx_map_snd, ← List.range_eq_range', List.map_flatMap] at hperm
    rw [labels, ofResources, List.flatMap_map]
    exact hperm

namespace Whole

theorem nodup (h : b.Whole) : b.labels.Nodup := h.labels.nodup_iff.mpr List.nodup_range

theorem mem_labels_iff (h : b.Whole) {label : Nat} : label ∈ b.labels ↔ label < b.items.length := by
  rw [h.labels.mem_iff, List.mem_range]

/-- **What is left of a whole bench** are its resources, in order. -/
theorem resources_eq (h : b.Whole) : b.resources = b.items := by
  have hkept : (List.range b.generated).filter b.isKept = List.range b.items.length := by
    rw [h.generated, List.filter_eq_self]
    intro label hlabel
    simpa [isKept, h.mem_labels_iff] using hlabel
  have hadded : b.labels.filter (fun l => b.generated ≤ l) = [] := by
    rw [List.filter_eq_nil_iff]
    intro label hlabel
    have := h.mem_labels_iff.mp hlabel
    simp only [h.generated, decide_eq_true_eq]
    omega
  rw [resources, hkept, hadded, List.append_nil]
  exact Graph.filterMap_getElem?_range b.items

/-- **To change all resources in groups is to change all resources.** -/
theorem modifyAll_eq (h : b.Whole) (f : Resource → Resource) :
    b.modifyAll f = { b with items := b.items.map f } := by
  have hitems : (modifyEach f b.labels b).items = b.items.map f := by
    ext1 i
    have hi := item?_modifyEach f i b.labels b h.nodup
    rw [item?, item?] at hi
    rw [hi, List.getElem?_map]
    cases hget : b.items[i]? with
    | none => rfl
    | some r => simp [h.mem_labels_iff.mpr (List.getElem?_eq_some_iff.mp hget).1]
  change Workbench.mk (modifyEach f b.labels b).items (modifyEach f b.labels b).generated
    (modifyEach f b.labels b).groups = _
  rw [hitems, modifyEach_generated, modifyEach_groups]

/-- A whole bench with its resources changed is whole. -/
theorem map (h : b.Whole) (f : Resource → Resource) : Whole { b with items := b.items.map f } where
  generated := h.generated.trans (List.length_map f).symm
  labels := by
    rw [List.length_map]
    exact h.labels

end Whole

/-- The resources in groups, group by group. -/
def listed (b : Workbench) : List Resource := b.labels.filterMap b.item?

theorem Whole.listed_perm (h : b.Whole) : b.listed.Perm b.items := by
  have hperm := h.labels.filterMap b.item?
  have hitems : (List.range b.items.length).filterMap b.item? = b.items :=
    Graph.filterMap_getElem?_range b.items
  rwa [hitems] at hperm

end Workbench

end Rollout
