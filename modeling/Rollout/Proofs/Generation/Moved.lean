import Rollout.Generation.Patch
import Rollout.Proofs.Generation.Workbench
import Rollout.Proofs.Text.Segments

/-!
# Moving resources to a namespace

Resources are moved group by group, and the new identifiers are gathered by the old ones while this
goes on; only then do the dependencies follow.

* `Patch.placed` : a resource in a namespace; `Patch.idIn` : its identifier there;
* `Patch.newId_of_mem` : where identifiers do not repeat, that of each resource becomes its new one;
* `Patch.relocated` : all resources in a namespace, with dependencies that follow;
* `Patch.moveAll_eq`, `Patch.moveAll_settled` : what moving the resources of a bench comes to, and that
  it comes to nothing where they have been moved before.
-/

set_option autoImplicit false

namespace Rollout.Patch

variable {space : String} {r : Resource}

/-! ## Identifiers -/

theorem movedId?_eq_some_iff {id new : String} : movedId? space id = some new ↔
    ∃ version kind old name, Text.split ':' id = [version, kind, old, name] ∧
      new = Text.join ":" [version, kind, space, name] := by
  unfold movedId?
  split
  · rename_i version kind old name hsplit
    rw [hsplit, Option.some.injEq]
    constructor
    · rintro rfl
      exact ⟨version, kind, old, name, rfl, rfl⟩
    · rintro ⟨_, _, _, _, hparts, rfl⟩
      simp only [List.cons.injEq, and_true] at hparts
      obtain ⟨rfl, rfl, rfl, rfl⟩ := hparts
      rfl
  · rename_i hsplit
    simp only [reduceCtorEq, false_iff]
    rintro ⟨version, kind, old, name, hparts, -⟩
    exact hsplit version kind old name hparts

/-- Only an identifier of four segments is one of a namespace. -/
theorem movedId?_eq_none_iff {id : String} :
    movedId? space id = none ↔ Text.count ':' id ≠ 3 := by
  have hlength := Text.length_split ':' id
  rw [Option.eq_none_iff_forall_ne_some]
  constructor
  · intro h hcount
    rw [hcount] at hlength
    obtain ⟨version, kind, old, name, hsplit⟩ := List.length_eq_four.mp hlength
    exact h _ (movedId?_eq_some_iff.mpr ⟨version, kind, old, name, hsplit, rfl⟩)
  · intro h new hnew
    obtain ⟨_, _, _, _, hsplit, -⟩ := movedId?_eq_some_iff.mp hnew
    rw [hsplit] at hlength
    simp only [List.length_cons, List.length_nil] at hlength
    omega

/-- The identifier of a moved resource is not changed again: it stays the same, or has come to have
too many segments. -/
theorem movedId?_movedId? {id new : String} (h : movedId? space id = some new) :
    movedId? space new = none ∨ movedId? space new = some new := by
  obtain ⟨version, kind, old, name, hsplit, rfl⟩ := movedId?_eq_some_iff.mp h
  have hsegment : ∀ s ∈ [version, kind, old, name], Text.count ':' s = 0 :=
    fun s hs => Text.count_of_mem_split (hsplit ▸ hs)
  -- only the namespace, which was no segment of an identifier, can hold a separator
  have hversion := hsegment version (by simp)
  have hkind := hsegment kind (by simp)
  have hname := hsegment name (by simp)
  have hparts : [version, kind, space, name] ≠ [] := List.cons_ne_nil _ _
  by_cases hspace : Text.count ':' space = 0
  · refine .inr (movedId?_eq_some_iff.mpr ⟨version, kind, space, name, ?_, rfl⟩)
    exact Text.split_join_eq_self Text.colon_eq hparts (by simp [hversion, hkind, hspace, hname])
  · refine .inl (movedId?_eq_none_iff.mpr fun hcount => hspace ?_)
    rw [Text.count_join_cons Text.colon_eq, Text.count_join_cons Text.colon_eq,
      Text.count_join_cons Text.colon_eq, Text.count_join_singleton, hversion, hkind, hname] at hcount
    omega

/-! ## One resource -/

/-- A resource that can be given a namespace: the metadata of a Kubernetes resource, if it has any,
are an object. -/
def Described (r : Resource) : Prop :=
  r.backend = .kubernetes → ∃ fields, metadataOf r = .object fields

/-- The resource in a namespace under an identifier. -/
def movedTo (space id : String) (fields : Fields) (r : Resource) : Resource :=
  { withMetadata (.object (Assoc.put "namespace" (.str space) fields)) r with id }

/-- A resource in a namespace; one that is not namespaced stays as it is. -/
def placed (space : String) (r : Resource) : Resource :=
  match moved? space r with
  | .ok (some new) => new
  | _ => r

/-- The identifier of a resource in a namespace. -/
def idIn (space : String) (r : Resource) : String :=
  match r.backend with
  | .kubernetes => (movedId? space r.id).getD r.id
  | .terraform => r.id

theorem moved?_of_id {id : String} {fields : Fields} (hbackend : r.backend = .kubernetes)
    (hid : movedId? space r.id = some id) (hfields : metadataOf r = .object fields) :
    moved? space r = .ok (some (movedTo space id fields r)) := by
  simp only [moved?, hbackend, hid, hfields, movedTo]

theorem moved?_of_none (h : r.backend = .kubernetes → movedId? space r.id = none) :
    moved? space r = .ok none := by
  unfold moved?
  cases hbackend : r.backend with
  | kubernetes => simp only [h hbackend]
  | terraform => rfl

theorem placed_of_id {id : String} {fields : Fields} (hbackend : r.backend = .kubernetes)
    (hid : movedId? space r.id = some id) (hfields : metadataOf r = .object fields) :
    placed space r = movedTo space id fields r := by
  rw [placed, moved?_of_id hbackend hid hfields]

theorem placed_of_none (h : r.backend = .kubernetes → movedId? space r.id = none) :
    placed space r = r := by
  rw [placed, moved?_of_none h]

/-- A resource is moved under its new identifier, with the namespace in its metadata, or stays as it
is. -/
theorem placed_cases (space : String) (h : Described r) :
    (∃ id fields, r.backend = .kubernetes ∧ movedId? space r.id = some id ∧
      metadataOf r = .object fields ∧ moved? space r = .ok (some (movedTo space id fields r)) ∧
      placed space r = movedTo space id fields r) ∨
    ((r.backend = .kubernetes → movedId? space r.id = none) ∧ moved? space r = .ok none ∧
      placed space r = r) := by
  by_cases hstays : r.backend = .kubernetes → movedId? space r.id = none
  · exact .inr ⟨hstays, moved?_of_none hstays, placed_of_none hstays⟩
  · obtain ⟨hbackend, hid⟩ := Classical.not_imp.mp hstays
    obtain ⟨id, hid⟩ := Option.ne_none_iff_exists'.mp hid
    obtain ⟨fields, hfields⟩ := h hbackend
    exact .inl ⟨id, fields, hbackend, hid, hfields, moved?_of_id hbackend hid hfields,
      placed_of_id hbackend hid hfields⟩

theorem placed_id (h : Described r) : (placed space r).id = idIn space r := by
  rcases placed_cases space h with ⟨id, fields, hbackend, hid, _, _, hplaced⟩ |
    ⟨hstays, _, hplaced⟩
  · rw [hplaced, idIn, hbackend, hid]
    rfl
  · rw [hplaced, idIn]
    cases hbackend : r.backend with
    | kubernetes => simp only [hstays hbackend, Option.getD_none]
    | terraform => rfl

theorem placed_dependsOn (h : Described r) : (placed space r).dependsOn = r.dependsOn := by
  rcases placed_cases space h with ⟨_, _, _, _, _, _, hplaced⟩ | ⟨_, _, hplaced⟩
  · rw [hplaced]
    rfl
  · rw [hplaced]

/-- Dependencies have no part in where a resource is placed. -/
theorem placed_follow (moves : List (String × String)) (h : Described r) :
    placed space (follow moves r) = follow moves (placed space r) := by
  rcases placed_cases space h with ⟨id, fields, hbackend, hid, hfields, _, hplaced⟩ |
    ⟨hstays, _, hplaced⟩
  · have hfollow : placed space (follow moves r) = movedTo space id fields (follow moves r) :=
      placed_of_id hbackend hid hfields
    rw [hfollow, hplaced]
    rfl
  · have hfollow : placed space (follow moves r) = follow moves r := placed_of_none hstays
    rw [hfollow, hplaced]

/-- A resource that moving leaves as it is. -/
structure Settled (space : String) (r : Resource) : Prop where
  described : Described r
  placed_eq : placed space r = r

theorem metadataOf_movedTo (space id : String) (fields : Fields) (r : Resource) :
    metadataOf (movedTo space id fields r) =
      .object (Assoc.put "namespace" (.str space) fields) := by
  simp [metadataOf, movedTo, withMetadata]

/-- **A resource that was moved is settled.** -/
theorem settled_placed (h : Described r) : Settled space (placed space r) := by
  rcases placed_cases space h with ⟨id, fields, hbackend, hid, hfields, _, hplaced⟩ |
    ⟨_, _, hplaced⟩
  · have hmetadata := metadataOf_movedTo space id fields r
    rw [hplaced]
    refine ⟨fun _ => ⟨_, hmetadata⟩, ?_⟩
    rcases movedId?_movedId? hid with hnone | hsome
    · exact placed_of_none fun _ => hnone
    · rw [placed_of_id (r := movedTo space id fields r) hbackend hsome hmetadata]
      simp only [movedTo, withMetadata, Assoc.put_put]
  · rw [hplaced]
    exact ⟨h, hplaced⟩

theorem Settled.follow (h : Settled space r) (moves : List (String × String)) :
    Settled space (follow moves r) :=
  ⟨h.described, by rw [placed_follow moves h.described, h.placed_eq]⟩

/-! ## Resource by resource -/

/-- The new identifiers by the old ones, with that of one more resource if it has a new one. -/
def gather (space : String) (moves : List (String × String)) (r : Resource) :
    List (String × String) :=
  if (placed space r).id = r.id then moves else Assoc.put r.id (placed space r).id moves

/-- The new identifiers of resources by the old ones. -/
def gathered (space : String) (resources : List Resource) : List (String × String) :=
  resources.foldl (gather space) []

/-- One step: a resource is placed, and its new identifier gathered. -/
theorem moveItem_eq (b : Workbench) (moves : List (String × String)) (label : Nat)
    (h : ∀ r, b.item? label = some r → Described r) :
    moveItem space (b, moves) label =
      .ok (b.modify label (placed space), (b.item? label).toList.foldl (gather space) moves) := by
  unfold moveItem
  cases hitem : b.item? label with
  | none =>
    have hmodify : b.modify label (placed space) = b :=
      Workbench.modify_eq_self fun r hr => by simp [hitem] at hr
    simp [hmodify]
  | some r =>
    have hat : ∀ r', b.item? label = some r' → r' = r :=
      fun r' hr' => Option.some.inj (hr'.symm.trans hitem)
    rcases placed_cases space (h r hitem) with ⟨id, fields, _, _, _, hmoved, hplaced⟩ |
      ⟨_, hmoved, hplaced⟩
    · have hmodify : b.modify label (placed space) =
          b.modify label fun _ => movedTo space id fields r :=
        Workbench.modify_congr fun r' hr' => by rw [hat r' hr', hplaced]
      simp [hmoved, hmodify, gather, hplaced]
    · have hmodify : b.modify label (placed space) = b :=
        Workbench.modify_eq_self fun r' hr' => by rw [hat r' hr', hplaced]
      simp [hmoved, hmodify, gather, hplaced]

/-- All steps: since no label repeats, each resource is met as it was in the beginning. -/
theorem moveItems_eq : ∀ (labels : List Nat) (b : Workbench) (moves : List (String × String)),
    labels.Nodup → (∀ l ∈ labels, ∀ r, b.item? l = some r → Described r) →
    moveItems space labels (b, moves) =
      .ok (b.modifyEach (placed space) labels, (labels.filterMap b.item?).foldl (gather space) moves)
  | [], _, _, _, _ => rfl
  | label :: rest, b, moves, hnodup, h => by
    obtain ⟨hlabel, hrest⟩ := List.nodup_cons.mp hnodup
    -- the first step does not touch what the others meet
    have hitem : ∀ l ∈ rest, (b.modify label (placed space)).item? l = b.item? l := by
      intro l hl
      have hne : label ≠ l := fun heq => hlabel (heq ▸ hl)
      rw [Workbench.item?_modify]
      simp [hne]
    have hdescribed : ∀ l ∈ rest, ∀ r, (b.modify label (placed space)).item? l = some r →
        Described r := fun l hl r hr => h l (List.mem_cons_of_mem _ hl) r (hitem l hl ▸ hr)
    have hlisted : rest.filterMap (b.modify label (placed space)).item? =
        rest.filterMap b.item? := List.filterMap_congr hitem
    rw [moveItems, moveItem_eq b moves label (h label List.mem_cons_self)]
    simp only
    rw [moveItems_eq rest _ _ hrest hdescribed, hlisted, Workbench.modifyEach_cons,
      List.filterMap_cons]
    cases b.item? label <;> rfl

/-! ## New identifiers by old ones -/

/-- Nothing is gathered for an identifier that every resource keeps. -/
theorem lookup_gather_eq_none_iff {id : String} : ∀ (resources : List Resource)
    {moves : List (String × String)},
    Assoc.lookup id (resources.foldl (gather space) moves) = none ↔
      Assoc.lookup id moves = none ∧ ∀ r ∈ resources, r.id = id → (placed space r).id = id
  | [], _ => by simp
  | r :: rest, moves => by
    have hstep : Assoc.lookup id (gather space moves r) = none ↔
        Assoc.lookup id moves = none ∧ (r.id = id → (placed space r).id = id) := by
      rw [gather]
      split
      · rename_i hkept
        exact (and_iff_left fun hid => hkept.trans hid).symm
      · rename_i hnew
        rw [Assoc.lookup_put]
        by_cases hid : r.id = id
        · simp [hid, hid ▸ hnew]
        · simp [hid]
    rw [List.foldl_cons, lookup_gather_eq_none_iff rest, hstep, List.forall_mem_cons, and_assoc]

/-- What is gathered for an identifier is the new one of a resource that has it. -/
theorem exists_of_lookup_gather {id new : String} : ∀ (resources : List Resource)
    {moves : List (String × String)},
    Assoc.lookup id (resources.foldl (gather space) moves) = some new →
    Assoc.lookup id moves = some new ∨ ∃ r ∈ resources, r.id = id ∧ (placed space r).id = new
  | [], _, h => .inl h
  | r :: rest, moves, h => by
    -- the resources behind this one are asked first: they write over its entry
    rcases exists_of_lookup_gather rest h with h | ⟨r', hr', hid, hnew⟩
    · rw [gather] at h
      split at h
      · exact .inl h
      · rw [Assoc.lookup_put] at h
        split at h
        · rename_i hid
          exact .inr ⟨r, List.mem_cons_self, hid, Option.some.inj h⟩
        · exact .inl h
    · exact .inr ⟨r', List.mem_cons_of_mem _ hr', hid, hnew⟩

/-- What becomes of an identifier when the dependencies follow. -/
def newId (moves : List (String × String)) (id : String) : String :=
  (Assoc.lookup id moves).getD id

theorem follow_dependsOn (moves : List (String × String)) (r : Resource) :
    (follow moves r).dependsOn = r.dependsOn.map (newId moves) := rfl

theorem follow_eq_self {moves : List (String × String)}
    (h : ∀ need ∈ r.dependsOn, newId moves need = need) : follow moves r = r := by
  have hneeds : r.dependsOn.map (newId moves) = r.dependsOn :=
    (List.map_congr_left h).trans (List.map_id _)
  exact congrArg (fun needs => { r with dependsOn := needs }) hneeds

/-- An identifier that every resource keeps stays what it is. -/
theorem newId_of_kept {resources : List Resource} {id : String}
    (h : ∀ r ∈ resources, r.id = id → (placed space r).id = id) :
    newId (gathered space resources) id = id := by
  rw [newId, gathered, (lookup_gather_eq_none_iff resources).mpr ⟨rfl, h⟩]
  rfl

/-- **Where no two resources have one identifier**, that of each becomes its new one. -/
theorem newId_of_mem {resources : List Resource} (hnodup : (Resource.ids resources).Nodup)
    (hr : r ∈ resources) : newId (gathered space resources) r.id = (placed space r).id := by
  cases hlookup : Assoc.lookup r.id (gathered space resources) with
  | none =>
    have hkept := ((lookup_gather_eq_none_iff resources).mp hlookup).2 r hr rfl
    rw [newId, hlookup, hkept]
    rfl
  | some new =>
    rcases exists_of_lookup_gather resources hlookup with h | ⟨r', hr', hid, hnew⟩
    · cases h
    · obtain rfl := Resource.eq_of_id_eq hnodup hr' hr hid
      rw [newId, hlookup, ← hnew]
      rfl

/-! ## All resources -/

/-- All resources in a namespace, with dependencies that follow. -/
def relocated (space : String) (resources : List Resource) : List Resource :=
  resources.map fun r =>
    follow (gathered space (Workbench.ofResources resources).listed) (placed space r)

/-- **What moving the resources of a whole bench comes to.** -/
theorem moveAll_eq {b : Workbench} (hb : b.Whole) (h : ∀ r ∈ b.items, Described r) :
    moveAll space b =
      .ok { b with
        items := b.items.map fun r => follow (gathered space b.listed) (placed space r) } := by
  have hdescribed : ∀ l ∈ b.labels, ∀ r, b.item? l = some r → Described r :=
    fun l _ r hr => h r (List.mem_of_getElem? hr)
  have hplaced : b.modifyEach (placed space) b.labels =
      { b with items := b.items.map (placed space) } := hb.modifyAll_eq (placed space)
  rw [moveAll, moveItems_eq b.labels b [] hb.nodup hdescribed, hplaced]
  simp only
  rw [(hb.map (placed space)).modifyAll_eq, List.map_map]
  rfl

theorem foldl_gather_settled : ∀ {resources : List Resource} (moves : List (String × String)),
    (∀ r ∈ resources, Settled space r) → resources.foldl (gather space) moves = moves
  | [], _, _ => rfl
  | r :: rest, moves, h => by
    rw [List.foldl_cons, gather, if_pos (congrArg Resource.id (h r List.mem_cons_self).placed_eq),
      foldl_gather_settled moves fun r hr => h r (List.mem_cons_of_mem _ hr)]

/-- **Where every resource is settled nothing is moved.** -/
theorem moveAll_settled {b : Workbench} (hb : b.Whole) (h : ∀ r ∈ b.items, Settled space r) :
    moveAll space b = .ok b := by
  have hlisted : ∀ r ∈ b.listed, Settled space r := fun r hr => h r (hb.listed_perm.mem_iff.mp hr)
  have hitems : (b.items.map fun r => follow (gathered space b.listed) (placed space r)) = b.items := by
    rw [gathered, foldl_gather_settled [] hlisted]
    refine (List.map_congr_left fun r hr => ?_).trans (List.map_id _)
    rw [(h r hr).placed_eq]
    exact follow_eq_self fun _ _ => rfl
  rw [moveAll_eq hb fun r hr => (h r hr).described, hitems]

theorem settled_relocated {resources : List Resource} (h : ∀ r ∈ resources, Described r) :
    ∀ r ∈ relocated space resources, Settled space r := by
  intro r hr
  obtain ⟨old, hold, rfl⟩ := List.mem_map.mp hr
  exact (settled_placed (h old hold)).follow _

end Rollout.Patch
