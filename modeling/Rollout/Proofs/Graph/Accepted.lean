import Rollout.Graph.Basic
import Rollout.Proofs.Graph.Order

/-!
# The collections that have a graph

* `Resource.Needs` : one resource of a collection depends on another one of it;
* `Resource.Accepted` : identifiers are distinct, needed resources are there (where that is asked),
  and no resource needs itself, directly or through others;
* `Graph.build_isOk_iff` : a collection has a graph exactly when it is accepted;
* `Graph.ordered_perm` : the apply order holds every resource once.
-/

set_option autoImplicit false

namespace Rollout

open Relation

namespace Resource

/-- One resource of a collection depends on another one of it. -/
def Needs (resources : List Resource) (a b : String) : Prop :=
  ∃ r ∈ resources, r.id = a ∧ b ∈ r.dependsOn ∧ b ∈ ids resources

/-- What a collection has to be like to have a graph. -/
structure Accepted (strict : Bool) (resources : List Resource) : Prop where
  nodup : (ids resources).Nodup
  present : strict = true → ∀ r ∈ resources, ∀ id ∈ r.dependsOn, id ∈ ids resources
  acyclic : ∀ id, ¬ TransGen (Needs resources) id id

theorem mem_ids {resources : List Resource} {id : String} :
    id ∈ ids resources ↔ ∃ r ∈ resources, r.id = id := List.mem_map

theorem mem_ids_of_mem {resources : List Resource} {r : Resource} (h : r ∈ resources) :
    r.id ∈ ids resources := List.mem_map_of_mem h

/-- Resources of a collection without repetition are told apart by their identifiers. -/
theorem eq_of_id_eq {resources : List Resource} (h : (ids resources).Nodup) {r s : Resource}
    (hr : r ∈ resources) (hs : s ∈ resources) (hid : r.id = s.id) : r = s :=
  List.inj_on_of_nodup_map h hr hs hid

theorem find_eq_some_iff {resources : List Resource} (h : (ids resources).Nodup) {id : String}
    {r : Resource} : find id resources = some r ↔ r ∈ resources ∧ r.id = id := by
  unfold find
  constructor
  · intro hf
    exact ⟨List.mem_of_find?_eq_some hf, by simpa using List.find?_some hf⟩
  · rintro ⟨hr, rfl⟩
    cases hf : resources.find? (fun s => s.id = r.id) with
    | none =>
      have := List.find?_eq_none.mp hf r hr
      simp at this
    | some s =>
      have hs := List.mem_of_find?_eq_some hf
      rw [eq_of_id_eq h hs hr (by simpa using List.find?_some hf)]

theorem find_eq_none_iff {resources : List Resource} {id : String} :
    find id resources = none ↔ id ∉ ids resources := by
  unfold find
  rw [List.find?_eq_none, mem_ids]
  simp

/-- Every resource that is needed, or needs another one, belongs to the collection. -/
theorem Needs.mem {resources : List Resource} {a b : String} (h : Needs resources a b) :
    a ∈ ids resources ∧ b ∈ ids resources := by
  obtain ⟨r, hr, rfl, _, hb⟩ := h
  exact ⟨mem_ids_of_mem hr, hb⟩

end Resource

namespace Graph

/-! ## What is refused -/

theorem repeated?_eq_none_iff : ∀ (rest seen : List String),
    repeated? seen rest = none ↔ rest.Nodup ∧ ∀ id ∈ rest, id ∉ seen
  | [], seen => by simp [repeated?]
  | id :: rest, seen => by
    rw [repeated?]
    by_cases h : id ∈ seen
    · simp [h]
    · simp only [List.contains_iff_mem, h, if_false, repeated?_eq_none_iff rest (id :: seen),
        List.nodup_cons, List.mem_cons, not_or, forall_eq_or_imp, not_false_iff, true_and]
      constructor
      · rintro ⟨hnd, hall⟩
        exact ⟨⟨fun hm => (hall id hm).1 rfl, hnd⟩, fun x hx => (hall x hx).2⟩
      · rintro ⟨⟨hm, hnd⟩, hall⟩
        exact ⟨hnd, fun x hx => ⟨fun he => hm (he ▸ hx), hall x hx⟩⟩

theorem dangling?_eq_none_iff (ids : List String) (resources : List Resource) :
    dangling? ids resources = none ↔ ∀ r ∈ resources, ∀ id ∈ r.dependsOn, id ∈ ids := by
  unfold dangling?
  rw [List.findSome?_eq_none_iff]
  simp

/-! ## Positions -/

theorem position?_eq_some_iff {ids : List String} (h : ids.Nodup) {id : String} {i : Nat} :
    position? ids id = some i ↔ ids[i]? = some id := by
  unfold position?
  rw [List.findIdx?_eq_some_iff_getElem]
  constructor
  · rintro ⟨hi, heq, _⟩
    rw [List.getElem?_eq_getElem hi]
    simpa using heq
  · intro hi
    obtain ⟨hlt, heq⟩ := List.getElem?_eq_some_iff.mp hi
    refine ⟨hlt, by simpa using heq, fun j hj => ?_⟩
    have hne : ids[j] ≠ id := by
      intro hj'
      have := (List.Nodup.getElem_inj_iff h).mp (hj'.trans heq.symm)
      omega
    simpa using hne

/-- The identifier at a position. -/
theorem getElem?_of_getD {ids : List String} {i : Nat} (hi : i < ids.length) :
    ids[i]? = some (ids.getD i "") := by
  rw [List.getD_eq_getElem?_getD, List.getElem?_eq_getElem hi, Option.getD_some]

/-- The identifiers of the resources at some positions. -/
theorem ids_filterMap_getElem? {resources : List Resource} : ∀ positions : List Nat,
    (∀ i ∈ positions, i < resources.length) →
      Resource.ids (positions.filterMap fun i => resources[i]?) =
        positions.map fun i => (Resource.ids resources).getD i ""
  | [], _ => rfl
  | i :: positions, h => by
    have hi := h i (by simp)
    have hget : resources[i]? = some resources[i] := List.getElem?_eq_getElem hi
    rw [List.filterMap_cons, hget, List.map_cons,
      ← ids_filterMap_getElem? positions fun j hj => h j (List.mem_cons_of_mem _ hj)]
    have hid : (Resource.ids resources).getD i "" = resources[i].id := by
      rw [List.getD_eq_getElem?_getD, Resource.ids, List.getElem?_map, hget]
      rfl
    rw [hid]
    rfl

/-- The positions of a collection depend on each other as its resources do. -/
theorem edge_iff {resources : List Resource} (h : (Resource.ids resources).Nodup) {i j : Nat} :
    Walk.Edge (entry (resources.map (needs (Resource.ids resources)))) i j ↔
      ∃ a b, (Resource.ids resources)[i]? = some a ∧ (Resource.ids resources)[j]? = some b ∧
        Resource.Needs resources a b := by
  have hids : ∀ k : Nat, (Resource.ids resources)[k]? = (resources[k]?).map Resource.id := by
    intro k; simp [Resource.ids]
  unfold Walk.Edge entry
  rw [List.getD_eq_getElem?_getD, List.getElem?_map]
  cases hi : resources[i]? with
  | none => simp [hids, hi]
  | some r =>
    have hr : r ∈ resources := List.mem_of_getElem? hi
    simp only [Option.map_some, Option.getD_some, needs, List.mem_eraseDups, List.mem_filterMap,
      position?_eq_some_iff h]
    constructor
    · rintro ⟨b, hb, hj⟩
      exact ⟨r.id, b, by rw [hids, hi]; rfl, hj, r, hr, rfl, hb, List.mem_of_getElem? hj⟩
    · rintro ⟨a, b, ha, hj, s, hs, rfl, hb, _⟩
      rw [hids, hi, Option.map_some, Option.some.injEq] at ha
      rw [← Resource.eq_of_id_eq h hr hs ha] at hb
      exact ⟨b, hb, hj⟩

theorem edge_below {resources : List Resource} (h : (Resource.ids resources).Nodup) (i : Nat) :
    ∀ j ∈ entry (resources.map (needs (Resource.ids resources))) i,
      i < resources.length ∧ j < resources.length := by
  intro j hj
  obtain ⟨a, b, ha, hb, _⟩ := (edge_iff h).mp hj
  have hlen : (Resource.ids resources).length = resources.length := by simp [Resource.ids]
  exact ⟨hlen ▸ (List.getElem?_eq_some_iff.mp ha).1, hlen ▸ (List.getElem?_eq_some_iff.mp hb).1⟩

/-- No position leads to itself exactly when no resource does. -/
theorem acyclic_iff {resources : List Resource} (h : (Resource.ids resources).Nodup) :
    Walk.Acyclic (entry (resources.map (needs (Resource.ids resources)))) ↔
      ∀ id, ¬ TransGen (Resource.Needs resources) id id := by
  constructor
  · intro hacyc id hid
    have hlead : ∀ a b, TransGen (Resource.Needs resources) a b → ∀ i,
        (Resource.ids resources)[i]? = some a → ∃ j, (Resource.ids resources)[j]? = some b ∧
          TransGen (Walk.Edge (entry (resources.map (needs (Resource.ids resources))))) i j := by
      intro a b hab
      induction hab with
      | single e =>
        intro i hi
        obtain ⟨j, hj⟩ := List.mem_iff_getElem?.mp e.mem.2
        exact ⟨j, hj, .single ((edge_iff h).mpr ⟨_, _, hi, hj, e⟩)⟩
      | tail _ e ih =>
        intro i hi
        obtain ⟨k, hk, hik⟩ := ih i hi
        obtain ⟨j, hj⟩ := List.mem_iff_getElem?.mp e.mem.2
        exact ⟨j, hj, hik.tail ((edge_iff h).mpr ⟨_, _, hk, hj, e⟩)⟩
    obtain ⟨b, e, _⟩ := TransGen.head'_iff.mp hid
    obtain ⟨i, hi⟩ := List.mem_iff_getElem?.mp e.mem.1
    obtain ⟨j, hj, hij⟩ := hlead id id hid i hi
    have : i = j := by
      obtain ⟨hi', hie⟩ := List.getElem?_eq_some_iff.mp hi
      obtain ⟨hj', hje⟩ := List.getElem?_eq_some_iff.mp hj
      exact (List.Nodup.getElem_inj_iff h).mp (hie.trans hje.symm)
    exact hacyc i (this ▸ hij)
  · intro hacyc i hi
    have hlead : ∀ j, TransGen (Walk.Edge (entry (resources.map (needs (Resource.ids resources)))))
        i j → ∃ a b, (Resource.ids resources)[i]? = some a ∧ (Resource.ids resources)[j]? = some b ∧
          TransGen (Resource.Needs resources) a b := by
      intro j hij
      induction hij with
      | single e =>
        obtain ⟨a, b, ha, hb, hab⟩ := (edge_iff h).mp e
        exact ⟨a, b, ha, hb, .single hab⟩
      | tail _ e ih =>
        obtain ⟨a, b, ha, hb, hab⟩ := ih
        obtain ⟨b', c, hb', hc, hbc⟩ := (edge_iff h).mp e
        rw [hb, Option.some.injEq] at hb'
        exact ⟨a, c, ha, hc, hab.tail (hb' ▸ hbc)⟩
    obtain ⟨a, b, ha, hb, hab⟩ := hlead i hi
    rw [ha, Option.some.injEq] at hb
    exact hacyc a (hb ▸ hab)

/-! ## Building -/

/-- What has been checked of a collection that has a graph, and what its graph holds. -/
theorem build_inv {strict : Bool} {resources : List Resource} {g : Graph}
    (h : build strict resources = .ok g) :
    repeated? [] (Resource.ids resources) = none ∧
      (if strict then dangling? (Resource.ids resources) resources else none) = none ∧
      findCycle (entry (resources.map (needs (Resource.ids resources)))) resources.length = none ∧
      g.resources = resources ∧ g.dependencies = resources.map (needs (Resource.ids resources)) := by
  unfold build at h
  cases hrep : repeated? [] (Resource.ids resources) with
  | some id => simp only [hrep] at h; cases h
  | none =>
    cases hdang : (if strict then dangling? (Resource.ids resources) resources else none) with
    | some missing => simp only [hrep, hdang] at h; cases h
    | none =>
      cases hcyc : findCycle (entry (resources.map (needs (Resource.ids resources))))
          resources.length with
      | some cycle => simp only [hrep, hdang, hcyc] at h; cases h
      | none =>
        simp only [hrep, hdang, hcyc] at h
        cases h
        exact ⟨rfl, rfl, rfl, rfl, rfl⟩

/-- **A collection has a graph exactly when it is accepted.** -/
theorem build_isOk_iff (strict : Bool) (resources : List Resource) :
    (∃ g, build strict resources = .ok g) ↔ Resource.Accepted strict resources := by
  constructor
  · rintro ⟨g, hg⟩
    obtain ⟨hrep, hdang, hcyc, _⟩ := build_inv hg
    obtain ⟨hnd, _⟩ := (repeated?_eq_none_iff _ _).mp hrep
    refine ⟨hnd, ?_, ?_⟩
    · rintro rfl
      exact (dangling?_eq_none_iff _ _).mp (by simpa using hdang)
    · exact (acyclic_iff hnd).mp ((findCycle_eq_none_iff (edge_below hnd)).mp hcyc)
  · rintro ⟨hnd, hpresent, hacyc⟩
    have hrep : repeated? [] (Resource.ids resources) = none :=
      (repeated?_eq_none_iff _ _).mpr ⟨hnd, by simp⟩
    have hdang : (if strict then dangling? (Resource.ids resources) resources else none) = none := by
      cases strict with
      | false => rfl
      | true => exact (dangling?_eq_none_iff _ _).mpr (hpresent rfl)
    have hcyc := (findCycle_eq_none_iff (edge_below hnd)).mpr ((acyclic_iff hnd).mpr hacyc)
    unfold build
    simp only [hrep, hdang, hcyc]
    exact ⟨_, rfl⟩

theorem Accepted.of_build {strict : Bool} {resources : List Resource} {g : Graph}
    (h : build strict resources = .ok g) : Resource.Accepted strict resources :=
  (build_isOk_iff strict resources).mp ⟨g, h⟩

/-! ## The apply order -/

theorem filterMap_getElem?_range {α : Type} (l : List α) :
    (List.range l.length).filterMap (fun i => l[i]?) = l := by
  induction l with
  | nil => rfl
  | cons a l ih =>
    rw [List.length_cons, List.range_succ_eq_map, List.filterMap_cons]
    simp only [List.getElem?_cons_zero, List.filterMap_map]
    congr 1

/-- The positions of a graph's collection in apply order. -/
theorem orders_placed {strict : Bool} {resources : List Resource} {g : Graph}
    (h : build strict resources = .ok g) :
    Orders (entry g.dependencies) g.size (arrange (entry g.dependencies) g.size).placed := by
  obtain ⟨_, _, _, _, hdeps⟩ := build_inv h
  have hacc := Accepted.of_build h
  refine arrange_orders (arrange_stuck_eq_nil ?_)
  rw [hdeps]
  exact (acyclic_iff hacc.nodup).mpr hacc.acyclic

/-- **The apply order holds every resource once.** -/
theorem ordered_perm {strict : Bool} {resources : List Resource} {g : Graph}
    (h : build strict resources = .ok g) : g.ordered.Perm resources := by
  have hperm := (orders_placed h).perm.filterMap fun i => g.resources[i]?
  rw [size, filterMap_getElem?_range] at hperm
  rw [← (build_inv h).2.2.2.1]
  exact hperm

theorem mem_ordered {strict : Bool} {resources : List Resource} {g : Graph}
    (h : build strict resources = .ok g) {r : Resource} : r ∈ g.ordered ↔ r ∈ resources :=
  (ordered_perm h).mem_iff

end Graph

end Rollout
