import Rollout.Proofs.Graph.Build
import Rollout.Proofs.Plan.Changes
import Rollout.Proofs.Plan.Difference
import Rollout.Proofs.Value.Reordered

/-!
# Plans of relisted collections

A collection may list its resources in another order, each with its needs in another order and its
attributes with their keys in another order.

* `Resource.Relists` : a collection that is another one, relisted;
* `Graph.build_relists` : both have a graph, or both are refused for a reason of the same kind;
* `Plan.changesFor_between` : what is planned for an identifier, told from what it names on both
  sides;
* `Plan.compute_relists` : relisting changes no verdict of a plan.
-/

set_option autoImplicit false

namespace Rollout

open Relation

namespace Resource

/-- A resource again, with its needs in any order, and the keys of its attributes in any order at any
depth. -/
structure Relisted (r s : Resource) : Prop where
  id : r.id = s.id
  backend : r.backend = s.backend
  attributes : (Value.object r.attributes).Reordered (.object s.attributes)
  dependsOn : r.dependsOn.Perm s.dependsOn

/-- A collection again: its resources, relisted, in any order. -/
def Relists (l r : List Resource) : Prop := ∃ m, List.Forall₂ Relisted l m ∧ m.Perm r

theorem Relisted.symm {r s : Resource} (h : Relisted r s) : Relisted s r :=
  ⟨h.id.symm, h.backend.symm, h.attributes.symm, h.dependsOn.symm⟩

theorem exists_relisted {a : Resource} : ∀ {l m : List Resource}, List.Forall₂ Relisted l m →
    a ∈ l → ∃ b ∈ m, Relisted a b
  | _, _, .cons (b := b) hab hrest, ha => by
    rcases List.mem_cons.mp ha with rfl | ha
    · exact ⟨b, List.mem_cons_self, hab⟩
    · obtain ⟨c, hc, hac⟩ := exists_relisted hrest ha
      exact ⟨c, List.mem_cons_of_mem _ hc, hac⟩

namespace Relists

variable {l r : List Resource}

theorem symm (h : Relists l r) : Relists r l := by
  obtain ⟨m, hrelisted, hperm⟩ := h
  have hback : List.Forall₂ Relisted m l := hrelisted.flip.imp fun _ _ => Relisted.symm
  exact List.perm_comp_forall₂ hperm.symm hback

theorem exists_of_mem (h : Relists l r) {a : Resource} (ha : a ∈ l) : ∃ b ∈ r, Relisted a b := by
  obtain ⟨m, hrelisted, hperm⟩ := h
  obtain ⟨b, hb, hab⟩ := exists_relisted hrelisted ha
  exact ⟨b, hperm.mem_iff.mp hb, hab⟩

theorem ids_perm (h : Relists l r) : (ids l).Perm (ids r) := by
  obtain ⟨m, hrelisted, hperm⟩ := h
  have heq : ids l = ids m := by
    rw [ids, ids, ← List.forall₂_eq_eq_eq, List.forall₂_map_left_iff, List.forall₂_map_right_iff]
    exact hrelisted.imp fun _ _ => Relisted.id
  rw [heq]
  exact hperm.map Resource.id

theorem nodup_iff (h : Relists l r) : (ids l).Nodup ↔ (ids r).Nodup := h.ids_perm.nodup_iff

theorem closed (h : Relists l r) (hclosed : Closed l) : Closed r := by
  intro b hb need hneed
  obtain ⟨a, ha, hba⟩ := h.symm.exists_of_mem hb
  exact h.ids_perm.mem_iff.mp (hclosed a ha need (hba.dependsOn.mem_iff.mp hneed))

theorem needs (h : Relists l r) {id need : String} (hneeds : Needs l id need) :
    Needs r id need := by
  obtain ⟨a, ha, rfl, hneed, hmem⟩ := hneeds
  obtain ⟨b, hb, hab⟩ := h.exists_of_mem ha
  exact ⟨b, hb, hab.id.symm, hab.dependsOn.mem_iff.mp hneed, h.ids_perm.mem_iff.mp hmem⟩

/-- Under an identifier stand the same resources, relisted. -/
theorem find (h : Relists l r) (hnodup : (ids l).Nodup) (id : String) :
    Option.Rel Relisted (Resource.find id l) (Resource.find id r) := by
  cases hl : Resource.find id l with
  | none =>
    rw [find_eq_none_iff.mpr (mt h.ids_perm.mem_iff.mpr (find_eq_none_iff.mp hl))]
    exact .none
  | some a =>
    obtain ⟨ha, hid⟩ := (find_eq_some_iff hnodup).mp hl
    obtain ⟨b, hb, hab⟩ := h.exists_of_mem ha
    rw [(find_eq_some_iff (h.nodup_iff.mp hnodup)).mpr ⟨hb, hab.id.symm.trans hid⟩]
    exact .some hab

end Relists

/-- Where no two resources have one identifier, the resources with an identifier are the one that is
found. -/
theorem filter_id_eq {id : String} : ∀ {resources : List Resource}, (ids resources).Nodup →
    (resources.filter fun r => r.id = id) = (find id resources).toList
  | [], _ => rfl
  | r :: rest, h => by
    obtain ⟨hr, hrest⟩ := List.nodup_cons.mp h
    by_cases hid : r.id = id
    · have hfind : find id (r :: rest) = some r := List.find?_cons_of_pos (by simpa using hid)
      have hnone : find id rest = none := find_eq_none_iff.mpr (hid ▸ hr)
      rw [List.filter_cons_of_pos (by simpa using hid), filter_id_eq hrest, hfind, hnone]
      rfl
    · have hfind : find id (r :: rest) = find id rest := List.find?_cons_of_neg (by simpa using hid)
      rw [List.filter_cons_of_neg (by simpa using hid), filter_id_eq hrest, hfind]

theorem find_perm {l r : List Resource} (h : l.Perm r) (hnodup : (ids l).Nodup) (id : String) :
    find id l = find id r := by
  have hr : (ids r).Nodup := (h.map Resource.id).nodup_iff.mp hnodup
  ext a
  rw [find_eq_some_iff hnodup, find_eq_some_iff hr, h.mem_iff]

end Resource

/-! ## Graphs -/

/-- **A relisted collection has a graph too**, or is refused for a reason of the same kind. -/
theorem Graph.build_relists {l r : List Resource} (strict : Bool) (h : Resource.Relists l r) :
    (∃ g g', build strict l = .ok g ∧ build strict r = .ok g') ∨
      ∃ e e', build strict l = .error e ∧ build strict r = .error e' ∧
        (Failure.graph e).kind = (Failure.graph e').kind := by
  rcases build_cases strict l with ⟨id, hb, hrep⟩ | ⟨hnd, hstrict, id, missing, hb, hmiss⟩ |
    ⟨hnd, hclosed, cycle, hb, hcircle⟩ | ⟨hacc, g, hb, _⟩
  · obtain ⟨id', hb'⟩ := exists_duplicate_iff.mpr (mt h.nodup_iff.mpr hrep.not_nodup)
    exact .inr ⟨_, _, hb, hb', rfl⟩
  · obtain ⟨id', missing', hb'⟩ := exists_dangling_iff.mpr
      ⟨h.nodup_iff.mp hnd, hstrict, mt h.symm.closed hmiss.not_closed⟩
    exact .inr ⟨_, _, hb, hb', rfl⟩
  · obtain ⟨id, hid⟩ := hcircle.transGen
    obtain ⟨cycle', hb'⟩ := exists_cycle_iff.mpr ⟨h.nodup_iff.mp hnd,
      fun hstrict => h.closed (hclosed hstrict), id,
      TransGen.mono (fun _ _ => h.needs) _ _ hid⟩
    exact .inr ⟨_, _, hb, hb', rfl⟩
  · obtain ⟨g', hb'⟩ := (build_isOk_iff strict r).mpr ⟨h.nodup_iff.mp hacc.nodup,
      fun hstrict => h.closed (hacc.present hstrict),
      fun id hid => hacc.acyclic id (TransGen.mono (fun _ _ => h.symm.needs) _ _ hid)⟩
    exact .inl ⟨g, g', hb, hb'⟩

/-! ## Plans -/

/-- What is to be done, and whether it is half of a replacement. -/
def Change.verdict (c : Change) : Action × Bool := (c.action, c.replacement)

namespace Plan

open Resource

section

variable {desired desired' last last' : List Resource} {wanted wanted' recorded recorded' : Graph}

/-- Changes that are named after what they were made for, of one name. -/
theorem filter_filterMap_id {f : Resource → Option Change}
    (hf : ∀ r c, f r = some c → c.id = r.id) (id : String) : ∀ resources : List Resource,
    (resources.filterMap f).filter (fun c => c.id = id) =
      (resources.filter fun r => r.id = id).filterMap f
  | [] => rfl
  | r :: rest => by
    have ih := filter_filterMap_id hf id rest
    cases hr : f r with
    | none => by_cases hid : r.id = id <;> simp [hr, hid, ih]
    | some c => by_cases hid : r.id = id <;> simp [hr, hf r c hr, hid, ih]

/-- **What is planned for an identifier**: the delete of what it names among the recorded resources, if
that is not kept, and then what becomes of what it names among the desired ones. -/
theorem changesFor_between (hwanted : Graph.build true desired = .ok wanted)
    (hrecorded : Graph.build false last = .ok recorded) (id : String) :
    (between wanted recorded).changesFor id =
      ((Resource.find id last).bind (deleteOf wanted)).toList ++
        ((Resource.find id desired).map (applyOf recorded)).toList := by
  have hdesired := (Graph.Accepted.of_build hwanted).nodup
  have hlast := (Graph.Accepted.of_build hrecorded).nodup
  have hdestroyed : last.Perm recorded.destroyOrdered :=
    ((List.reverse_perm _).trans (Graph.ordered_perm hrecorded)).symm
  have hordered : desired.Perm wanted.ordered := (Graph.ordered_perm hwanted).symm
  have hdeletes : (recorded.destroyOrdered.filterMap (deleteOf wanted)).filter (fun c => c.id = id) =
      ((Resource.find id last).bind (deleteOf wanted)).toList := by
    rw [filter_filterMap_id fun r c hc => congrArg Prod.snd (key_of_deleteOf hc),
      filter_id_eq ((hdestroyed.map Resource.id).nodup_iff.mp hlast), ← find_perm hdestroyed hlast]
    cases Resource.find id last with
    | none => rfl
    | some r => cases hr : deleteOf wanted r <;> simp [hr]
  have happlies : (wanted.ordered.map (applyOf recorded)).filter (fun c => c.id = id) =
      ((Resource.find id desired).map (applyOf recorded)).toList := by
    have hnames : (fun c : Change => decide (c.id = id)) ∘ applyOf recorded =
        fun d : Resource => decide (d.id = id) := funext fun d => by simp [applyOf_id]
    rw [List.filter_map, hnames, filter_id_eq ((hordered.map Resource.id).nodup_iff.mp hdesired),
      ← find_perm hordered hdesired]
    cases Resource.find id desired <;> rfl
  rw [changesFor, between, List.filter_append, hdeletes, happlies]

/-! ## Relisting -/

/-- Whether a delete is planned depends on nothing that relisting changes. -/
theorem deleteOf_relisted {r r' : Resource} (hr : Relisted r r')
    (hfind : Option.Rel Relisted (wanted.find r.id) (wanted'.find r'.id)) :
    (deleteOf wanted r).map Change.verdict = (deleteOf wanted' r').map Change.verdict := by
  unfold deleteOf
  generalize wanted.find r.id = found at hfind
  generalize wanted'.find r'.id = found' at hfind
  cases hfind with
  | none => rfl
  | some hd =>
    simp only [hd.backend, hr.backend]
    split <;> rfl

/-- Nor does what becomes of a desired resource. -/
theorem applyOf_relisted {d d' : Resource} (hd : Relisted d d')
    (hdistinct : (Value.object d.attributes).Distinct)
    (hfind : Option.Rel Relisted (recorded.find d.id) (recorded'.find d'.id)) :
    (applyOf recorded d).verdict = (applyOf recorded' d').verdict := by
  unfold applyOf
  generalize recorded.find d.id = found at hfind
  generalize recorded'.find d'.id = found' at hfind
  cases hfind with
  | none => rfl
  | @some r r' hr =>
    have hsame := hr.attributes.same_eq hd.attributes hdistinct
    have hempty : (Rollout.differences "" r.attributes d.attributes).isEmpty =
        (Rollout.differences "" r'.attributes d'.attributes).isEmpty := by
      rw [Bool.eq_iff_iff, List.isEmpty_iff, List.isEmpty_iff, differences_eq_nil_iff,
        differences_eq_nil_iff, hsame]
    simp only [hr.backend, hd.backend, hempty]
    split
    · simp only [Change.verdict, Change.action]
      split <;> rfl
    · rfl

/-- What is planned for an identifier has the same verdicts after relisting. -/
theorem changesFor_relists (hd : Relists desired desired') (hl : Relists last last')
    (hdistinct : ∀ d ∈ desired, (Value.object d.attributes).Distinct)
    (hwanted : Graph.build true desired = .ok wanted)
    (hwanted' : Graph.build true desired' = .ok wanted')
    (hrecorded : Graph.build false last = .ok recorded)
    (hrecorded' : Graph.build false last' = .ok recorded') (id : String) :
    ((between wanted recorded).changesFor id).map Change.verdict =
      ((between wanted' recorded').changesFor id).map Change.verdict := by
  have hdesired := (Graph.Accepted.of_build hwanted).nodup
  have hlast := (Graph.Accepted.of_build hrecorded).nodup
  have hwantedFind : ∀ key, Option.Rel Relisted (wanted.find key) (wanted'.find key) := by
    intro key
    rw [Graph.find, Graph.find, (Graph.build_inv hwanted).2.2.2.1,
      (Graph.build_inv hwanted').2.2.2.1]
    exact hd.find hdesired key
  have hrecordedFind : ∀ key, Option.Rel Relisted (recorded.find key) (recorded'.find key) := by
    intro key
    rw [Graph.find, Graph.find, (Graph.build_inv hrecorded).2.2.2.1,
      (Graph.build_inv hrecorded').2.2.2.1]
    exact hl.find hlast key
  have hdeletes : ((Resource.find id last).bind (deleteOf wanted)).map Change.verdict =
      ((Resource.find id last').bind (deleteOf wanted')).map Change.verdict := by
    have hfind := hl.find hlast id
    generalize Resource.find id last = found at hfind
    generalize Resource.find id last' = found' at hfind
    cases hfind with
    | none => rfl
    | @some r r' hr => exact deleteOf_relisted hr (hr.id ▸ hwantedFind r.id)
  have happlies : ((Resource.find id desired).map (applyOf recorded)).map Change.verdict =
      ((Resource.find id desired').map (applyOf recorded')).map Change.verdict := by
    have hfound : ∀ d ∈ Resource.find id desired, (Value.object d.attributes).Distinct :=
      fun d hmem => hdistinct d ((find_eq_some_iff hdesired).mp hmem).1
    have hfind := hd.find hdesired id
    generalize Resource.find id desired = found at hfind hfound
    generalize Resource.find id desired' = found' at hfind
    cases hfind with
    | none => rfl
    | @some d d' hr =>
      exact congrArg some (applyOf_relisted hr (hfound d rfl) (hr.id ▸ hrecordedFind d.id))
  rw [changesFor_between hwanted hrecorded, changesFor_between hwanted' hrecorded',
    List.map_append, List.map_append, ← Option.toList_map, ← Option.toList_map,
    ← Option.toList_map, ← Option.toList_map, hdeletes, happlies]

/-- Two answers that do the same to every resource: both are plans with the same verdicts for each
identifier, or both are refused for a reason of the same kind. -/
inductive Agree : Except Failure Plan → Except Failure Plan → Prop
  | planned {p q : Plan} (verdicts : ∀ id, (p.changesFor id).map Change.verdict =
      (q.changesFor id).map Change.verdict) : Agree (.ok p) (.ok q)
  | refused {e f : Failure} (kind : e.kind = f.kind) : Agree (.error e) (.error f)

theorem any_id_eq_iff {p : Plan} {id : String} :
    (p.changes.any fun c => c.id = id) = true ↔ p.changesFor id ≠ [] := by
  rw [changesFor, Ne, List.filter_eq_nil_iff, List.any_eq_true]
  simp

/-- **Relisting changes no verdict.**  However the desired and the recorded resources, what they need
and the keys of their attributes are listed, a plan does the same to every resource, or is refused for
a reason of the same kind. -/
theorem compute_relists (hd : Relists desired desired') (hl : Relists last last')
    (hdistinct : ∀ d ∈ desired, (Value.object d.attributes).Distinct) :
    Agree (compute desired last) (compute desired' last') := by
  unfold compute
  rcases Graph.build_relists true hd with ⟨wanted, wanted', hwanted, hwanted'⟩ |
    ⟨e, e', he, he', hkind⟩
  · rcases Graph.build_relists false hl with ⟨recorded, recorded', hrecorded, hrecorded'⟩ |
      ⟨e, e', he, he', hkind⟩
    · have hverdicts := changesFor_relists hd hl hdistinct hwanted hwanted' hrecorded hrecorded'
      have hempty : ((between wanted recorded).changes.any fun c => c.id = "") =
          (between wanted' recorded').changes.any fun c => c.id = "" := by
        have hlength := congrArg List.length (hverdicts "")
        rw [List.length_map, List.length_map] at hlength
        rw [Bool.eq_iff_iff, any_id_eq_iff, any_id_eq_iff, Ne, Ne, ← List.length_eq_zero_iff,
          ← List.length_eq_zero_iff, hlength]
      simp only [hwanted, hwanted', hrecorded, hrecorded', hempty]
      split
      · exact .refused rfl
      · exact .planned hverdicts
    · simp only [hwanted, hwanted', he, he']
      exact .refused hkind
  · simp only [he, he']
    exact .refused hkind

end

/-! ## A shuffled stack

The service is scaled and needs a database and a network; the database moves to another backend, and
the cache that needs it goes. -/

namespace Shuffled

def desired : List Resource :=
  [⟨"service", .kubernetes, [("spec", .object [("image", .str "web"), ("replicas", .int 2)])],
      ["database", "network"], []⟩,
    ⟨"database", .terraform, [], [], []⟩, ⟨"network", .kubernetes, [], [], []⟩]

/-- The desired resources in another order, and with them the needs of the service and its keys. -/
def desired' : List Resource :=
  [⟨"network", .kubernetes, [], [], []⟩,
    ⟨"service", .kubernetes, [("spec", .object [("replicas", .int 2), ("image", .str "web")])],
      ["network", "database"], []⟩,
    ⟨"database", .terraform, [], [], []⟩]

def last : List Resource :=
  [⟨"database", .kubernetes, [], [], []⟩, ⟨"cache", .kubernetes, [], ["database"], []⟩,
    ⟨"service", .kubernetes, [("spec", .object [("replicas", .int 1), ("image", .str "web")])],
      ["cache"], []⟩]

theorem relists_desired : Relists desired desired' := by
  refine ⟨[desired'[1], desired'[2], desired'[0]], ?_, by decide⟩
  refine .cons ⟨rfl, rfl, ?_, by decide⟩ (.cons ⟨rfl, rfl, .refl _, .refl _⟩
    (.cons ⟨rfl, rfl, .refl _, .refl _⟩ .nil))
  exact .object (.cons "spec" (.object (.cons "image" (.refl _) (.cons "replicas" (.refl _) .nil))
    (.swap _ _ _)) .nil) (.refl _)

theorem relists_last : Relists last last.reverse :=
  ⟨last, List.forall₂_same.mpr fun _ _ => ⟨rfl, rfl, .refl _, .refl _⟩,
    (List.reverse_perm last).symm⟩

theorem distinct_desired : ∀ d ∈ desired, (Value.object d.attributes).Distinct := by
  simp [desired, Value.Distinct, Value.DistinctFields]

end Shuffled

/-- The service is updated, the database replaced, the network created and the cache deleted. -/
theorem compute_relists_shuffled :
    Relists Shuffled.desired Shuffled.desired' ∧ Relists Shuffled.last Shuffled.last.reverse ∧
      (∀ d ∈ Shuffled.desired, (Value.object d.attributes).Distinct) ∧
      Agree (compute Shuffled.desired Shuffled.last)
        (compute Shuffled.desired' Shuffled.last.reverse) ∧
      (compute Shuffled.desired' Shuffled.last.reverse).toOption.map
          (fun p => ["service", "database", "network", "cache"].map fun id =>
            (p.changesFor id).map Change.verdict) =
        some [[(.update, false)], [(.delete, true), (.create, true)], [(.create, false)],
          [(.delete, false)]] :=
  ⟨Shuffled.relists_desired, Shuffled.relists_last, Shuffled.distinct_desired,
    compute_relists Shuffled.relists_desired Shuffled.relists_last Shuffled.distinct_desired, by decide⟩

end Plan

end Rollout
