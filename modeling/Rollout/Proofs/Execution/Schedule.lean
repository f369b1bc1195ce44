import Rollout.Execution.Schedule
import Rollout.Proofs.Execution.State
import Rollout.Proofs.Graph.Order

/-!
# What a schedule holds

An action waits for the actions that stand for the resources it is about.  In the plans that are
computed every action stands for its resource; in other plans one may be overruled by a later one.

* `Plan.Waits` : which action of a plan waits for which;
* `Schedule.Lawful` : the actions can be done in the order of the schedule, each after all it waits
  for;
* `Schedule.lawful_of` : so it is for every schedule of a plan;
* `Schedule.mem_waits_iff`, `Schedule.edge_eq` : its actions wait for each other as those of the plan;
* `Plan.Single.waits_iff` : what that means where a resource has one action of a kind;
* `Schedule.exists_iff` : a plan has a schedule unless some action of it waits for itself.
-/

set_option autoImplicit false

namespace Rollout

open Relation

namespace Change

/-- Whether a recorded version of the resource that `d` changes depends on a resource. -/
def recordedNeeds (baseline : List Resource) (d : Change) (id : String) : Bool :=
  baseline.any fun r => r.id = d.id && r.dependsOn.contains id

/-- Whether there is a reason for the action `c` to wait for the action `d`. -/
def waitsFor (baseline : List Resource) (c d : Change) : Bool :=
  match c.sides, d.sides with
  | .delete _, .delete _ => recordedNeeds baseline d c.id
  | .delete _, .update _ desired => recordedNeeds baseline d c.id && !desired.dependsOn.contains c.id
  | .delete _, _ => false
  | _, .delete _ => c.replacement && d.id = c.id
  | .create desired, _ | .update _ desired, _ | .noChange _ desired, _ =>
    desired.dependsOn.contains d.id

end Change

namespace Plan

/-- The action at a position is the one that others wait for: the last one on its resource that
deletes it, or the last one that does not. -/
def Stands (actions : List Change) (j : Nat) (d : Change) : Prop :=
  actions[j]? = some d ∧ ∀ k e, actions[k]? = some e → e.key = d.key → k ≤ j

/-- The action at a position waits for the one at another position.  A delete waits for an update
only where its resource is not deleted as well. -/
def WaitsIn (baseline : List Resource) (actions : List Change) (c : Change) (j : Nat) : Prop :=
  ∃ d, Stands actions j d ∧ c.waitsFor baseline d = true ∧
    (c.action = .delete → d.action ≠ .delete → (true, d.id) ∉ actions.map Change.key)

/-- The action at a position of a plan waits for the one at another position. -/
def Waits (p : Plan) (baseline : List Resource) (i j : Nat) : Prop :=
  ∃ c, p.actions[i]? = some c ∧ WaitsIn baseline p.actions c j

/-- No resource has two actions of one kind, or is updated and deleted at once. -/
structure Single (p : Plan) : Prop where
  nodup : (p.actions.map Change.key).Nodup
  kept : ∀ c ∈ p.actions, c.action = .update → (true, c.id) ∉ p.actions.map Change.key

end Plan

namespace Schedule

/-- The order of a schedule holds every action behind all it waits for, and actions wait for actions
only. -/
structure Lawful (s : Schedule) : Prop where
  orders : Orders s.waits s.size s.order
  below : ∀ i, ∀ j ∈ s.waits i, i < s.size ∧ j < s.size

variable {plan : Plan} {baseline : List Resource} {actions : List Change} {c d : Change} {s : Schedule}
  {id : String} {j : Nat}

/-! ## Looking actions up -/

theorem find?_reverse_range {q : Nat → Bool} : ∀ {n : Nat},
    (List.range n).reverse.find? q = some j ↔ j < n ∧ q j = true ∧ ∀ k < n, q k = true → k ≤ j
  | 0 => by simp
  | n + 1 => by
    rw [List.range_succ, List.reverse_append, List.reverse_singleton, List.singleton_append,
      List.find?_cons]
    cases hn : q n with
    | true =>
      simp only [Option.some.injEq]
      constructor
      · rintro rfl
        exact ⟨Nat.lt_succ_self _, hn, fun k hk _ => Nat.le_of_lt_succ hk⟩
      · rintro ⟨hlt, _, hlast⟩
        exact Nat.le_antisymm (hlast n (Nat.lt_succ_self _) hn) (Nat.le_of_lt_succ hlt)
    | false =>
      simp only [find?_reverse_range]
      have hne : ∀ {k}, q k = true → k ≠ n := fun h he => by simp [he, hn] at h
      constructor
      · rintro ⟨hlt, hq, hlast⟩
        exact ⟨hlt.trans (Nat.lt_succ_self _), hq, fun k hk h =>
          hlast k (Nat.lt_of_le_of_ne (Nat.le_of_lt_succ hk) (hne h)) h⟩
      · rintro ⟨hlt, hq, hlast⟩
        exact ⟨Nat.lt_of_le_of_ne (Nat.le_of_lt_succ hlt) (hne hq), hq, fun k hk h =>
          hlast k (hk.trans (Nat.lt_succ_self _)) h⟩

theorem lastAt?_eq_some_iff {p : Change → Bool} :
    lastAt? p actions = some j ↔
      (∃ d, actions[j]? = some d ∧ p d = true) ∧
        ∀ k e, actions[k]? = some e → p e = true → k ≤ j := by
  rw [lastAt?, find?_reverse_range]
  simp only [Option.any_eq_true]
  constructor
  · rintro ⟨_, ⟨d, hd, hp⟩, hlast⟩
    refine ⟨⟨d, hd, hp⟩, fun k e he hpe => hlast k ?_ ⟨e, he, hpe⟩⟩
    exact (List.getElem?_eq_some_iff.mp he).1
  · rintro ⟨⟨d, hd, hp⟩, hlast⟩
    exact ⟨(List.getElem?_eq_some_iff.mp hd).1, ⟨d, hd, hp⟩, fun k _ ⟨e, he, hpe⟩ => hlast k e he hpe⟩

theorem lastAt?_eq_none_iff {p : Change → Bool} :
    lastAt? p actions = none ↔ ∀ d ∈ actions, p d = false := by
  rw [lastAt?, List.find?_eq_none]
  constructor
  · intro h d hd
    obtain ⟨k, hk⟩ := List.mem_iff_getElem?.mp hd
    have := h k (by simpa using (List.getElem?_eq_some_iff.mp hk).1)
    simpa [hk] using this
  · intro h k _
    cases hk : actions[k]? with
    | none => simp
    | some d => simp [h d (List.mem_of_getElem? hk)]

/-- The action that deletes a resource is looked up by the identifier of the resource. -/
theorem deleteAt?_eq_some_iff :
    deleteAt? actions id = some j ↔ ∃ d, Plan.Stands actions j d ∧ d.action = .delete ∧ d.id = id := by
  rw [deleteAt?, lastAt?_eq_some_iff]
  simp only [decide_eq_true_eq]
  constructor
  · rintro ⟨⟨d, hd, hdelete, rfl⟩, hlast⟩
    refine ⟨d, ⟨hd, fun k e he hkey => hlast k e he ?_⟩, hdelete, rfl⟩
    simpa [Change.key, hdelete] using hkey
  · rintro ⟨d, ⟨hd, hlast⟩, hdelete, rfl⟩
    refine ⟨⟨d, hd, hdelete, rfl⟩, fun k e he hsame => hlast k e he ?_⟩
    simp [Change.key, hsame.1, hdelete, hsame.2]

theorem deleteAt?_eq_none_iff :
    deleteAt? actions id = none ↔ (true, id) ∉ actions.map Change.key := by
  rw [deleteAt?, lastAt?_eq_none_iff, List.mem_map, not_exists]
  simp [Change.key]

/-- The action that creates or updates a resource is looked up by the identifier of the resource. -/
theorem applyAt?_eq_some_iff :
    applyAt? actions id = some j ↔ ∃ d, Plan.Stands actions j d ∧ d.action ≠ .delete ∧ d.id = id := by
  rw [applyAt?, lastAt?_eq_some_iff]
  simp only [decide_eq_true_eq]
  constructor
  · rintro ⟨⟨d, hd, happly, rfl⟩, hlast⟩
    refine ⟨d, ⟨hd, fun k e he hkey => hlast k e he ?_⟩, happly, rfl⟩
    simpa [Change.key, happly] using hkey
  · rintro ⟨d, ⟨hd, hlast⟩, happly, rfl⟩
    refine ⟨⟨d, hd, happly, rfl⟩, fun k e he hsame => hlast k e he ?_⟩
    simp [Change.key, hsame.1, happly, hsame.2]

/-! ## What an action waits for -/

theorem releases_eq_true_iff :
    d.releases id = true ↔ ∃ r x, d.sides = .update r x ∧ id ∉ x.dependsOn := by
  unfold Change.releases
  cases hsides : d.sides <;> simp

/-- What the delete of a resource waits for on account of a dependent one. -/
theorem releasedAt?_eq_some_iff {dependent : String} :
    releasedAt? actions id dependent = some j ↔
      ∃ d, Plan.Stands actions j d ∧ d.id = dependent ∧ (d.action = .delete ∨
        d.releases id = true ∧ (true, d.id) ∉ actions.map Change.key) := by
  unfold releasedAt?
  constructor
  · intro h
    rcases Option.or_eq_some_iff.mp h with hdelete | ⟨hnone, happly⟩
    · obtain ⟨d, hd, hdelete, hid⟩ := deleteAt?_eq_some_iff.mp hdelete
      exact ⟨d, hd, hid, .inl hdelete⟩
    · obtain ⟨happly, hreleases⟩ := Option.filter_eq_some_iff.mp happly
      obtain ⟨d, hd, _, hid⟩ := applyAt?_eq_some_iff.mp happly
      rw [hd.1] at hreleases
      exact ⟨d, hd, hid, .inr ⟨hreleases, hid ▸ deleteAt?_eq_none_iff.mp hnone⟩⟩
  · rintro ⟨d, hd, hid, hdelete | ⟨hreleases, hnone⟩⟩
    · rw [deleteAt?_eq_some_iff.mpr ⟨d, hd, hdelete, hid⟩, Option.some_or]
    · obtain ⟨r, x, hsides, _⟩ := releases_eq_true_iff.mp hreleases
      have happly : d.action ≠ .delete := by simp [Change.action, hsides, Sides.action]
      rw [deleteAt?_eq_none_iff.mpr (hid ▸ hnone), Option.none_or]
      exact Option.filter_eq_some_iff.mpr
        ⟨applyAt?_eq_some_iff.mpr ⟨d, hd, happly, hid⟩, by rw [hd.1]; exact hreleases⟩

theorem mem_dependents_iff : d.id ∈ dependents baseline id ↔ d.recordedNeeds baseline id = true := by
  unfold dependents Change.recordedNeeds Resource.ids
  simp only [List.mem_map, List.mem_filter, List.any_eq_true, Bool.and_eq_true, decide_eq_true_eq]
  exact ⟨fun ⟨r, ⟨hr, hneeds⟩, hid⟩ => ⟨r, hr, hid, hneeds⟩,
    fun ⟨r, hr, hid, hneeds⟩ => ⟨r, ⟨hr, hneeds⟩, hid⟩⟩

theorem waitsFor_of_delete {r : Resource} (hc : c.sides = .delete r) :
    c.waitsFor baseline d = true ↔
      d.recordedNeeds baseline c.id = true ∧ (d.action = .delete ∨ d.releases c.id = true) := by
  unfold Change.waitsFor Change.releases Change.action
  cases hd : d.sides <;> simp [hc, Sides.action]

/-- What applies a resource waits for the deletes of its old version and for what applies the
resources it depends on. -/
theorem waitsFor_of_desired {x : Resource} (hx : c.desired? = some x) :
    c.waitsFor baseline d =
      if d.action = .delete then c.replacement && d.id = c.id else x.dependsOn.contains d.id := by
  unfold Change.waitsFor Change.action
  cases hcs : c.sides <;> cases hds : d.sides <;>
    simp_all [Change.desired?, Sides.desired?, Sides.action]

theorem mem_reasons_of_delete {r : Resource} (hc : c.sides = .delete r) :
    j ∈ reasons baseline actions c ↔ Plan.WaitsIn baseline actions c j := by
  have hdelete : c.action = .delete := Change.action_eq_delete_iff.mpr ⟨r, hc⟩
  unfold reasons
  simp only [hc, List.mem_filterMap, releasedAt?_eq_some_iff]
  constructor
  · rintro ⟨_, hdependent, d, hd, rfl, h⟩
    rw [mem_dependents_iff] at hdependent
    refine ⟨d, hd, (waitsFor_of_delete hc).mpr ⟨hdependent, h.imp_right And.left⟩, fun _ happly => ?_⟩
    exact (h.resolve_left happly).2
  · rintro ⟨d, hd, hwaits, hkept⟩
    obtain ⟨hneeds, h⟩ := (waitsFor_of_delete hc).mp hwaits
    refine ⟨d.id, mem_dependents_iff.mpr hneeds, d, hd, rfl, ?_⟩
    by_cases hdd : d.action = .delete
    · exact .inl hdd
    · exact .inr ⟨h.resolve_left hdd, hkept hdelete hdd⟩

theorem mem_reasons_of_desired {x : Resource} (hx : c.desired? = some x) :
    j ∈ reasons baseline actions c ↔ Plan.WaitsIn baseline actions c j := by
  have happly : c.action ≠ .delete := (Change.desired?_eq_some_iff.mp hx).1
  have hreasons : reasons baseline actions c = x.dependsOn.filterMap (applyAt? actions)
      ++ (if c.replacement then (deleteAt? actions c.id).toList else []) := by
    unfold reasons
    cases hc : c.sides <;> simp_all [Change.desired?, Sides.desired?]
  rw [hreasons, List.mem_append, List.mem_filterMap]
  constructor
  · rintro (⟨id, hid, happlied⟩ | hreplaced)
    · obtain ⟨d, hd, hdapply, rfl⟩ := applyAt?_eq_some_iff.mp happlied
      refine ⟨d, hd, ?_, fun h => absurd h happly⟩
      rw [waitsFor_of_desired hx, if_neg hdapply]
      exact List.contains_iff_mem.mpr hid
    · split at hreplaced
      · rename_i hreplace
        obtain ⟨d, hd, hdelete, hid⟩ := deleteAt?_eq_some_iff.mp (Option.mem_toList.mp hreplaced)
        refine ⟨d, hd, ?_, fun h => absurd h happly⟩
        rw [waitsFor_of_desired hx, if_pos hdelete, hreplace, hid]
        simp
      · simp at hreplaced
  · rintro ⟨d, hd, hwaits, _⟩
    rw [waitsFor_of_desired hx] at hwaits
    split at hwaits
    · rename_i hdelete
      rw [Bool.and_eq_true, decide_eq_true_eq] at hwaits
      refine .inr ?_
      rw [if_pos hwaits.1, Option.mem_toList]
      exact deleteAt?_eq_some_iff.mpr ⟨d, hd, hdelete, hwaits.2⟩
    · rename_i hdapply
      exact .inl ⟨d.id, List.contains_iff_mem.mp hwaits,
        applyAt?_eq_some_iff.mpr ⟨d, hd, hdapply, rfl⟩⟩

/-- **The reasons of an action to wait** lead to the actions that stand for the resources. -/
theorem mem_reasons_iff : j ∈ reasons baseline actions c ↔ Plan.WaitsIn baseline actions c j := by
  cases hx : c.desired? with
  | some x => exact mem_reasons_of_desired hx
  | none =>
    have hdelete : c.action = .delete := by
      by_contra happly
      rw [Change.desired?_eq_some_iff.mpr ⟨happly, rfl⟩] at hx
      cases hx
    obtain ⟨r, hr⟩ := Change.action_eq_delete_iff.mp hdelete
    exact mem_reasons_of_delete hr

theorem mem_prerequisites_iff :
    j ∈ prerequisites baseline actions c ↔ Plan.WaitsIn baseline actions c j := by
  unfold prerequisites
  rw [List.mem_filter, List.mem_range, List.contains_iff_mem, mem_reasons_iff, and_iff_right_iff_imp]
  rintro ⟨d, hd, _⟩
  exact (List.getElem?_eq_some_iff.mp hd.1).1

/-- What the schedule of a plan consists of. -/
theorem of?_inv (h : of? plan baseline = .ok s) :
    s.actions = plan.actions ∧
      s.before = plan.actions.map (prerequisites baseline plan.actions) ∧
      (arrange s.waits s.size).stuck = [] ∧ s.order = (arrange s.waits s.size).placed := by
  unfold of? at h
  simp only at h
  split at h
  · rename_i hstuck
    cases h
    exact ⟨rfl, rfl, List.isEmpty_iff.mp hstuck, rfl⟩
  · cases h

theorem mem_before_iff {i j : Nat} :
    j ∈ (plan.actions.map (prerequisites baseline plan.actions)).getD i [] ↔
      plan.Waits baseline i j := by
  unfold Plan.Waits
  rw [List.getD_eq_getElem?_getD, List.getElem?_map]
  cases hc : plan.actions[i]? with
  | none => simp
  | some c => simp [mem_prerequisites_iff]

/-- **An action of a schedule waits for another one** as the actions of its plan do. -/
theorem mem_waits_iff (h : of? plan baseline = .ok s) {i j : Nat} :
    j ∈ s.waits i ↔ plan.Waits baseline i j := by
  obtain ⟨_, hbefore, _⟩ := of?_inv h
  rw [waits, hbefore, mem_before_iff]

/-- The actions of a schedule wait for each other as those of its plan do. -/
theorem edge_eq (h : of? plan baseline = .ok s) : Walk.Edge s.waits = plan.Waits baseline := by
  funext i j
  exact propext (mem_waits_iff h)

/-- **The actions of a schedule can be done in its order.** -/
theorem lawful_of (h : of? plan baseline = .ok s) : s.Lawful := by
  obtain ⟨_, _, hstuck, horder⟩ := of?_inv h
  refine ⟨horder ▸ arrange_orders hstuck, fun i j hj => ?_⟩
  obtain ⟨c, hc, d, hd, _⟩ := (mem_waits_iff h).mp hj
  rw [size, (of?_inv h).1]
  exact ⟨(List.getElem?_eq_some_iff.mp hc).1, (List.getElem?_eq_some_iff.mp hd.1).1⟩

/-- **A plan has a schedule unless some action of it waits for itself**, directly or through
others. -/
theorem exists_iff :
    (∃ s, of? plan baseline = .ok s) ↔ ∀ i, ¬ TransGen (plan.Waits baseline) i i := by
  constructor
  · rintro ⟨s, hs⟩ i hi
    have hlawful := lawful_of hs
    rw [← edge_eq hs] at hi
    exact hlawful.orders.acyclic hlawful.below i hi
  · intro hacyclic
    have hedge : Walk.Edge (fun i =>
        (plan.actions.map (prerequisites baseline plan.actions)).getD i [])
          = plan.Waits baseline := by
      funext i j
      exact propext mem_before_iff
    have hwalk : Walk.Acyclic fun i =>
        (plan.actions.map (prerequisites baseline plan.actions)).getD i [] := by
      unfold Walk.Acyclic
      rw [hedge]
      exact hacyclic
    unfold of?
    simp only [arrange_stuck_eq_nil hwalk, List.isEmpty_nil, if_true]
    exact ⟨_, rfl⟩

end Schedule

/-! ## Plans with one action for a resource -/

namespace Plan

variable {p : Plan} {baseline : List Resource} {i j : Nat} {c d : Change}

theorem Single.stands (h : p.Single) (hd : p.actions[j]? = some d) : Stands p.actions j d := by
  refine ⟨hd, fun k e he hkey => Nat.le_of_eq ?_⟩
  have hmap : ∀ {m : Nat} {a : Change}, p.actions[m]? = some a →
      (p.actions.map Change.key)[m]? = some a.key := fun ha => by
    rw [List.getElem?_map, ha, Option.map_some]
  have hk := (List.getElem?_eq_some_iff.mp he).1
  exact (List.getElem?_inj (by simpa using hk) h.nodup).mp
    ((hmap he).trans ((congrArg some hkey).trans (hmap hd).symm))

/-- A plan that is computed is such a plan. -/
theorem Compares.single {desired : List Resource} (h : p.Compares desired baseline)
    (hbase : (Resource.ids baseline).Nodup) : p.Single := by
  refine ⟨nodup_actions h.nodup, fun c hc hupdate hdeleted => ?_⟩
  obtain ⟨d, hd, hkey⟩ := List.mem_map.mp hdeleted
  obtain ⟨hdelete, hid⟩ : d.action = .delete ∧ d.id = c.id := by simpa [Change.key] using hkey
  obtain ⟨r, hr⟩ := Change.action_eq_delete_iff.mp hdelete
  obtain ⟨hrmem, hdr, hbackend, _⟩ := h.delete d (mem_actions_iff.mp hd).1 r hr
  obtain ⟨r', x, hsides⟩ : ∃ r' x, c.sides = .update r' x := by
    unfold Change.action at hupdate
    cases hsides : c.sides <;> simp_all [Sides.action]
  obtain ⟨hx, hr', hcx, hr'x, hsame, _⟩ := h.update c (mem_actions_iff.mp hc).1 r' x hsides
  have hrr' : r' = r := Resource.eq_of_id_eq hbase hr' hrmem (by rw [hr'x, ← hcx, ← hid, hdr])
  -- an updated resource stays with its backend, a deleted one does not
  exact hbackend x hx (by rw [← hcx, ← hid, hdr]) (by rw [← hsame, hrr'])

theorem single_of {desired : List Resource} (h : compute desired baseline = .ok p) : p.Single := by
  obtain ⟨_, _, _, hrecorded, _, _⟩ := compute_inv h
  exact (compares_of h).single (Graph.Accepted.of_build hrecorded).nodup

/-- **In such a plan an action waits for every action that there is a reason to wait for.** -/
theorem Single.waits_iff (h : p.Single) :
    p.Waits baseline i j ↔
      ∃ c d, p.actions[i]? = some c ∧ p.actions[j]? = some d ∧ c.waitsFor baseline d = true := by
  constructor
  · rintro ⟨c, hc, d, hd, hwaits, _⟩
    exact ⟨c, d, hc, hd.1, hwaits⟩
  · rintro ⟨c, d, hc, hd, hwaits⟩
    refine ⟨c, hc, d, h.stands hd, hwaits, fun hdelete happly => ?_⟩
    obtain ⟨r, hr⟩ := Change.action_eq_delete_iff.mp hdelete
    obtain ⟨_, hreleases⟩ := (Schedule.waitsFor_of_delete hr).mp hwaits
    obtain ⟨_, _, hsides, _⟩ := Schedule.releases_eq_true_iff.mp (hreleases.resolve_left happly)
    exact h.kept d (List.mem_of_getElem? hd) (by rw [Change.action, hsides, Sides.action])

end Plan

end Rollout
