import Rollout.Proofs.Graph.Least
import Rollout.Proofs.Plan.Changes
import Rollout.Proofs.Plan.Difference

/-!
# Plans classify resources

A plan is a block of deletes and, behind it, a block of creates, updates and resources that stay as
they are.  Each identifier is in the blocks that its recorded and its desired version put it into,
and no more than once in either.

* `Resource.Retyped`, `Resource.Stays` : an identifier that is recorded and desired, of another
  backend or of the same one;
* `Plan.DeleteBlock`, `Plan.ApplyBlock` : what the two blocks hold, and in which order;
* `Plan.compute_classifies` : when there is a plan, and that it consists of these blocks.
-/

set_option autoImplicit false

namespace Rollout

open Relation

namespace Resource

variable {desired last : List Resource} {id : String}

/-- An identifier is desired of one backend and recorded of another. -/
def Retyped (desired last : List Resource) (id : String) : Prop :=
  ∃ d ∈ desired, ∃ r ∈ last, d.id = id ∧ r.id = id ∧ d.backend ≠ r.backend

/-- A resource is recorded and desired, of one backend. -/
structure Stays (desired last : List Resource) (r d : Resource) : Prop where
  recorded : r ∈ last
  desired : d ∈ desired
  id : r.id = d.id
  backend : r.backend = d.backend

theorem Retyped.mem_desired (h : Retyped desired last id) : id ∈ ids desired := by
  obtain ⟨d, hd, _, _, rfl, _⟩ := h
  exact mem_ids_of_mem hd

theorem Retyped.symm (h : Retyped desired last id) : Retyped last desired id := by
  obtain ⟨d, hd, r, hr, hdid, hrid, hne⟩ := h
  exact ⟨r, hr, d, hd, hrid, hdid, hne.symm⟩

/-- No resource of a collection has the identifier and the backend of another resource exactly if
its identifier is not there, or has been retyped. -/
theorem forall_backend_ne_iff (hdesired : (ids desired).Nodup) (hlast : (ids last).Nodup)
    {r : Resource} (hr : r ∈ last) :
    (∀ d ∈ desired, d.id = r.id → d.backend ≠ r.backend) ↔
      r.id ∉ ids desired ∨ Retyped desired last r.id := by
  constructor
  · intro h
    by_cases hid : r.id ∈ ids desired
    · obtain ⟨d, hd, hdid⟩ := mem_ids.mp hid
      exact .inr ⟨d, hd, r, hr, hdid, rfl, h d hd hdid⟩
    · exact .inl hid
  · rintro (hno | ⟨d', hd', r', hr', hdid', hrid', hne⟩) d hd hdid
    · exact absurd (hdid ▸ mem_ids_of_mem hd) hno
    · rw [eq_of_id_eq hdesired hd hd' (hdid.trans hdid'.symm),
        eq_of_id_eq hlast hr hr' hrid'.symm]
      exact hne

namespace Stays

variable {r r' d d' : Resource}

/-- What stays has not gone, and has not been retyped. -/
theorem not_gone (hdesired : (ids desired).Nodup) (hlast : (ids last).Nodup)
    (h : Stays desired last r d) : ¬ (d.id ∉ ids last ∨ Retyped desired last d.id) := by
  rintro (hno | ⟨d', hd', r', hr', hdid, hrid, hne⟩)
  · exact hno (h.id ▸ mem_ids_of_mem h.recorded)
  · rw [eq_of_id_eq hdesired hd' h.desired hdid,
      eq_of_id_eq hlast hr' h.recorded (hrid.trans h.id.symm)] at hne
    exact hne h.backend.symm

/-- What stays under one identifier is one resource. -/
theorem unique (hdesired : (ids desired).Nodup) (hlast : (ids last).Nodup)
    (h : Stays desired last r d) (h' : Stays desired last r' d') (hid : d'.id = d.id) :
    r' = r ∧ d' = d :=
  ⟨eq_of_id_eq hlast h'.recorded h.recorded (h'.id.trans (hid.trans h.id.symm)),
    eq_of_id_eq hdesired h'.desired h.desired hid⟩

end Stays

end Resource

/-- A change that is made of its parts without an error. -/
def Change.Valid (c : Change) : Prop :=
  Change.of? c.id c.action c.current? c.desired? c.differences c.replacement = .ok c

/-- A change has the versions of its resource that its action asks for; so it needs an identifier
only. -/
theorem Change.valid_of_id_ne {c : Change} (h : c.id ≠ "") : c.Valid := by
  unfold Valid of?
  rw [if_neg h]
  obtain ⟨id, sides, found, replacement⟩ := c
  cases sides <;> rfl

namespace Plan

open Resource

variable {desired last : List Resource}

/-- **The deletes of a plan**: the recorded identifiers that are not desired, or are desired of
another backend, each in front of all that it needs. -/
structure DeleteBlock (desired last : List Resource) (deletes : List Change) : Prop where
  versions : ∀ c ∈ deletes, c.action = .delete ∧ ∃ r ∈ last, c.id = r.id ∧ c.current? = some r
  nodup : (deletes.map Change.id).Nodup
  mem_iff : ∀ id, id ∈ deletes.map Change.id ↔
    id ∈ ids last ∧ (id ∉ ids desired ∨ Retyped desired last id)
  ordered : (deletes.map Change.id).Pairwise fun id later => ¬ TransGen (Needs last) later id
  replacement_iff : ∀ c ∈ deletes, c.replacement = true ↔ Retyped desired last c.id

/-- **The creates and updates of a plan, and what stays as it is**: every desired identifier once,
behind all that it needs. -/
structure ApplyBlock (desired last : List Resource) (applies : List Change) : Prop where
  versions : ∀ c ∈ applies, ∃ d ∈ desired, c.id = d.id ∧ c.desired? = some d
  perm : (applies.map Change.id).Perm (ids desired)
  ordered : (applies.map Change.id).Pairwise fun id later => ¬ TransGen (Needs desired) id later
  create_iff : ∀ c ∈ applies, c.action = .create ↔ c.id ∉ ids last ∨ Retyped desired last c.id
  update_iff : ∀ c ∈ applies, c.action = .update ↔ ∃ r d, Stays desired last r d ∧ d.id = c.id ∧
    Value.same (.object r.attributes) (.object d.attributes) = false
  noChange_iff : ∀ c ∈ applies, c.action = .noChange ↔ ∃ r d, Stays desired last r d ∧ d.id = c.id ∧
    Value.same (.object r.attributes) (.object d.attributes) = true
  replacement_iff : ∀ c ∈ applies, c.replacement = true ↔
    c.action = .create ∧ Retyped desired last c.id

/-! ## The blocks of a plan -/

/-- A plan fails to be computed for its graphs exactly if one of them cannot be built. -/
theorem exists_graph_error_iff :
    (∃ e, compute desired last = .error (.graph e)) ↔
      (∃ e, Graph.build true desired = .error e) ∨ ∃ e, Graph.build false last = .error e := by
  unfold compute
  cases hdesired : Graph.build true desired with
  | error e => simp
  | ok wanted =>
    cases hlast : Graph.build false last with
    | error e => simp
    | ok recorded =>
      simp only [reduceCtorEq, exists_false, or_false, iff_false, not_exists]
      intro e
      split <;> exact fun h => by cases h

section

variable {wanted recorded : Graph}

theorem deletes_between (hwanted : Graph.build true desired = .ok wanted)
    (hrecorded : Graph.build false last = .ok recorded) :
    DeleteBlock desired last (recorded.destroyOrdered.filterMap (deleteOf wanted)) := by
  have hdesired := Graph.Accepted.of_build hwanted
  have hlast := Graph.Accepted.of_build hrecorded
  have hids : wanted.resources = desired := (Graph.build_inv hwanted).2.2.2.1
  have hmem : ∀ r, r ∈ recorded.destroyOrdered ↔ r ∈ last := fun r =>
    List.mem_reverse.trans (Graph.mem_ordered hrecorded)
  have hdelete : ∀ r ∈ last, ∀ c, deleteOf wanted r = some c ↔
      c.id = r.id ∧ c.sides = .delete r ∧ c.differences = [] ∧
        (r.id ∉ ids desired ∨ Retyped desired last r.id) ∧
        (c.replacement = true ↔ r.id ∈ ids desired) := by
    intro r hr c
    rw [deleteOf_eq_some_iff (hids ▸ hdesired.nodup), hids,
      forall_backend_ne_iff hdesired.nodup hlast.nodup hr]
  -- the deletes are named as the recorded resources they were made for
  have hsub : ((recorded.destroyOrdered.filterMap (deleteOf wanted)).map Change.id).Sublist
      recorded.order.reverse := by
    have := sublist_map_filterMap (g := Change.id) (k := Resource.id)
      (l := recorded.destroyOrdered) (f := deleteOf wanted)
      fun r hr c hc => ((hdelete r ((hmem r).mp hr) c).mp hc).1
    rwa [Graph.destroyOrdered, List.map_reverse] at this
  have harranges := Graph.arranges_order hrecorded
  refine ⟨fun c hc => ?_, ?_, fun id => ?_, ?_, fun c hc => ?_⟩
  · obtain ⟨r, hr, hc⟩ := List.mem_filterMap.mp hc
    obtain ⟨hid, hsides, _⟩ := (hdelete r ((hmem r).mp hr) c).mp hc
    refine ⟨Change.action_eq_delete_iff.mpr ⟨r, hsides⟩, r, (hmem r).mp hr, hid, ?_⟩
    rw [Change.current?, hsides, Sides.current?]
  · exact hsub.nodup (List.nodup_reverse.mpr (harranges.perm.nodup_iff.mpr hlast.nodup))
  · constructor
    · intro hid
      obtain ⟨c, hc, rfl⟩ := List.mem_map.mp hid
      obtain ⟨r, hr, hc⟩ := List.mem_filterMap.mp hc
      obtain ⟨hid, _, _, hgone, _⟩ := (hdelete r ((hmem r).mp hr) c).mp hc
      rw [hid]
      exact ⟨mem_ids_of_mem ((hmem r).mp hr), hgone⟩
    · rintro ⟨hid, hgone⟩
      obtain ⟨r, hr, rfl⟩ := mem_ids.mp hid
      have hdeleted := (hdelete r hr ⟨r.id, .delete r, [], decide (r.id ∈ ids desired)⟩).mpr
        ⟨rfl, rfl, rfl, hgone, decide_eq_true_iff⟩
      exact List.mem_map.mpr ⟨_, List.mem_filterMap.mpr ⟨r, (hmem r).mpr hr, hdeleted⟩, rfl⟩
  · exact (List.pairwise_reverse.mpr (harranges.pairwise hlast.nodup)).sublist hsub
  · obtain ⟨r, hr, hc⟩ := List.mem_filterMap.mp hc
    obtain ⟨hid, _, _, hgone, hreplacement⟩ := (hdelete r ((hmem r).mp hr) c).mp hc
    rw [hreplacement, hid]
    exact ⟨fun hthere => hgone.resolve_left (not_not_intro hthere), Retyped.mem_desired⟩

/-- What becomes of a desired resource: it is created, or it stays and is compared with what is
recorded. -/
theorem applyOf_class (hrecorded : Graph.build false last = .ok recorded) {d : Resource}
    (hd : d ∈ desired) :
    ((applyOf recorded d).action = .create ∧ (d.id ∉ ids last ∨ Retyped desired last d.id) ∧
      ((applyOf recorded d).replacement = true ↔ Retyped desired last d.id)) ∨
    ∃ r, Stays desired last r d ∧ (applyOf recorded d).replacement = false ∧
      (applyOf recorded d).action =
        if Value.same (.object r.attributes) (.object d.attributes) then .noChange
        else .update := by
  have hids : recorded.resources = last := (Graph.build_inv hrecorded).2.2.2.1
  have hnodup := hids.symm ▸ (Graph.Accepted.of_build hrecorded).nodup
  rcases applyOf_cases (d := d) hnodup with ⟨hno, heq⟩ | ⟨r, hr, hid, hne, heq⟩ |
    ⟨r, hr, hid, hb, hdiff, heq⟩ | ⟨r, hr, hid, hb, hdiff, heq⟩
  all_goals rw [heq]
  · rw [hids] at hno
    exact .inl ⟨rfl, .inl hno, iff_of_false Bool.false_ne_true fun h => hno h.symm.mem_desired⟩
  · have hretyped : Retyped desired last d.id := ⟨d, hd, r, hids ▸ hr, rfl, hid, hne.symm⟩
    exact .inl ⟨rfl, .inr hretyped, iff_of_true rfl hretyped⟩
  · refine .inr ⟨r, ⟨hids ▸ hr, hd, hid, hb⟩, rfl, ?_⟩
    rw [if_neg fun h => hdiff ((differences_eq_nil_iff _ _ _).mpr h)]
    rfl
  · refine .inr ⟨r, ⟨hids ▸ hr, hd, hid, hb⟩, rfl, ?_⟩
    rw [if_pos ((differences_eq_nil_iff _ _ _).mp hdiff)]
    rfl

/-- What stays has an action for either answer of the comparison. -/
theorem applyOf_action_iff (hdesired : (ids desired).Nodup)
    (hrecorded : Graph.build false last = .ok recorded) {d : Resource} (hd : d ∈ desired)
    (same : Bool) :
    ((applyOf recorded d).action = if same then .noChange else .update) ↔
      ∃ r d', Stays desired last r d' ∧ d'.id = (applyOf recorded d).id ∧
        Value.same (.object r.attributes) (.object d'.attributes) = same := by
  have hlast := (Graph.Accepted.of_build hrecorded).nodup
  rw [applyOf_id]
  rcases applyOf_class hrecorded hd with ⟨haction, hgone, _⟩ | ⟨r, hstays, _, haction⟩
  · refine iff_of_false (fun h => ?_) ?_
    · rw [haction] at h
      cases same <;> cases h
    · rintro ⟨r, d', hs, hid, _⟩
      exact hs.not_gone hdesired hlast (hid.symm ▸ hgone)
  · have hinj : ∀ a b : Bool, ((if a then Action.noChange else .update) =
        if b then .noChange else .update) ↔ a = b := by decide
    rw [haction, hinj]
    constructor
    · exact fun h => ⟨r, d, hstays, rfl, h⟩
    · rintro ⟨r', d', hs, hid, hsame⟩
      obtain ⟨rfl, rfl⟩ := hstays.unique hdesired hlast hs hid
      exact hsame

theorem applies_between (hwanted : Graph.build true desired = .ok wanted)
    (hrecorded : Graph.build false last = .ok recorded) :
    ApplyBlock desired last (wanted.ordered.map (applyOf recorded)) := by
  have hdesired := (Graph.Accepted.of_build hwanted).nodup
  have hlast := (Graph.Accepted.of_build hrecorded).nodup
  have harranges := Graph.arranges_order hwanted
  have hnames : (wanted.ordered.map (applyOf recorded)).map Change.id = wanted.order := by
    rw [List.map_map]
    exact List.map_congr_left fun d _ => applyOf_id recorded d
  have hmem : ∀ c, c ∈ wanted.ordered.map (applyOf recorded) ↔
      ∃ d ∈ desired, applyOf recorded d = c := fun c => by
    simp only [List.mem_map, Graph.mem_ordered hwanted]
  refine ⟨fun c hc => ?_, ?_, ?_, fun c hc => ?_, fun c hc => ?_, fun c hc => ?_, fun c hc => ?_⟩
  · obtain ⟨d, hd, rfl⟩ := (hmem c).mp hc
    exact ⟨d, hd, applyOf_id recorded d, applyOf_desired? recorded d⟩
  · exact hnames ▸ harranges.perm
  · exact hnames ▸ harranges.pairwise hdesired
  · obtain ⟨d, hd, rfl⟩ := (hmem c).mp hc
    rw [applyOf_id]
    rcases applyOf_class hrecorded hd with ⟨haction, hgone, _⟩ | ⟨r, hstays, _, haction⟩
    · exact iff_of_true haction hgone
    · refine iff_of_false (fun h => ?_) (hstays.not_gone hdesired hlast)
      rw [haction] at h
      split at h <;> cases h
  · obtain ⟨d, hd, rfl⟩ := (hmem c).mp hc
    exact applyOf_action_iff hdesired hrecorded hd false
  · obtain ⟨d, hd, rfl⟩ := (hmem c).mp hc
    exact applyOf_action_iff hdesired hrecorded hd true
  · obtain ⟨d, hd, rfl⟩ := (hmem c).mp hc
    rw [applyOf_id]
    rcases applyOf_class hrecorded hd with ⟨haction, _, hreplacement⟩ | ⟨r, hstays, hreplacement, _⟩
    · rw [hreplacement, haction, eq_self, true_and]
    · rw [hreplacement]
      refine iff_of_false Bool.false_ne_true fun h => ?_
      exact hstays.not_gone hdesired hlast (.inr h.2)

end

/-- **A plan classifies every identifier.**  It fails over a graph exactly if that of the desired or
that of the recorded resources cannot be built.  Otherwise, where no identifier is empty, it is a
block of deletes followed by the creates, the updates and what stays, and each of them is a valid
change. -/
theorem compute_classifies (desired last : List Resource) :
    ((∃ e, compute desired last = .error (.graph e)) ↔
      (∃ e, Graph.build true desired = .error e) ∨ ∃ e, Graph.build false last = .error e) ∧
    ∀ wanted recorded, Graph.build true desired = .ok wanted →
      Graph.build false last = .ok recorded → "" ∉ ids desired → "" ∉ ids last →
      ∃ deletes applies, compute desired last = .ok ⟨deletes ++ applies⟩ ∧
        DeleteBlock desired last deletes ∧ ApplyBlock desired last applies ∧
        ∀ c ∈ deletes ++ applies, c.Valid := by
  refine ⟨exists_graph_error_iff, fun wanted recorded hwanted hrecorded hnamed hlast => ?_⟩
  have hlast' : ∀ r ∈ last, r.id ≠ "" := fun r hr hid => hlast (hid ▸ mem_ids_of_mem hr)
  rcases compute_cases desired hlast' with ⟨hno, _⟩ | ⟨_, _, hempty, _⟩ | ⟨_, _, _, plan, hplan⟩
  · exact absurd ⟨Graph.Accepted.of_build hwanted, Graph.Accepted.of_build hrecorded⟩ hno
  · exact absurd hempty hnamed
  · obtain ⟨wanted', recorded', hwanted', hrecorded', rfl, hids⟩ := compute_inv hplan
    exact ⟨_, _, hplan, deletes_between hwanted' hrecorded', applies_between hwanted' hrecorded',
      fun c hc => Change.valid_of_id_ne (hids c hc)⟩

end Plan

/-! ## A plan of every kind

The network is new, the disk grows, the address moves to another backend, the volume stays as it is
and its snapshot goes. -/

namespace Plan.Mixed

/-- The recorded resources. -/
def recorded : List Resource :=
  [⟨"address", .kubernetes, [], [], []⟩, ⟨"disk", .kubernetes, [("size", .int 1)], [], []⟩,
    ⟨"volume", .kubernetes, [], ["disk"], []⟩, ⟨"snapshot", .kubernetes, [], ["volume"], []⟩]

/-- The desired resources. -/
def desired : List Resource :=
  [⟨"volume", .kubernetes, [], ["disk"], []⟩, ⟨"disk", .kubernetes, [("size", .int 2)], [], []⟩,
    ⟨"network", .kubernetes, [], ["address"], []⟩, ⟨"address", .terraform, [], [], []⟩]

/-- The changes in the order of the plan. -/
def changes : List (Action × String × Bool) :=
  [(.delete, "snapshot", false), (.delete, "address", true), (.update, "disk", false),
    (.noChange, "volume", false), (.create, "address", true), (.create, "network", false)]

end Plan.Mixed

/-- The snapshot and the old address are deleted, the rest follows in apply order. -/
theorem Plan.compute_classifies_mixed :
    ∃ deletes applies, compute Mixed.desired Mixed.recorded = .ok ⟨deletes ++ applies⟩ ∧
      (deletes ++ applies).map (fun c => (c.action, c.id, c.replacement)) = Mixed.changes ∧
      DeleteBlock Mixed.desired Mixed.recorded deletes ∧
      ApplyBlock Mixed.desired Mixed.recorded applies ∧
      ∀ c ∈ deletes ++ applies, c.Valid := by
  obtain ⟨deletes, applies, hcompute, hdeletes, happlies, hvalid⟩ :=
    (compute_classifies Mixed.desired Mixed.recorded).2 _ _ rfl rfl (by decide) (by decide)
  refine ⟨deletes, applies, hcompute, ?_, hdeletes, happlies, hvalid⟩
  have hchanges : (compute Mixed.desired Mixed.recorded).map
      (fun p => p.changes.map fun c => (c.action, c.id, c.replacement)) = .ok Mixed.changes := rfl
  rw [hcompute] at hchanges
  exact Except.ok.inj hchanges

end Rollout
