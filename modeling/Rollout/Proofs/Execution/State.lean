import Rollout.Execution.State
import Rollout.Proofs.Assoc
import Rollout.Proofs.Plan.Changes

/-!
# What an execution leaves

* `Plan.Done` : nothing of a change is left to be done;
* `Plan.doneVersion` : the version that a change is recorded in once it is done;
* `Plan.mem_resultingState_iff_doneVersion` : a resource that is left is the version recorded by a
  change that is done, or the recorded version of one no change of which is done;
* `Plan.mem_resultingState_iff` : the same for backends that answer what they were given;
* `Plan.ids_resultingState_sublist` : the order in which resources are left;
* `Plan.nodup_ids_resultingState` : no resource is left in two versions.
-/

set_option autoImplicit false

namespace Rollout.Plan

/-- Nothing of a change is left to be done: it needs no action, or its action succeeded. -/
def Done (p : Plan) (statuses : List Status) (c : Change) : Prop :=
  c.action = .noChange ∨ p.confirmed statuses c = true

/-- The backends answered nothing but the versions they were given. -/
def Faithful (p : Plan) (applied : List (Nat × Resource)) : Prop :=
  ∀ i r, (i, r) ∈ applied → ∃ c, p.actions[i]? = some c ∧ c.desired? = some r

/-- The backends answered under the identifiers of the actions they were asked for. -/
def Identified (p : Plan) (applied : List (Nat × Resource)) : Prop :=
  ∀ i r, (i, r) ∈ applied → ∃ c, p.actions[i]? = some c ∧ r.id = c.id

/-- The version that a change is recorded in once it is done: the one that was answered for it, or
the desired one where nothing was. -/
def doneVersion (p : Plan) (applied : List (Nat × Resource)) (c : Change) : Option Resource :=
  c.desired?.map fun d =>
    if c.action = .noChange then d else (Assoc.lookup c.id (p.results applied)).getD d

variable {p : Plan} {desired baseline : List Resource} {statuses : List Status}
  {applied : List (Nat × Resource)} {c : Change} {r : Resource} {i : Nat}

/-! ## Statuses by resource -/

theorem mem_actions_iff : c ∈ p.actions ↔ c ∈ p.changes ∧ c.action ≠ .noChange := by
  simp [actions, Change.isSignificant]

theorem nodup_actions (h : (p.changes.map Change.key).Nodup) :
    (p.actions.map Change.key).Nodup := h.sublist (List.filter_sublist.map _)

theorem actions_inj (h : (p.changes.map Change.key).Nodup) {j : Nat} {d : Change}
    (hi : p.actions[i]? = some c) (hj : p.actions[j]? = some d) (hkey : c.key = d.key) : i = j := by
  have hi' : (p.actions.map Change.key)[i]? = some c.key := by simp [hi]
  have hj' : (p.actions.map Change.key)[j]? = some c.key := by simp [hj, hkey]
  obtain ⟨hlt, _⟩ := List.getElem?_eq_some_iff.mp hi'
  exact (List.getElem?_inj hlt (nodup_actions h)).mp (hi'.trans hj'.symm)

/-- Two changes of one resource, of which both delete it or none does, are the same. -/
theorem eq_of_key (h : (p.changes.map Change.key).Nodup) {d : Change} (hc : c ∈ p.changes)
    (hd : d ∈ p.changes) (hid : c.id = d.id) (hdelete : c.action = .delete ↔ d.action = .delete) :
    c = d := by
  refine List.inj_on_of_nodup_map h hc hd ?_
  simp [Change.key, hid, hdelete]

/-- The status of an action is looked up by its kind and its resource. -/
theorem statusOf_eq (h : (p.changes.map Change.key).Nodup) (hi : p.actions[i]? = some c) :
    p.statusOf statuses c.action c.id = statuses[i]? := by
  unfold statusOf
  cases hf : (p.actions.zip statuses).reverse.findSome? fun entry =>
      if entry.1.action = c.action ∧ entry.1.id = c.id then some entry.2 else none with
  | some st =>
    obtain ⟨⟨d, st'⟩, hmem, hst⟩ := List.exists_of_findSome?_eq_some hf
    rw [List.mem_reverse] at hmem
    obtain ⟨j, hj⟩ := List.mem_iff_getElem?.mp hmem
    obtain ⟨hdj, hstj⟩ := List.getElem?_zip_eq_some.mp hj
    simp only at hst hdj hstj
    split at hst
    · rename_i hboth
      rw [Option.some.injEq] at hst
      subst hst
      have hij : i = j := actions_inj h hi hdj (by simp [Change.key, hboth.1, hboth.2])
      rw [hij, hstj]
    · cases hst
  | none =>
    cases hst : statuses[i]? with
    | none => rfl
    | some st =>
      have hmem : (c, st) ∈ (p.actions.zip statuses).reverse := by
        rw [List.mem_reverse]
        exact List.mem_iff_getElem?.mpr ⟨i, List.getElem?_zip_eq_some.mpr ⟨hi, hst⟩⟩
      have := List.findSome?_eq_none_iff.mp hf (c, st) hmem
      simp at this

theorem confirmed_iff (h : (p.changes.map Change.key).Nodup) (hi : p.actions[i]? = some c) :
    p.confirmed statuses c = true ↔ statuses[i]? = some .succeeded := by
  simp [confirmed, statusOf_eq h hi]

/-! ## What was recorded, and what was answered -/

theorem recorded_eq (h : (Resource.ids baseline).Nodup) :
    recorded baseline = baseline.map fun r => (r.id, r) :=
  Assoc.ofList_eq_self (by simpa [Assoc.keys, Resource.ids, Function.comp_def] using h)

theorem mem_remaining_iff (h : (Resource.ids baseline).Nodup) {entry : String × Resource} :
    entry ∈ p.remaining baseline statuses ↔ entry.2 ∈ baseline ∧ entry.1 = entry.2.id ∧
      ∀ c ∈ p.changes, c.action = .delete → c.id = entry.1 → p.confirmed statuses c = false := by
  obtain ⟨id, r⟩ := entry
  simp only [remaining, recorded_eq h, List.mem_filter, List.mem_map, Prod.mk.injEq, deletes,
    withAction, Bool.not_eq_true', List.any_eq_false, Bool.and_eq_true, decide_eq_true_eq, not_and,
    Bool.not_eq_true, and_imp]
  constructor
  · rintro ⟨⟨r', hr', rfl, rfl⟩, hall⟩
    exact ⟨hr', rfl, hall⟩
  · rintro ⟨hr, rfl, hall⟩
    exact ⟨⟨r, hr, rfl, rfl⟩, hall⟩

theorem nodup_remaining (h : (Resource.ids baseline).Nodup) :
    (Assoc.keys (p.remaining baseline statuses)).Nodup := by
  rw [remaining, recorded_eq h]
  refine List.Nodup.sublist (List.filter_sublist.map _) ?_
  simpa [Resource.ids, Function.comp_def] using h

/-- What was answered for a resource was answered by an action on it. -/
theorem lookup_results {id : String} (h : Assoc.lookup id (p.results applied) = some r) :
    ∃ i c, p.actions[i]? = some c ∧ c.id = id ∧ (i, r) ∈ applied := by
  revert id r
  unfold results
  refine List.foldlRecOn (motive := fun found => ∀ {r id}, Assoc.lookup id found = some r →
    ∃ i c, p.actions[i]? = some c ∧ c.id = id ∧ (i, r) ∈ applied) _ _ (fun h => by cases h) ?_
  intro found hfound entry hentry r id hlookup
  obtain ⟨c, i⟩ := entry
  simp only at hlookup
  split at hlookup
  · rename_i j r' hfind
    have hj : j = i := by simpa using List.find?_some hfind
    rw [Assoc.lookup_put] at hlookup
    split at hlookup
    · rename_i hid
      cases hlookup
      exact ⟨i, c, List.mem_zipIdx_iff_getElem?.mp hentry, hid,
        hj ▸ List.mem_of_find?_eq_some hfind⟩
    · exact hfound hlookup
  · exact hfound hlookup

/-- What an action was answered is not lost. -/
theorem exists_lookup_results (hi : p.actions[i]? = some c) (h : (i, r) ∈ applied) :
    ∃ r', Assoc.lookup c.id (p.results applied) = some r' := by
  have hentry : (c, i) ∈ p.actions.zipIdx := List.mem_zipIdx_iff_getElem?.mpr hi
  obtain ⟨earlier, later, heq⟩ := List.append_of_mem hentry
  obtain ⟨⟨j, x⟩, hfind⟩ : ∃ entry, (applied.find? fun entry => entry.1 = i) = some entry := by
    rw [← Option.isSome_iff_exists, List.find?_isSome]
    exact ⟨(i, r), h, by simp⟩
  rw [results, heq, List.foldl_append, List.foldl_cons]
  simp only [hfind]
  generalize List.foldl _ [] earlier = found
  -- an entry may be overwritten later on, and is not removed
  refine List.foldlRecOn (motive := fun found => ∃ r', Assoc.lookup c.id found = some r') _ _ ?_ ?_
  · exact ⟨x, by simp [Assoc.lookup_put]⟩
  · rintro found ⟨r', hr'⟩ ⟨d, j⟩ _
    dsimp only
    split
    · rw [Assoc.lookup_put]
      split
      · exact ⟨_, rfl⟩
      · exact ⟨r', hr'⟩
    · exact ⟨r', hr'⟩

/-! ## The resulting state -/

/-- The recorded version of a resource remains unless its delete succeeded. -/
theorem lookup_remaining_iff (hbase : (Resource.ids baseline).Nodup) {id : String} :
    Assoc.lookup id (p.remaining baseline statuses) = some r ↔ r ∈ baseline ∧ r.id = id ∧
      ∀ c ∈ p.changes, c.action = .delete → c.id = id → p.confirmed statuses c = false := by
  rw [Assoc.lookup_eq_some_iff (nodup_remaining hbase), mem_remaining_iff hbase]
  exact ⟨fun ⟨hr, hid, hall⟩ => ⟨hr, hid.symm, hall⟩, fun ⟨hr, hid, hall⟩ => ⟨hr, hid.symm, hall⟩⟩

/-- What a desired resource is recorded in, whatever was answered. -/
theorem keptVersion_of_desired {d : Resource} (hd : c.desired? = some d)
    (found left : List (String × Resource)) :
    p.keptVersion statuses found left c =
      if c.action = .noChange then some d
      else if p.confirmed statuses c then some ((Assoc.lookup c.id found).getD d)
      else Assoc.lookup c.id left := by
  unfold Change.desired? at hd
  unfold keptVersion Change.action
  cases hsides : c.sides with
  | delete r => simp [hsides, Sides.desired?] at hd
  | noChange current d' =>
    simp only [hsides, Sides.desired?, Option.some.injEq] at hd
    simp [Sides.action, hd]
  | create d' =>
    simp only [hsides, Sides.desired?, Option.some.injEq] at hd
    simp [Sides.action, hd]
  | update current d' =>
    simp only [hsides, Sides.desired?, Option.some.injEq] at hd
    simp [Sides.action, hd]

/-- **What a desired resource comes to**: the version its change is recorded in, if that is done, or
else what remains of the recorded one. -/
theorem keptVersion_eq_some_iff (hbase : (Resource.ids baseline).Nodup)
    (happly : c.action ≠ .delete) :
    p.keptVersion statuses (p.results applied) (p.remaining baseline statuses) c = some r ↔
      p.Done statuses c ∧ p.doneVersion applied c = some r ∨
      ¬ p.Done statuses c ∧ r ∈ baseline ∧ r.id = c.id ∧
        ∀ d ∈ p.changes, d.action = .delete → d.id = c.id → p.confirmed statuses d = false := by
  have hd := Change.desired?_eq_some_iff.mpr ⟨happly, rfl⟩
  rw [keptVersion_of_desired hd, doneVersion, hd, Option.map_some]
  by_cases hno : c.action = .noChange
  · have hdone : p.Done statuses c := .inl hno
    simp [hno, hdone]
  · rw [if_neg hno, if_neg hno]
    by_cases hconf : p.confirmed statuses c = true
    · have hdone : p.Done statuses c := .inr hconf
      simp [hconf, hdone]
    · have hdone : ¬ p.Done statuses c := by simp [Done, hno, hconf]
      rw [if_neg hconf, lookup_remaining_iff hbase]
      simp [hdone]

/-- A change that is done is recorded in a version that was desired or answered. -/
theorem doneVersion_cases (h : p.doneVersion applied c = some r) :
    c.desired? = some r ∨ ∃ i, (i, r) ∈ applied := by
  unfold doneVersion at h
  obtain ⟨d, hd, hversion⟩ := Option.map_eq_some_iff.mp h
  split at hversion
  · exact .inl (by rw [hd, hversion])
  · cases hl : Assoc.lookup c.id (p.results applied) with
    | none =>
      rw [hl, Option.getD_none] at hversion
      exact .inl (by rw [hd, hversion])
    | some r' =>
      rw [hl, Option.getD_some] at hversion
      obtain ⟨i, _, _, _, hmem⟩ := lookup_results hl
      exact .inr ⟨i, hversion ▸ hmem⟩

/-- Whatever the backends answered, what is left was recorded, desired or answered. -/
theorem mem_resultingState (hbase : (Resource.ids baseline).Nodup)
    (h : r ∈ p.resultingState baseline statuses applied) :
    r ∈ baseline ∨ (∃ c ∈ p.changes, c.desired? = some r) ∨ ∃ i, (i, r) ∈ applied := by
  simp only [resultingState, List.mem_append, List.mem_filterMap, List.mem_map, List.mem_filter,
    decide_eq_true_eq] at h
  rcases h with ⟨c, ⟨hc, happly⟩, hkept⟩ | ⟨entry, ⟨hleft, _⟩, rfl⟩
  · rcases (keptVersion_eq_some_iff hbase happly).mp hkept with ⟨_, hversion⟩ | ⟨_, hr, _⟩
    · exact .inr ((doneVersion_cases hversion).imp_left fun hd => ⟨c, hc, hd⟩)
    · exact .inl hr
  · exact .inl ((mem_remaining_iff hbase).mp hleft).1

section

variable (hplan : p.Compares desired baseline) (hbase : (Resource.ids baseline).Nodup)

include hplan

/-- Backends that answer what they were given answer the desired version. -/
theorem Faithful.getD_results (hfaith : p.Faithful applied) (hc : c ∈ p.changes) {d : Resource}
    (hd : c.desired? = some d) : (Assoc.lookup c.id (p.results applied)).getD d = d := by
  cases hl : Assoc.lookup c.id (p.results applied) with
  | none => rfl
  | some r' =>
    obtain ⟨i, c', hc', hid, hmem⟩ := lookup_results hl
    obtain ⟨_, hc'', hdesired⟩ := hfaith i r' hmem
    obtain rfl := Option.some.inj (hc'.symm.trans hc'')
    -- the action that was answered is the one of this change
    have hsame : c' = c := by
      refine eq_of_key hplan.nodup (mem_actions_iff.mp (List.mem_of_getElem? hc')).1 hc hid ?_
      exact iff_of_false (Change.desired?_eq_some_iff.mp hdesired).1
        (Change.desired?_eq_some_iff.mp hd).1
    rw [hsame, hd, Option.some.injEq] at hdesired
    exact hdesired.symm

/-- Such backends leave every change that is done in its desired version. -/
theorem Faithful.doneVersion_eq (hfaith : p.Faithful applied) (hc : c ∈ p.changes) :
    p.doneVersion applied c = c.desired? := by
  unfold doneVersion
  cases hd : c.desired? with
  | none => rfl
  | some d => rw [Option.map_some, hfaith.getD_results hplan hc hd, ite_self]

include hbase

/-- **A resource that is left**, whatever the backends answered, is the version that a change is
recorded in which is done, or the recorded version of one no change of which is done. -/
theorem mem_resultingState_iff_doneVersion :
    r ∈ p.resultingState baseline statuses applied ↔
      (∃ c ∈ p.changes, p.Done statuses c ∧ p.doneVersion applied c = some r) ∨
      r ∈ baseline ∧ ∀ c ∈ p.changes, c.id = r.id → ¬ p.Done statuses c := by
  have hdeleteDone : ∀ c, c.action = .delete →
      (p.confirmed statuses c = false ↔ ¬ p.Done statuses c) := by
    intro c hc
    simp [Done, hc]
  simp only [resultingState, List.mem_append, List.mem_filterMap, List.mem_map, List.mem_filter,
    decide_eq_true_eq]
  constructor
  · rintro (⟨c, ⟨hc, happly⟩, hkept⟩ | ⟨⟨id, r'⟩, ⟨hleft, hno⟩, rfl⟩)
    · rcases (keptVersion_eq_some_iff hbase happly).mp hkept with
        ⟨hdone, hversion⟩ | ⟨hdone, hr, hid, hall⟩
      · exact .inl ⟨c, hc, hdone, hversion⟩
      · refine .inr ⟨hr, fun d hd hdid => ?_⟩
        by_cases hdelete : d.action = .delete
        · exact (hdeleteDone d hdelete).mp (hall d hd hdelete (hdid.trans hid))
        · rwa [eq_of_key hplan.nodup hd hc (hdid.trans hid) (iff_of_false hdelete happly)]
    · obtain ⟨hr, hid, hall⟩ := (mem_remaining_iff hbase).mp hleft
      simp only at hr hid hall hno
      subst hid
      refine .inr ⟨hr, fun d hd hdid => ?_⟩
      by_cases hdelete : d.action = .delete
      · exact (hdeleteDone d hdelete).mp (hall d hd hdelete hdid)
      · simp only [Bool.not_eq_true', List.any_eq_false, decide_eq_true_eq, List.mem_filter] at hno
        exact absurd hdid (by simpa using hno d ⟨hd, hdelete⟩)
  · rintro (⟨c, hc, hdone, hversion⟩ | ⟨hr, hall⟩)
    · obtain ⟨d, hd, _⟩ := Option.map_eq_some_iff.mp hversion
      have happly := (Change.desired?_eq_some_iff.mp hd).1
      exact .inl ⟨c, ⟨hc, happly⟩,
        (keptVersion_eq_some_iff hbase happly).mpr (.inl ⟨hdone, hversion⟩)⟩
    · have hremains : ∀ d ∈ p.changes, d.action = .delete → d.id = r.id →
          p.confirmed statuses d = false :=
        fun d hd hdelete hdid => (hdeleteDone d hdelete).mpr (hall d hd hdid)
      by_cases happly : ∃ c ∈ p.changes, c.action ≠ .delete ∧ c.id = r.id
      · obtain ⟨c, hc, happly, hid⟩ := happly
        exact .inl ⟨c, ⟨hc, happly⟩, (keptVersion_eq_some_iff hbase happly).mpr
          (.inr ⟨hall c hc hid, hr, hid.symm, hid ▸ hremains⟩)⟩
      · refine .inr ⟨(r.id, r), ⟨(mem_remaining_iff hbase).mpr ⟨hr, rfl, hremains⟩, ?_⟩, rfl⟩
        simp only [Bool.not_eq_true', List.any_eq_false, decide_eq_true_eq, List.mem_filter]
        rintro c ⟨hc, hcapply⟩ hid
        exact happly ⟨c, hc, by simpa using hcapply, hid⟩

/-- **A resource that is left** by backends that answer what they were given is the desired version
of one whose change is done, or the recorded version of one no change of which is done. -/
theorem mem_resultingState_iff (hfaith : p.Faithful applied) :
    r ∈ p.resultingState baseline statuses applied ↔
      (∃ c ∈ p.changes, p.Done statuses c ∧ c.desired? = some r) ∨
      r ∈ baseline ∧ ∀ c ∈ p.changes, c.id = r.id → ¬ p.Done statuses c := by
  rw [mem_resultingState_iff_doneVersion hplan hbase]
  apply or_congr_left
  apply exists_congr
  intro c
  apply and_congr_right
  intro hc
  rw [hfaith.doneVersion_eq hplan hc]

omit hbase in
/-- Backends that answer what they were given answer it under its identifier. -/
theorem Faithful.identified (hfaith : p.Faithful applied) : p.Identified applied := by
  intro i r hmem
  obtain ⟨c, hc, hd⟩ := hfaith i r hmem
  exact ⟨c, hc, (hplan.id_of_desired (mem_actions_iff.mp (List.mem_of_getElem? hc)).1 hd).symm⟩

omit hbase in
/-- Where backends answer under the right identifiers, changes are recorded under theirs. -/
theorem Identified.id_of_doneVersion (hident : p.Identified applied) (hc : c ∈ p.changes)
    (h : p.doneVersion applied c = some r) : r.id = c.id := by
  unfold doneVersion at h
  obtain ⟨d, hd, hversion⟩ := Option.map_eq_some_iff.mp h
  have hdesired := (hplan.id_of_desired hc hd).symm
  split at hversion
  · rw [← hversion, hdesired]
  · cases hl : Assoc.lookup c.id (p.results applied) with
    | none =>
      rw [hl, Option.getD_none] at hversion
      rw [← hversion, hdesired]
    | some r' =>
      rw [hl, Option.getD_some] at hversion
      obtain ⟨i, c', hc', hid, hmem⟩ := lookup_results hl
      obtain ⟨d', hd', hrid⟩ := hident i r' hmem
      obtain rfl := Option.some.inj (hc'.symm.trans hd')
      rw [← hversion, hrid, hid]

theorem id_of_keptVersion (hident : p.Identified applied) (hc : c ∈ p.changes)
    (happly : c.action ≠ .delete)
    (h : p.keptVersion statuses (p.results applied) (p.remaining baseline statuses) c = some r) :
    r.id = c.id := by
  rcases (keptVersion_eq_some_iff hbase happly).mp h with ⟨_, hversion⟩ | ⟨_, _, hid, _⟩
  · exact hident.id_of_doneVersion hplan hc hversion
  · exact hid

omit hbase in
/-- No resource is applied by two changes. -/
theorem nodup_applies : ((p.changes.filter fun c => c.action ≠ .delete).map Change.id).Nodup := by
  have h := hplan.nodup.sublist
    (List.filter_sublist (p := fun c : Change => c.action ≠ .delete).map Change.key)
  refine List.Nodup.of_map (fun id => (false, id)) ?_
  rw [List.map_map]
  refine (List.map_congr_left fun c hc => ?_) ▸ h
  have hne : c.action ≠ .delete := by simpa using (List.mem_filter.mp hc).2
  simp [Change.key, hne]

/-- The order in which resources are left: the desired ones as the plan applies them, and then those
that are recorded only. -/
def listing (p : Plan) (baseline : List Resource) : List String :=
  let applies := (p.changes.filter fun c => c.action ≠ .delete).map Change.id
  applies ++ (Resource.ids baseline).filter fun id => !applies.contains id

theorem nodup_listing : (p.listing baseline).Nodup := by
  refine List.nodup_append.mpr ⟨nodup_applies hplan, hbase.filter _, ?_⟩
  intro a ha b hb hab
  subst hab
  have hno := (List.mem_filter.mp hb).2
  simp only [Bool.not_eq_true', List.contains_eq_mem, decide_eq_false_iff_not] at hno
  exact hno ha

/-- **What is left is in order**, some of it missing. -/
theorem ids_resultingState_sublist (hident : p.Identified applied) :
    (Resource.ids (p.resultingState baseline statuses applied)).Sublist (p.listing baseline) := by
  -- the versions of desired resources carry the identifiers of their changes, in their order
  have hsub := sublist_map_filterMap (g := Resource.id) (k := Change.id)
    (f := p.keptVersion statuses (p.results applied) (p.remaining baseline statuses))
    (l := p.changes.filter fun c => c.action ≠ .delete) (fun c hc r hr => by
      obtain ⟨hc, happly⟩ := List.mem_filter.mp hc
      exact id_of_keptVersion hplan hbase hident hc (by simpa using happly) hr)
  have hleft : ∀ keep : String → Bool, (((p.remaining baseline statuses).filter fun entry =>
      keep entry.1).map Prod.snd).map Resource.id
        = (Assoc.keys (p.remaining baseline statuses)).filter keep := by
    intro keep
    rw [List.map_map, Assoc.keys, List.filter_map]
    refine List.map_congr_left fun entry hentry => ?_
    exact ((mem_remaining_iff hbase).mp (List.mem_filter.mp hentry).1).2.1.symm
  have hkeys : (Assoc.keys (p.remaining baseline statuses)).Sublist (Resource.ids baseline) := by
    rw [remaining, recorded_eq hbase]
    have hrecorded : Resource.ids baseline
        = Assoc.keys (baseline.map fun r => (r.id, r)) := by
      simp [Resource.ids, Assoc.keys, Function.comp_def]
    rw [hrecorded]
    exact List.filter_sublist.map _
  rw [Resource.ids, resultingState, List.map_append,
    hleft fun id => !(p.changes.filter fun c => c.action ≠ .delete).any fun c => c.id = id]
  refine hsub.append ?_
  have hsame : (fun id => !(p.changes.filter fun c => c.action ≠ .delete).any fun c => c.id = id)
      = fun id => !((p.changes.filter fun c => c.action ≠ .delete).map Change.id).contains id := by
    funext id
    rw [Bool.eq_iff_iff]
    simp
  rw [hsame]
  exact hkeys.filter _

/-- **No resource is left in two versions.** -/
theorem nodup_ids_resultingState (hident : p.Identified applied) :
    (Resource.ids (p.resultingState baseline statuses applied)).Nodup :=
  (nodup_listing hplan hbase).sublist (ids_resultingState_sublist hplan hbase hident)

theorem nodup_resultingState (hfaith : p.Faithful applied) :
    (Resource.ids (p.resultingState baseline statuses applied)).Nodup :=
  nodup_ids_resultingState hplan hbase (hfaith.identified hplan)

end

end Rollout.Plan
