import Rollout.Plan.Drift
import Rollout.Proofs.Plan.Classified
import Rollout.Proofs.Plan.Position

/-!
# Differences from either side

* `Differences.lookup_swap` : with the sides exchanged, every entry has its values exchanged, as far
  as the positions written with one path agree;
* `Plan.update_iff`, `detectDrift_iff` : an update is planned, and a drift reported, exactly for
  attributes that are not the same;
* `Differences.differences_decide` : what two objects of attributes decide by their differences.
-/

set_option autoImplicit false

namespace Rollout

namespace Differences

/-! ## Exchanging the sides -/

section

variable {base p : String} {current desired : Fields} {d : Difference} {position : List String}

theorem DifferAt.swap (h : DifferAt current desired position d)
    (hcurrent : (Value.object current).Comparable) (hdesired : (Value.object desired).Comparable) :
    DifferAt desired current position d.swap :=
  Differs.swap h (.some hcurrent) (.some hdesired)

/-- The paths stay when the sides are exchanged. -/
theorem mem_keys_swap (hcurrent : (Value.object current).Comparable)
    (hdesired : (Value.object desired).Comparable)
    (h : p ∈ Assoc.keys (differences base current desired)) :
    p ∈ Assoc.keys (differences base desired current) := by
  obtain ⟨position, d, hdiffer, rfl⟩ := (mem_keys_iff hcurrent.distinct hdesired.distinct).mp h
  exact mem_keys_of_differs (DifferAt.swap hdiffer hcurrent hdesired)

/-- All positions that are written with a path have the same difference. -/
def Clear (base : String) (current desired : Fields) (p : String) : Prop :=
  ∀ position position' d d', DifferAt current desired position d →
    DifferAt current desired position' d' → path base position = p → path base position' = p →
    d = d'

/-- **A clear entry has its values exchanged** when the sides are exchanged. -/
theorem lookup_swap (hcurrent : (Value.object current).Comparable)
    (hdesired : (Value.object desired).Comparable) (hclear : Clear base current desired p)
    (h : Assoc.lookup p (differences base current desired) = some d) :
    Assoc.lookup p (differences base desired current) = some d.swap := by
  obtain ⟨position, hdiffer, hp⟩ :=
    exists_differs_of_mem hcurrent.distinct hdesired.distinct (Assoc.mem_of_lookup h)
  obtain ⟨d', hd'⟩ := Assoc.mem_keys_iff.mp (mem_keys_swap hcurrent hdesired
    (Assoc.mem_keys (Assoc.mem_of_lookup h)))
  obtain ⟨position', hdiffer', hp'⟩ :=
    exists_differs_of_mem hdesired.distinct hcurrent.distinct (Assoc.mem_of_lookup hd')
  have heq : d = d'.swap := hclear position position' d d'.swap hdiffer
    (DifferAt.swap hdiffer' hdesired hcurrent) hp hp'
  rw [hd', heq, Difference.swap_swap]

theorem DifferAt.position_ne_nil (h : DifferAt current desired position d) : position ≠ [] := by
  rintro rfl
  cases h with
  | changed plain _ => exact plain _ _ rfl rfl

/-- Without dots in the keys every path is clear. -/
theorem clear_of_dotless (hcurrent : Dotless (.object current)) (hdesired : Dotless (.object desired)) :
    Clear base current desired p := by
  intro position position' d d' hdiffer hdiffer' hp hp'
  have hdots : ∀ {position d}, DifferAt current desired position d →
      ∀ key ∈ position, '.' ∉ key.toList := fun hdiffer =>
    Differs.dotless hdiffer (.some hcurrent) (.some hdesired)
  obtain rfl := path_injective (hdots hdiffer) (hdots hdiffer') (DifferAt.position_ne_nil hdiffer)
    (DifferAt.position_ne_nil hdiffer') (hp.trans hp'.symm)
  exact Differs.unique hdiffer hdiffer'

end

end Differences

/-! ## Updates and drift -/

open Resource in
/-- An update is planned for a resource that stays exactly if its attributes are not the same. -/
theorem Plan.update_iff {wanted last : List Resource} {plan : Plan} {r d : Resource}
    (h : Plan.compute wanted last = .ok plan) (hstays : Stays wanted last r d) :
    (∃ c ∈ plan.changes, c.id = d.id ∧ c.action = .update) ↔
      Value.same (.object r.attributes) (.object d.attributes) = false := by
  obtain ⟨goal, recorded, hgoal, hrecorded, rfl, _⟩ := compute_inv h
  have hnodup := (Graph.Accepted.of_build hgoal).nodup
  have hlast := (Graph.Accepted.of_build hrecorded).nodup
  have hupdate : ∀ d' ∈ wanted, (applyOf recorded d').action = .update ↔
      ∃ r' d'', Stays wanted last r' d'' ∧ d''.id = (applyOf recorded d').id ∧
        Value.same (.object r'.attributes) (.object d''.attributes) = false :=
    fun d' hd' => applyOf_action_iff hnodup hrecorded hd' false
  constructor
  · rintro ⟨c, hc, hid, haction⟩
    rcases (mem_between_iff hgoal hrecorded).mp hc with ⟨r', _, _, hsides, _⟩ | ⟨d', hd', rfl⟩
    · rw [Change.action, hsides] at haction
      cases haction
    · obtain ⟨r', d'', hstays', hid', hsame⟩ := (hupdate d' hd').mp haction
      obtain ⟨rfl, rfl⟩ := hstays.unique hnodup hlast hstays' (hid'.trans hid)
      exact hsame
  · intro hsame
    refine ⟨applyOf recorded d,
      (mem_between_iff hgoal hrecorded).mpr (.inr ⟨d, hstays.desired, rfl⟩), applyOf_id _ _, ?_⟩
    exact (hupdate d hstays.desired).mpr ⟨r, d, hstays, (applyOf_id _ _).symm, hsame⟩

/-- A drift of a resource that was found is reported exactly if its attributes are not the same. -/
theorem detectDrift_iff {recorded : List Resource} {live : List (String × Option Resource)}
    {r found : Resource} (hnodup : (Resource.ids recorded).Nodup) (hr : r ∈ recorded)
    (hfound : Assoc.lookup r.id live = some (some found)) :
    (∃ report ∈ detectDrift recorded live, report.id = r.id) ↔
      Value.same (.object r.attributes) (.object found.attributes) = false := by
  have hof : (∃ report, DriftReport.of? live r = some report) ↔
      Value.same (.object r.attributes) (.object found.attributes) = false := by
    rw [← Bool.not_eq_true, ← differences_eq_nil_iff "" r.attributes found.attributes]
    simp only [DriftReport.of?, hfound]
    split <;> simp_all
  have hid : ∀ r' report, DriftReport.of? live r' = some report → report.id = r'.id := by
    intro r' report hreport
    rw [DriftReport.of?] at hreport
    split at hreport
    · cases hreport
    · cases hreport; rfl
    · simp only at hreport
      split at hreport <;> cases hreport
      rfl
  rw [← hof]
  constructor
  · rintro ⟨report, hmem, hreport⟩
    obtain ⟨r', hr', hreport'⟩ := List.mem_filterMap.mp hmem
    obtain rfl := Resource.eq_of_id_eq hnodup hr' hr ((hid r' report hreport').symm.trans hreport)
    exact ⟨report, hreport'⟩
  · rintro ⟨report, hreport⟩
    exact ⟨report, List.mem_filterMap.mpr ⟨r, hr, hreport⟩, hid r report hreport⟩

namespace Differences

/-! ## What differences decide -/

/-- What is decided by the differences of two objects of attributes. -/
structure Decided (current desired : Fields) : Prop where
  nil_iff : ∀ base, differences base current desired = [] ↔
    Value.same (.object current) (.object desired) = true
  keys_swap : ∀ base p, p ∈ Assoc.keys (differences base current desired) ↔
    p ∈ Assoc.keys (differences base desired current)
  /-- Where the positions that are written with a path agree, its entry has its values exchanged. -/
  lookup_swap : ∀ base p d, Clear base current desired p →
    Assoc.lookup p (differences base current desired) = some d →
    Assoc.lookup p (differences base desired current) = some d.swap
  clear : Dotless (.object current) → Dotless (.object desired) →
    ∀ base p, Clear base current desired p
  update_iff : ∀ wanted last plan r d, Plan.compute wanted last = .ok plan →
    Resource.Stays wanted last r d → r.attributes = current → d.attributes = desired →
    ((∃ c ∈ plan.changes, c.id = d.id ∧ c.action = .update) ↔
      Value.same (.object current) (.object desired) = false)
  drift_iff : ∀ recorded live r found, (Resource.ids recorded).Nodup → r ∈ recorded →
    Assoc.lookup r.id live = some (some found) → r.attributes = current →
    found.attributes = desired →
    ((∃ report ∈ detectDrift recorded live, report.id = r.id) ↔
      Value.same (.object current) (.object desired) = false)

/-- **Differences decide whether attributes are the same**, from either side: there are none exactly
if they are, exchanging the sides keeps the paths and exchanges the values of every clear entry, and
updates and drifts follow. -/
theorem differences_decide {current desired : Fields} (hcurrent : (Value.object current).Comparable)
    (hdesired : (Value.object desired).Comparable) : Decided current desired where
  nil_iff base := differences_eq_nil_iff base current desired
  keys_swap _ _ := ⟨mem_keys_swap hcurrent hdesired, mem_keys_swap hdesired hcurrent⟩
  lookup_swap _ _ _ := lookup_swap hcurrent hdesired
  clear hcurrent hdesired _ _ := clear_of_dotless hcurrent hdesired
  update_iff wanted last plan r d h hstays hr hd := by
    subst hr hd
    exact Plan.update_iff h hstays
  drift_iff recorded live r found hnodup hmem hfound hr hd := by
    subst hr hd
    exact detectDrift_iff hnodup hmem hfound

/-! ## Clear and colliding paths

A workload whose label changes and whose number of replicas is written in another way.  And a
workload that has a tier twice, as a key and as a key with a dot: the two positions share a path, and
the entry that is written last stands. -/

namespace Workload

def recorded : Fields := [("replicas", .int 1), ("labels", .object [("app", .str "web")])]

def desired : Fields :=
  [("labels", .object [("app", .str "api")]), ("replicas", .double (.finite false 1 0))]

theorem comparable_recorded : (Value.object recorded).Comparable := by
  simp [recorded, Value.Comparable, Value.ComparableFields]

theorem comparable_desired : (Value.object desired).Comparable := by
  simp [desired, Value.Comparable, Value.ComparableFields]

theorem differences_eq :
    differences "" recorded desired = [("labels.app", ⟨.str "web", .str "api"⟩)] := by decide

end Workload

/-- The label of a workload changes, its number of replicas stays. -/
theorem differences_decide_workload :
    (Value.object Workload.recorded).Comparable ∧ (Value.object Workload.desired).Comparable ∧
      Decided Workload.recorded Workload.desired ∧
      differences "" Workload.recorded Workload.desired =
        [("labels.app", ⟨.str "web", .str "api"⟩)] :=
  ⟨Workload.comparable_recorded, Workload.comparable_desired,
    differences_decide Workload.comparable_recorded Workload.comparable_desired, Workload.differences_eq⟩

namespace Tier

def recorded : Fields := [("app", .object [("tier", .int 2)]), ("app.tier", .int 3)]

def desired : Fields := [("app.tier", .int 1), ("app", .object [("tier", .int 1)])]

end Tier

/-- The tier is 3 and should be 1, but seen from the other side it is 1 and should be 2. -/
theorem lookup_swap_collides :
    (Value.object Tier.recorded).Comparable ∧ (Value.object Tier.desired).Comparable ∧
      Assoc.lookup "app.tier" (differences "" Tier.recorded Tier.desired) =
        some ⟨.int 3, .int 1⟩ ∧
      Assoc.lookup "app.tier" (differences "" Tier.desired Tier.recorded) ≠
        some (Difference.swap ⟨.int 3, .int 1⟩) := by
  refine ⟨?_, ?_, by decide, by decide⟩
  · simp [Tier.recorded, Value.Comparable, Value.ComparableFields]
  · simp [Tier.desired, Value.Comparable, Value.ComparableFields]

end Differences

end Rollout
