import Rollout.Plan.Difference
import Rollout.Proofs.Value.Same

/-!
# Objects without differences

* `differences_eq_nil_iff` : two objects have no differences exactly if they are the same.
-/

set_option autoImplicit false

namespace Rollout

namespace Differences

theorem ofMissing_eq_nil_iff (base : String) (current : Fields) : ∀ desired : Fields,
    ofMissing base current desired = [] ↔ ∀ key ∈ Assoc.keys desired, key ∈ Assoc.keys current
  | [] => by simp [ofMissing]
  | (key, value) :: rest => by
    have hhas : Assoc.has key current = true ↔ key ∈ Assoc.keys current := by
      rw [← not_iff_not, Bool.not_eq_true, Assoc.has, Option.isSome_eq_false_iff,
        Option.isNone_iff_eq_none, Assoc.lookup_eq_none_iff]
    rw [ofMissing, Assoc.keys_cons, List.forall_mem_cons]
    split
    · rename_i h
      rw [ofMissing_eq_nil_iff base current rest, and_iff_right (hhas.mp h)]
    · rename_i h
      rw [Assoc.overlay_eq_nil_iff]
      exact iff_of_false (fun hnil => absurd hnil.1 (List.cons_ne_nil _ _)) fun hall =>
        h (hhas.mpr hall.1)

/-- Values that are not both objects are compared as a whole. -/
theorem ofValues_plain {a b : Value} (h : ∀ l r, a = .object l → b ≠ .object r) (path : String) :
    ofValues path a b = [] ↔ a.same b = true := by
  rw [ofValues]
  · split <;> simp_all
  · exact h

mutual

theorem ofValues_eq_nil_iff : ∀ (path : String) (a b : Value),
    ofValues path a b = [] ↔ a.same b = true
  | path, .object current, b => by
    cases b with
    | object desired =>
      rw [ofValues, Assoc.overlay_eq_nil_iff, ofCurrent_eq_nil_iff, ofMissing_eq_nil_iff,
        Value.same_object_iff]
    | _ => exact ofValues_plain (fun _ _ _ => Value.noConfusion) path
  | path, .null, b | path, .bool _, b | path, .int _, b | path, .double _, b | path, .str _, b
  | path, .list _, b => ofValues_plain (fun _ _ h => Value.noConfusion h) path

theorem ofCurrent_eq_nil_iff : ∀ (base : String) (current desired : List (String × Value)),
    ofCurrent base current desired = [] ↔
      ∀ key a, (key, a) ∈ current →
        ∃ b, Assoc.lookup key desired = some b ∧ a.same b = true
  | base, [], desired => by simp [ofCurrent]
  | base, (key, value) :: rest, desired => by
    rw [ofCurrent, Assoc.overlay_eq_nil_iff, ofCurrent_eq_nil_iff base rest desired]
    rw [Assoc.forall_entry_cons]
    refine and_congr_left fun _ => ?_
    cases Assoc.lookup key desired with
    | none => simp
    | some b => simp [ofValues_eq_nil_iff (base ++ key) value b]

end

end Differences

/-- **Two objects have no differences exactly if they are the same.** -/
theorem differences_eq_nil_iff (base : String) (current desired : Fields) :
    differences base current desired = [] ↔
      Value.same (.object current) (.object desired) = true := by
  rw [differences, Assoc.overlay_eq_nil_iff, Differences.ofCurrent_eq_nil_iff,
    Differences.ofMissing_eq_nil_iff, Value.same_object_iff]

end Rollout
