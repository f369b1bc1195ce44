import Rollout.Proofs.Value.Same
import Rollout.Value.Dumped

/-!
# Values that records can hold

* `Value.Finite` : every number is finite;
* `Value.dumped_eq_self_iff` : these are the values that records hold as they are;
* `Value.dumped_finite`, `Value.dumped_dumped` : what a record holds is such a value;
* `Value.same_dumped` : records hold values that are the same as values that are the same.
-/

set_option autoImplicit false

namespace Rollout.Value

mutual

/-- Every number, at any depth, is finite. -/
def Finite : Value → Prop
  | .double x => x.isFinite = true
  | .list items => FiniteList items
  | .object fields => FiniteFields fields
  | _ => True

/-- Every number in the values is finite. -/
def FiniteList : List Value → Prop
  | [] => True
  | v :: rest => Finite v ∧ FiniteList rest

/-- Every number in the entries' values is finite. -/
def FiniteFields : List (String × Value) → Prop
  | [] => True
  | (_, v) :: rest => Finite v ∧ FiniteFields rest

end

theorem finiteList_iff {items : List Value} : FiniteList items ↔ ∀ v ∈ items, v.Finite := by
  induction items with
  | nil => simp [FiniteList]
  | cons v rest ih => rw [FiniteList, ih, List.forall_mem_cons]

theorem finiteFields_iff {fields : Fields} :
    FiniteFields fields ↔ ∀ key v, (key, v) ∈ fields → v.Finite := by
  induction fields with
  | nil => simp [FiniteFields]
  | cons entry rest ih =>
    obtain ⟨k, v⟩ := entry
    rw [FiniteFields, ih, Assoc.forall_entry_cons]

/-! ## What records hold -/

mutual

theorem dumped_finite : ∀ v : Value, v.dumped.Finite
  | .double x => by
    unfold dumped
    split
    · rename_i h
      exact h
    · trivial
  | .list items => dumpedList_finite items
  | .object fields => dumpedFields_finite fields
  | .null | .bool _ | .int _ | .str _ => trivial

theorem dumpedList_finite : ∀ items : List Value, FiniteList (dumpedList items)
  | [] => trivial
  | v :: rest => ⟨dumped_finite v, dumpedList_finite rest⟩

theorem dumpedFields_finite : ∀ fields : List (String × Value), FiniteFields (dumpedFields fields)
  | [] => trivial
  | (_, v) :: rest => ⟨dumped_finite v, dumpedFields_finite rest⟩

end

mutual

theorem Finite.dumped_eq : ∀ {v : Value}, v.Finite → v.dumped = v
  | .double _, h => if_pos h
  | .list _, h => congrArg Value.list (FiniteList.dumped_eq h)
  | .object _, h => congrArg Value.object (FiniteFields.dumped_eq h)
  | .null, _ | .bool _, _ | .int _, _ | .str _, _ => rfl

theorem FiniteList.dumped_eq : ∀ {items : List Value}, FiniteList items → dumpedList items = items
  | [], _ => rfl
  | _ :: _, h => by rw [dumpedList, Finite.dumped_eq h.1, FiniteList.dumped_eq h.2]

theorem FiniteFields.dumped_eq : ∀ {fields : List (String × Value)}, FiniteFields fields →
    dumpedFields fields = fields
  | [], _ => rfl
  | (_, _) :: _, h => by rw [dumpedFields, Finite.dumped_eq h.1, FiniteFields.dumped_eq h.2]

end

/-- **Records hold the values that are finite, and no others, as they are.** -/
theorem dumped_eq_self_iff {v : Value} : v.dumped = v ↔ v.Finite :=
  ⟨fun h => h ▸ dumped_finite v, Finite.dumped_eq⟩

theorem dumpedFields_eq_self_iff {fields : Fields} :
    dumpedFields fields = fields ↔ FiniteFields fields :=
  ⟨fun h => h ▸ dumpedFields_finite fields, FiniteFields.dumped_eq⟩

@[simp]
theorem dumped_dumped (v : Value) : v.dumped.dumped = v.dumped := (dumped_finite v).dumped_eq

@[simp]
theorem dumpedFields_dumpedFields (fields : Fields) :
    dumpedFields (dumpedFields fields) = dumpedFields fields :=
  (dumpedFields_finite fields).dumped_eq

/-! ## Entries -/

@[simp]
theorem keys_dumpedFields : ∀ fields : Fields, Assoc.keys (dumpedFields fields) = Assoc.keys fields
  | [] => rfl
  | (key, _) :: rest => congrArg (key :: ·) (keys_dumpedFields rest)

theorem mem_dumpedFields {key : String} {v : Value} : ∀ {fields : Fields},
    (key, v) ∈ dumpedFields fields ↔ ∃ a, (key, a) ∈ fields ∧ a.dumped = v
  | [] => by simp [dumpedFields]
  | (k, a) :: rest => by
    simp only [dumpedFields, List.mem_cons, Prod.mk.injEq, mem_dumpedFields, or_and_right, exists_or,
      and_assoc, exists_and_left, exists_eq_left]
    rw [eq_comm (a := v)]

theorem lookup_dumpedFields (key : String) : ∀ fields : Fields,
    Assoc.lookup key (dumpedFields fields) = (Assoc.lookup key fields).map dumped
  | [] => rfl
  | (k, a) :: rest => by
    simp only [dumpedFields, Assoc.lookup]
    split
    · rfl
    · exact lookup_dumpedFields key rest

theorem FiniteFields.of_lookup {fields : Fields} (h : FiniteFields fields) {key : String} {v : Value}
    (hv : Assoc.lookup key fields = some v) : v.Finite :=
  finiteFields_iff.mp h key v (Assoc.mem_of_lookup hv)

theorem FiniteFields.erase {fields : Fields} (h : FiniteFields fields) (key : String) :
    FiniteFields (Assoc.erase key fields) :=
  finiteFields_iff.mpr fun k v hv => finiteFields_iff.mp h k v (List.mem_of_mem_filter hv)

/-! ## Equality -/

/-- Of two numbers that are the same, both are finite or none is. -/
theorem finite_iff_of_sameNumber {a b : Value} (h : sameNumber a b = true) : a.Finite ↔ b.Finite := by
  obtain ⟨n, ha, hb⟩ := sameNumber_iff.mp h
  have hfinite : ∀ {v : Value}, v.number? = some n → (v.Finite ↔ ∃ value, n = .finite value) := by
    intro v hv
    cases v with
    | int i =>
      cases hv
      exact iff_of_true trivial ⟨_, rfl⟩
    | double x => cases x <;> cases hv <;> simp [Finite, Double.isFinite]
    | _ => cases hv
  rw [hfinite ha, hfinite hb]

/-- A number that is not finite is written as null. -/
theorem dumped_of_not_finite {v : Value} (hnumber : v.number? ≠ none) (h : ¬ v.Finite) :
    v.dumped = .null := by
  cases v with
  | double x => exact if_neg h
  | int i => exact absurd trivial h
  | _ => exact absurd rfl hnumber

theorem same_dumped_of_sameNumber {a b : Value} (h : sameNumber a b = true) :
    same a.dumped b.dumped = true := by
  by_cases ha : a.Finite
  · rw [ha.dumped_eq, ((finite_iff_of_sameNumber h).mp ha).dumped_eq]
    exact same_of_sameNumber h
  · obtain ⟨n, hna, hnb⟩ := sameNumber_iff.mp h
    rw [dumped_of_not_finite (by simp [hna]) ha,
      dumped_of_not_finite (by simp [hnb]) (mt (finite_iff_of_sameNumber h).mpr ha)]
    rfl

mutual

/-- **Values that are the same** are the same once they have been written. -/
theorem same_dumped : ∀ a b : Value, same a b = true → same a.dumped b.dumped = true
  | .null, b, h => by
    rw [eq_of_same_null h]
    rfl
  | .bool _, b, h => by
    rw [eq_of_same_bool h]
    simp [dumped, same]
  | .str _, b, h => by
    rw [eq_of_same_str h]
    simp [dumped, same]
  | .int i, b, h => by
    rw [same_int] at h
    exact same_dumped_of_sameNumber h
  | .double x, b, h => by
    rw [same_double] at h
    exact same_dumped_of_sameNumber h
  | .list l, b, h => by
    cases b with
    | list r =>
      rw [same] at h
      exact same_dumpedList l r h
    | _ => simp [same, sameNumber, number?] at h
  | .object l, b, h => by
    cases b with
    | object r =>
      obtain ⟨hlr, hkeys⟩ := same_object_iff.mp h
      simp only [dumped]
      refine same_object_iff.mpr ⟨fun key v hv => ?_, by simpa using hkeys⟩
      obtain ⟨a, ha, rfl⟩ := mem_dumpedFields.mp hv
      obtain ⟨b, hb, hsame⟩ := hlr key a ha
      rw [lookup_dumpedFields, hb]
      exact ⟨b.dumped, rfl, same_dumped_of_mem l b key a ha hsame⟩
    | _ => simp [same, sameNumber, number?] at h

theorem same_dumpedList : ∀ l r : List Value, sameList l r = true →
    sameList (dumpedList l) (dumpedList r) = true
  | [], [], _ => rfl
  | [], _ :: _, h | _ :: _, [], h => by simp [sameList] at h
  | a :: l, b :: r, h => by
    rw [sameList, Bool.and_eq_true] at h
    rw [dumpedList, dumpedList, sameList, same_dumped a b h.1, same_dumpedList l r h.2]
    rfl

theorem same_dumped_of_mem : ∀ (l : List (String × Value)) (b : Value) (key : String) (a : Value),
    (key, a) ∈ l → same a b = true → same a.dumped b.dumped = true
  | [], _, _, _, ha, _ => by cases ha
  | (k, v) :: rest, b, key, a, ha, h => by
    rcases List.mem_cons.mp ha with ha | ha
    · rw [(Prod.mk.inj ha).2] at h ⊢
      exact same_dumped v b h
    · exact same_dumped_of_mem rest b key a ha h

end

end Rollout.Value
