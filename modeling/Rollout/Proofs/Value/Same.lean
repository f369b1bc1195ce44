import Rollout.Proofs.Assoc
import Rollout.Value.Same

/-!
# Sameness of values

* `Value.Comparable` : no object has a key twice, and no number is a NaN;
* `Value.same_self`, `Value.same_symm`, `Value.same_trans` : on such values, being the same is an
  equivalence.
-/

set_option autoImplicit false

namespace Rollout.Value

mutual

/-- No object, at any depth, has a key twice, and no number is a NaN. -/
def Comparable : Value → Prop
  | .double x => x ≠ .nan
  | .list items => ComparableList items
  | .object fields => (Assoc.keys fields).Nodup ∧ ComparableFields fields
  | _ => True

/-- Each of the values can be compared. -/
def ComparableList : List Value → Prop
  | [] => True
  | v :: rest => Comparable v ∧ ComparableList rest

/-- Each of the entries' values can be compared. -/
def ComparableFields : List (String × Value) → Prop
  | [] => True
  | (_, v) :: rest => Comparable v ∧ ComparableFields rest

end

theorem comparableFields_iff : ∀ {fields : Fields},
    ComparableFields fields ↔ ∀ key v, (key, v) ∈ fields → Comparable v
  | [] => by simp [ComparableFields]
  | (k, v) :: rest => by
    rw [ComparableFields, comparableFields_iff, Assoc.forall_entry_cons]

theorem distinctFields_iff : ∀ {fields : Fields},
    DistinctFields fields ↔ ∀ key v, (key, v) ∈ fields → Distinct v
  | [] => by simp [DistinctFields]
  | (k, v) :: rest => by
    rw [DistinctFields, distinctFields_iff, Assoc.forall_entry_cons]

mutual

theorem Comparable.distinct : ∀ {a : Value}, a.Comparable → a.Distinct
  | .list _, h => ComparableList.distinct h
  | .object _, h => ⟨h.1, ComparableFields.distinct h.2⟩
  | .null, _ | .bool _, _ | .int _, _ | .double _, _ | .str _, _ => trivial

theorem ComparableList.distinct : ∀ {items : List Value}, ComparableList items → DistinctList items
  | [], _ => trivial
  | _ :: _, h => ⟨Comparable.distinct h.1, ComparableList.distinct h.2⟩

theorem ComparableFields.distinct : ∀ {fields : List (String × Value)}, ComparableFields fields →
    DistinctFields fields
  | [], _ => trivial
  | _ :: _, h => ⟨Comparable.distinct h.1, ComparableFields.distinct h.2⟩

end

/-! ## Numbers -/

theorem sameNumber_iff {a b : Value} :
    sameNumber a b = true ↔ ∃ n, a.number? = some n ∧ b.number? = some n := by
  unfold sameNumber
  cases ha : a.number? with
  | none => simp
  | some m =>
    cases hb : b.number? with
    | none => simp
    | some n => simp [eq_comm]

theorem sameNumber_symm {a b : Value} (h : sameNumber a b = true) : sameNumber b a = true := by
  obtain ⟨n, ha, hb⟩ := sameNumber_iff.mp h
  exact sameNumber_iff.mpr ⟨n, hb, ha⟩

theorem sameNumber_trans {a b c : Value} (hab : sameNumber a b = true)
    (hbc : sameNumber b c = true) : sameNumber a c = true := by
  obtain ⟨n, ha, hb⟩ := sameNumber_iff.mp hab
  obtain ⟨m, hb', hc⟩ := sameNumber_iff.mp hbc
  rw [hb] at hb'
  cases hb'
  exact sameNumber_iff.mpr ⟨n, ha, hc⟩

theorem same_of_sameNumber {a b : Value} (h : sameNumber a b = true) : same a b = true := by
  cases a <;> cases b <;> first | exact h | simp [sameNumber, number?] at h

theorem same_int (i : Int) (b : Value) : same (.int i) b = sameNumber (.int i) b := by
  cases b <;> rfl

theorem same_double (x : Double) (b : Value) : same (.double x) b = sameNumber (.double x) b := by
  cases b <;> rfl

/-- What is the same as a number is a number. -/
theorem sameNumber_of_same {a b c : Value} (hab : sameNumber a b = true) (hbc : same b c = true) :
    sameNumber b c = true := by
  cases b with
  | int i => rwa [same_int] at hbc
  | double x => rwa [same_double] at hbc
  | _ => cases a <;> simp [sameNumber, number?] at hab

/-! ## Other plain values -/

theorem eq_of_same_null {b : Value} (h : same .null b = true) : b = .null := by
  cases b <;> simp [same, sameNumber, number?] at h ⊢

theorem eq_of_same_bool {x : Bool} {b : Value} (h : same (.bool x) b = true) : b = .bool x := by
  cases b <;> simp [same, sameNumber, number?] at h ⊢
  exact h.symm

theorem eq_of_same_str {x : String} {b : Value} (h : same (.str x) b = true) : b = .str x := by
  cases b <;> simp [same, sameNumber, number?] at h ⊢
  exact h.symm

/-! ## Objects -/

theorem sameFields_iff : ∀ {l r : Fields}, sameFields l r = true ↔
    ∀ key a, (key, a) ∈ l → ∃ b, Assoc.lookup key r = some b ∧ same a b = true
  | [], r => by simp [sameFields]
  | (k, v) :: rest, r => by
    rw [sameFields, Bool.and_eq_true, sameFields_iff, Assoc.forall_entry_cons]
    refine and_congr_left fun _ => ?_
    cases Assoc.lookup k r <;> simp

/-- **Two objects are the same** exactly if each entry of the one has its like in the other, and the
other has no further keys. -/
theorem same_object_iff {l r : Fields} : same (.object l) (.object r) = true ↔
    (∀ key a, (key, a) ∈ l → ∃ b, Assoc.lookup key r = some b ∧ same a b = true) ∧
      ∀ key ∈ Assoc.keys r, key ∈ Assoc.keys l := by
  simp [same, sameFields_iff]

/-! ## An equivalence -/

mutual

theorem same_self : ∀ a : Value, a.Comparable → same a a = true
  | .null, _ => rfl
  | .bool b, _ => by simp [same]
  | .str s, _ => by simp [same]
  | .int i, _ => same_of_sameNumber (sameNumber_iff.mpr ⟨_, rfl, rfl⟩)
  | .double x, h => by
    refine same_of_sameNumber (sameNumber_iff.mpr ?_)
    cases x with
    | nan => exact absurd rfl h
    | finite negative m q => exact ⟨_, rfl, rfl⟩
    | infinite negative => exact ⟨_, rfl, rfl⟩
  | .list items, h => by
    rw [same]
    exact sameList_self items h
  | .object fields, h => by
    refine same_object_iff.mpr ⟨fun key a ha => ⟨a, ?_, ?_⟩, fun _ hkey => hkey⟩
    · exact (Assoc.lookup_eq_some_iff h.1).mpr ha
    · exact same_self_of_mem fields h.2 key a ha

theorem sameList_self : ∀ items : List Value, ComparableList items → sameList items items = true
  | [], _ => rfl
  | a :: rest, h => by
    rw [sameList, same_self a h.1, sameList_self rest h.2]
    rfl

theorem same_self_of_mem : ∀ fields : List (String × Value), ComparableFields fields →
    ∀ key a, (key, a) ∈ fields → same a a = true
  | [], _, _, _, ha => by cases ha
  | (k, v) :: rest, h, key, a, ha => by
    rcases List.mem_cons.mp ha with ha | ha
    · rw [(Prod.mk.inj ha).2]
      exact same_self v h.1
    · exact same_self_of_mem rest h.2 key a ha

end

mutual

theorem same_symm : ∀ a b : Value, b.Comparable → same a b = true → same b a = true
  | .null, b, _, h => by
    rw [eq_of_same_null h]
    rfl
  | .bool _, b, _, h => by
    obtain rfl := eq_of_same_bool h
    exact h
  | .str _, b, _, h => by
    obtain rfl := eq_of_same_str h
    exact h
  | .int i, b, _, h => by
    rw [same_int] at h
    exact same_of_sameNumber (sameNumber_symm h)
  | .double x, b, _, h => by
    rw [same_double] at h
    exact same_of_sameNumber (sameNumber_symm h)
  | .list l, b, hb, h => by
    cases b with
    | list r =>
      rw [same] at h ⊢
      exact sameList_symm l r hb h
    | _ => simp [same, sameNumber, number?] at h
  | .object l, b, hb, h => by
    cases b with
    | object r =>
      obtain ⟨hlr, hkeys⟩ := same_object_iff.mp h
      refine same_object_iff.mpr ⟨fun key b hmem => ?_, fun key hkey => ?_⟩
      · -- the first entry of `l` with this key has its like in `r`, where the key has one entry only
        obtain ⟨a, ha⟩ := Option.ne_none_iff_exists'.mp
          (mt Assoc.lookup_eq_none_iff.mp (not_not_intro (hkeys key (Assoc.mem_keys hmem))))
        obtain ⟨b', hb', hsame⟩ := hlr key a (Assoc.mem_of_lookup ha)
        rw [(Assoc.lookup_eq_some_iff hb.1).mpr hmem] at hb'
        cases hb'
        exact ⟨a, ha, same_symm_of_mem l b (comparableFields_iff.mp hb.2 key b hmem) key a
          (Assoc.mem_of_lookup ha) hsame⟩
      · obtain ⟨⟨_, a⟩, ha, rfl⟩ := List.mem_map.mp hkey
        obtain ⟨b', hb', -⟩ := hlr _ a ha
        exact Assoc.mem_keys (Assoc.mem_of_lookup hb')
    | _ => simp [same, sameNumber, number?] at h

theorem sameList_symm : ∀ l r : List Value, ComparableList r → sameList l r = true →
    sameList r l = true
  | [], [], _, _ => rfl
  | [], _ :: _, _, h | _ :: _, [], _, h => by simp [sameList] at h
  | a :: l, b :: r, hb, h => by
    rw [sameList, Bool.and_eq_true] at h ⊢
    exact ⟨same_symm a b hb.1 h.1, sameList_symm l r hb.2 h.2⟩

theorem same_symm_of_mem : ∀ (l : List (String × Value)) (b : Value), b.Comparable →
    ∀ key a, (key, a) ∈ l → same a b = true → same b a = true
  | [], _, _, _, _, ha, _ => by cases ha
  | (k, v) :: rest, b, hb, key, a, ha, h => by
    rcases List.mem_cons.mp ha with ha | ha
    · rw [(Prod.mk.inj ha).2] at h ⊢
      exact same_symm v b hb h
    · exact same_symm_of_mem rest b hb key a ha h

end

/-- Of values that can be compared, both sides may change places. -/
theorem same_comm {a b : Value} (ha : a.Comparable) (hb : b.Comparable) : same a b = same b a :=
  Bool.eq_iff_iff.mpr ⟨same_symm a b hb, same_symm b a ha⟩

mutual

theorem same_trans : ∀ a b c : Value, same a b = true → same b c = true → same a c = true
  | .null, b, c, hab, hbc => by rwa [eq_of_same_null hab] at hbc
  | .bool _, b, c, hab, hbc => by rwa [eq_of_same_bool hab] at hbc
  | .str _, b, c, hab, hbc => by rwa [eq_of_same_str hab] at hbc
  | .int i, b, c, hab, hbc => by
    rw [same_int] at hab
    exact same_of_sameNumber (sameNumber_trans hab (sameNumber_of_same hab hbc))
  | .double x, b, c, hab, hbc => by
    rw [same_double] at hab
    exact same_of_sameNumber (sameNumber_trans hab (sameNumber_of_same hab hbc))
  | .list l, b, c, hab, hbc => by
    cases b with
    | list m =>
      cases c with
      | list r =>
        rw [same] at hab hbc ⊢
        exact sameList_trans l m r hab hbc
      | _ => simp [same, sameNumber, number?] at hbc
    | _ => simp [same, sameNumber, number?] at hab
  | .object l, b, c, hab, hbc => by
    cases b with
    | object m =>
      cases c with
      | object r =>
        obtain ⟨hlm, hkeys⟩ := same_object_iff.mp hab
        obtain ⟨hmr, hkeys'⟩ := same_object_iff.mp hbc
        refine same_object_iff.mpr ⟨fun key a ha => ?_, fun key hkey =>
          hkeys key (hkeys' key hkey)⟩
        obtain ⟨b, hb, hsame⟩ := hlm key a ha
        obtain ⟨c, hc, hsame'⟩ := hmr key b (Assoc.mem_of_lookup hb)
        exact ⟨c, hc, same_trans_of_mem l b c key a ha hsame hsame'⟩
      | _ => simp [same, sameNumber, number?] at hbc
    | _ => simp [same, sameNumber, number?] at hab

theorem sameList_trans : ∀ l m r : List Value, sameList l m = true → sameList m r = true →
    sameList l r = true
  | [], [], [], _, _ => rfl
  | [], _ :: _, _, hab, _ | _ :: _, [], _, hab, _ => by simp [sameList] at hab
  | [], [], _ :: _, _, hbc | _ :: _, _ :: _, [], _, hbc => by simp [sameList] at hbc
  | a :: l, b :: m, c :: r, hab, hbc => by
    rw [sameList, Bool.and_eq_true] at hab hbc ⊢
    exact ⟨same_trans a b c hab.1 hbc.1, sameList_trans l m r hab.2 hbc.2⟩

theorem same_trans_of_mem : ∀ (l : List (String × Value)) (b c : Value) (key : String) (a : Value),
    (key, a) ∈ l → same a b = true → same b c = true → same a c = true
  | [], _, _, _, _, ha, _, _ => by cases ha
  | (k, v) :: rest, b, c, key, a, ha, hab, hbc => by
    rcases List.mem_cons.mp ha with ha | ha
    · rw [(Prod.mk.inj ha).2] at hab ⊢
      exact same_trans v b c hab hbc
    · exact same_trans_of_mem rest b c key a ha hab hbc

end

end Rollout.Value
