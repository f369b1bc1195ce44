import Mathlib.Algebra.Field.Rat
import Rollout.Proofs.Value.Reordered

/-!
# What being the same means

`Value.same` decides equality of JSON values.  Stated without its recursion:

* `Value.rational?` : the rational number a value is; equal numbers are equal rationals, whatever
  their size and however they are written;
* `Value.IsEquality` : the laws of equality of JSON values;
* `Value.same_isEquality` : sameness obeys them all.
-/

set_option autoImplicit false

namespace Rollout

/-! ## Numbers as rationals -/

namespace Double

/-- The rational number a double is; none for an infinity or a NaN. -/
def rational? : Double → Option ℚ
  | .finite negative m q => some ((signed negative m : ℚ) * 2 ^ q)
  | _ => none

end Double

namespace Value

/-- The rational number a value is; none for an infinity, and for what is no number. -/
def rational? : Value → Option ℚ
  | .int i => some (i : ℚ)
  | .double x => x.rational?
  | _ => none

/-- The rational number of a value is that of its dyadic. -/
theorem rational?_eq_some_iff {a : Value} {x : ℚ} :
    a.rational? = some x ↔ ∃ d, a.number? = some (.finite d) ∧ d.toRat = x := by
  cases a with
  | int i =>
    simp [rational?, number?, Exact.ofInt, Dyadic.toRat_ofIntWithPrec_eq_mul_two_pow]
  | double y =>
    cases y <;>
      simp [rational?, Double.rational?, number?, Double.number?,
        Dyadic.toRat_ofIntWithPrec_eq_mul_two_pow]
  | _ => simp [rational?, number?]

/-- Numbers are the same as numbers only. -/
theorem same_eq_sameNumber {a : Value} {x : ℚ} (ha : a.rational? = some x) (b : Value) :
    same a b = sameNumber a b := by
  cases a with
  | int i => exact same_int i b
  | double y => exact same_double y b
  | _ => cases ha

/-- **A number is the same as exactly the values that are the same rational number.** -/
theorem same_iff_rational? {a b : Value} {x : ℚ} (ha : a.rational? = some x) :
    same a b = true ↔ b.rational? = some x := by
  rw [same_eq_sameNumber ha, sameNumber_iff, rational?_eq_some_iff]
  obtain ⟨d, hd, rfl⟩ := rational?_eq_some_iff.mp ha
  constructor
  · rintro ⟨n, hn, hb⟩
    rw [hd] at hn
    cases hn
    exact ⟨d, hb, rfl⟩
  · rintro ⟨e, hb, he⟩
    rw [Dyadic.toRat_inj.mp he] at hb
    exact ⟨_, hd, hb⟩

/-! ## Lists and objects -/

theorem sameList_iff : ∀ {l r : List Value},
    sameList l r = true ↔ List.Forall₂ (fun a b => same a b = true) l r
  | [], [] => by simp [sameList]
  | [], _ :: _ | _ :: _, [] => by simp [sameList]
  | a :: l, b :: r => by
    rw [sameList, Bool.and_eq_true, sameList_iff, List.forall₂_cons]

/-- What is the same as a list is a list of the same length, with the same items in the same
places. -/
theorem same_list_iff {l : List Value} {b : Value} : same (.list l) b = true ↔
    ∃ r, b = .list r ∧ l.length = r.length ∧
      ∀ (i : Nat) (hl : i < l.length) (hr : i < r.length), same l[i] r[i] = true := by
  cases b with
  | list r =>
    rw [same, sameList_iff, List.forall₂_iff_get]
    simp
  | _ => simp [same, sameNumber, number?]

/-- What is the same as an object is an object with the same keys, and the same value for each. -/
theorem same_object_iff_keys {l : Fields} {b : Value} (hl : (Assoc.keys l).Nodup) :
    same (.object l) b = true ↔
      ∃ r, b = .object r ∧ (∀ key, key ∈ Assoc.keys l ↔ key ∈ Assoc.keys r) ∧
        ∀ key u v, Assoc.lookup key l = some u → Assoc.lookup key r = some v →
          same u v = true := by
  cases b with
  | object r =>
    rw [same_object_iff]
    constructor
    · rintro ⟨hlike, hkeys⟩
      refine ⟨r, rfl, fun key => ⟨fun hkey => ?_, hkeys key⟩, fun key u v hu hv => ?_⟩
      · obtain ⟨u, hu⟩ := Assoc.mem_keys_iff.mp hkey
        obtain ⟨v, hv, -⟩ := hlike key u (Assoc.mem_of_lookup hu)
        exact Assoc.mem_keys_iff.mpr ⟨v, hv⟩
      · obtain ⟨v', hv', hsame⟩ := hlike key u (Assoc.mem_of_lookup hu)
        rw [hv] at hv'
        cases hv'
        exact hsame
    · rintro ⟨r', hr', hkeys, hvalues⟩
      cases hr'
      refine ⟨fun key u hu => ?_, fun key hkey => (hkeys key).mpr hkey⟩
      obtain ⟨v, hv⟩ := Assoc.mem_keys_iff.mp ((hkeys key).mp (Assoc.mem_keys hu))
      exact ⟨v, hv, hvalues key u v ((Assoc.lookup_eq_some_iff hl).mpr hu) hv⟩
  | _ => simp [same, sameNumber, number?]

/-! ## The laws of equality -/

/-- Equality of JSON values, for values without a repeated key or a NaN in them. -/
structure IsEquality (eq : Value → Value → Bool) : Prop where
  refl : ∀ a, a.Comparable → eq a a = true
  symm : ∀ a b, a.Comparable → b.Comparable → eq a b = true → eq b a = true
  trans : ∀ a b c, a.Comparable → b.Comparable → c.Comparable →
    eq a b = true → eq b c = true → eq a c = true
  /-- The order of keys does not count, at any depth. -/
  reordered : ∀ a a' b b', a.Comparable → b.Comparable → Reordered a a' → Reordered b b' →
    eq a b = eq a' b'
  /-- Lists are equal if they are as long, and equal item by item. -/
  list : ∀ l b, eq (.list l) b = true ↔
    ∃ r, b = .list r ∧ l.length = r.length ∧
      ∀ (i : Nat) (hl : i < l.length) (hr : i < r.length), eq l[i] r[i] = true
  /-- Objects are equal if they have the same keys, and equal values for each of them. -/
  object : ∀ l b, (Value.object l).Comparable → (eq (.object l) b = true ↔
    ∃ r, b = .object r ∧ (∀ key, key ∈ Assoc.keys l ↔ key ∈ Assoc.keys r) ∧
      ∀ key u v, Assoc.lookup key l = some u → Assoc.lookup key r = some v → eq u v = true)
  /-- A boolean equals itself, and nothing that is no boolean. -/
  bool : ∀ x b, (eq (.bool x) b = true ↔ b = .bool x) ∧ (eq b (.bool x) = true ↔ b = .bool x)
  /-- A number equals what is exactly the same number. -/
  number : ∀ a b x, a.rational? = some x → (eq a b = true ↔ b.rational? = some x)
  int_double : ∀ i x, eq (.int i) (.double x) = true ↔ x.rational? = some (i : ℚ)

theorem eq_of_same_bool_right {a : Value} {x : Bool} (h : same a (.bool x) = true) :
    a = .bool x := by
  cases a <;> simp [same, sameNumber, number?] at h ⊢
  exact h

/-- **Sameness is equality of JSON values**: an equivalence that reads neither the order of keys
nor the way a number is written, goes through lists and objects, and keeps booleans apart from
numbers. -/
theorem same_isEquality : IsEquality same where
  refl := same_self
  symm a b _ hb := same_symm a b hb
  trans a b c _ _ _ := same_trans a b c
  reordered _ _ _ _ _ hb haa hbb := haa.same_eq hbb hb.distinct
  list _ _ := same_list_iff
  object _ _ hl := same_object_iff_keys hl.1
  bool x b := by
    have hself : same (.bool x) (.bool x) = true := same_self _ trivial
    exact ⟨⟨eq_of_same_bool, fun h => h ▸ hself⟩, ⟨eq_of_same_bool_right, fun h => h ▸ hself⟩⟩
  number _ _ _ ha := same_iff_rational? ha
  int_double _ _ := same_iff_rational? rfl

/-- Beyond 2⁵³ not every integer is a double: the next one is not the same as the double it would
be rounded to. -/
example : same (.int 9007199254740993) (.double (.finite false 9007199254740992 0)) = false := by
  decide

end Value

end Rollout
