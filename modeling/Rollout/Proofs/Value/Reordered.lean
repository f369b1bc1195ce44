import Mathlib.Data.List.Perm.Basic
import Rollout.Proofs.Value.Same

/-!
# The order of keys

* `Value.Reordered` : a value whose objects list their keys in another order;
* `Value.Reordered.symm` : the order can be put back;
* `Value.Reordered.same_eq` : being the same does not read it.
-/

set_option autoImplicit false

namespace Rollout.Value

mutual

/-- A value again, the keys of its objects in any order at any depth. -/
inductive Reordered : Value → Value → Prop
  | refl (a : Value) : Reordered a a
  | list {l r : List Value} (items : ReorderedList l r) : Reordered (.list l) (.list r)
  | object {l m r : Fields} (entries : ReorderedFields l m) (perm : m.Perm r) :
      Reordered (.object l) (.object r)

/-- Values again, each with the keys of its objects in any order. -/
inductive ReorderedList : List Value → List Value → Prop
  | nil : ReorderedList [] []
  | cons {a b : Value} {l r : List Value} (head : Reordered a b) (tail : ReorderedList l r) :
      ReorderedList (a :: l) (b :: r)

/-- Entries again, in their order, each with the keys of its objects in any order. -/
inductive ReorderedFields : Fields → Fields → Prop
  | nil : ReorderedFields [] []
  | cons {a b : Value} {l r : Fields} (key : String) (head : Reordered a b)
      (tail : ReorderedFields l r) : ReorderedFields ((key, a) :: l) ((key, b) :: r)

end

theorem ReorderedFields.keys_eq : ∀ {l r : Fields}, ReorderedFields l r →
    Assoc.keys l = Assoc.keys r
  | _, _, .nil => rfl
  | _, _, .cons key _ tail => by rw [Assoc.keys_cons, Assoc.keys_cons, tail.keys_eq]

theorem reorderedFields_iff : ∀ {l r : Fields},
    ReorderedFields l r ↔ List.Forall₂ (fun a b => a.1 = b.1 ∧ Reordered a.2 b.2) l r
  | [], [] => ⟨fun _ => .nil, fun _ => .nil⟩
  | [], _ :: _ | _ :: _, [] => ⟨nofun, nofun⟩
  | (j, a) :: l, (k, b) :: r => by
    rw [List.forall₂_cons, ← reorderedFields_iff]
    constructor
    · intro h
      cases h with
      | cons _ head tail => exact ⟨⟨rfl, head⟩, tail⟩
    · rintro ⟨⟨rfl, head⟩, tail⟩
      exact .cons j head tail

mutual

/-- What was reordered is put back. -/
theorem Reordered.symm : ∀ {a b : Value}, Reordered a b → Reordered b a
  | _, _, .refl a => .refl a
  | _, _, .list items => .list items.symm
  | _, _, .object entries perm => by
    -- each entry is put back where it stands, and the entries then into their old order
    obtain ⟨m, hentries, hperm⟩ :=
      List.perm_comp_forall₂ perm.symm (reorderedFields_iff.mp entries.symm)
    exact .object (reorderedFields_iff.mpr hentries) hperm

theorem ReorderedList.symm : ∀ {l r : List Value}, ReorderedList l r → ReorderedList r l
  | _, _, .nil => .nil
  | _, _, .cons head tail => .cons head.symm tail.symm

theorem ReorderedFields.symm : ∀ {l r : Fields}, ReorderedFields l r → ReorderedFields r l
  | _, _, .nil => .nil
  | _, _, .cons key head tail => .cons key head.symm tail.symm

end

theorem ReorderedFields.lookup {l r : Fields} (h : ReorderedFields l r) (key : String) :
    Option.Rel Reordered (Assoc.lookup key l) (Assoc.lookup key r) := by
  induction l generalizing r with
  | nil =>
    cases h
    exact .none
  | cons entry l ih =>
    cases h with
    | cons k head tail =>
      rw [Assoc.lookup, Assoc.lookup]
      split
      · exact .some head
      · exact ih tail

theorem rel_reordered_self : ∀ side : Option Value, Option.Rel Reordered side side
  | none => .none
  | some a => .some (.refl a)

/-- An object stays one, with the same keys and each value reordered. -/
theorem Reordered.exists_object {l : Fields} {b : Value} (h : Reordered (.object l) b)
    (hl : (Assoc.keys l).Nodup) : ∃ r, b = .object r ∧
      ∀ key, Option.Rel Reordered (Assoc.lookup key l) (Assoc.lookup key r) := by
  cases h with
  | refl => exact ⟨l, rfl, fun key => rel_reordered_self _⟩
  | @object _ m r entries perm =>
    rw [entries.keys_eq] at hl
    refine ⟨r, rfl, fun key => ?_⟩
    rw [← Assoc.lookup_perm perm hl key]
    exact entries.lookup key

theorem DistinctFields.perm {l r : Fields} (h : l.Perm r) (hl : DistinctFields l) :
    DistinctFields r :=
  distinctFields_iff.mpr fun key v hv => distinctFields_iff.mp hl key v (h.mem_iff.mpr hv)

mutual

/-- Reordering repeats no key. -/
theorem Reordered.distinct : ∀ {a b : Value}, Reordered a b → a.Distinct → b.Distinct
  | _, _, .refl _, ha => ha
  | _, _, .list items, ha => items.distinct ha
  | .object _, .object _, .object entries perm, ha => by
    have hkeys := ha.1
    rw [entries.keys_eq] at hkeys
    exact ⟨(perm.map Prod.fst).nodup_iff.mp hkeys, .perm perm (entries.distinct ha.2)⟩

theorem ReorderedList.distinct : ∀ {l r : List Value}, ReorderedList l r → DistinctList l →
    DistinctList r
  | _, _, .nil, hl => hl
  | _, _, .cons head tail, hl => ⟨head.distinct hl.1, tail.distinct hl.2⟩

theorem ReorderedFields.distinct : ∀ {l r : Fields}, ReorderedFields l r → DistinctFields l →
    DistinctFields r
  | _, _, .nil, hl => hl
  | _, _, .cons _ head tail, hl => ⟨head.distinct hl.1, tail.distinct hl.2⟩

end

theorem sameFields_cons (key : String) (a : Value) (rest r : Fields) :
    sameFields ((key, a) :: rest) r =
      ((Assoc.lookup key r).any (same a) && sameFields rest r) := by
  rw [sameFields]
  cases Assoc.lookup key r <;> rfl

theorem sameFields_perm {l m : Fields} (h : l.Perm m) (r : Fields) :
    sameFields l r = sameFields m r := by
  rw [Bool.eq_iff_iff, sameFields_iff, sameFields_iff]
  simp only [h.mem_iff]

/-- An object is searched for the entries of another one by their keys only. -/
theorem sameFields_congr {l r : Fields}
    (h : ∀ key a, (Assoc.lookup key l).any (same a) = (Assoc.lookup key r).any (same a)) :
    ∀ fields : Fields, sameFields fields l = sameFields fields r
  | [] => rfl
  | (key, a) :: rest => by rw [sameFields_cons, sameFields_cons, h, sameFields_congr h rest]

theorem contains_keys_perm {l r : Fields} (h : l.Perm r) (key : String) :
    (Assoc.keys l).contains key = (Assoc.keys r).contains key := by
  rw [Bool.eq_iff_iff, List.contains_iff_mem, List.contains_iff_mem]
  exact (h.map Prod.fst).mem_iff

theorem all_keys_perm {l r : Fields} (h : l.Perm r) (p : String → Bool) :
    (Assoc.keys l).all p = (Assoc.keys r).all p := by
  rw [Bool.eq_iff_iff, List.all_eq_true, List.all_eq_true]
  exact forall_congr' fun key => by rw [Assoc.keys, Assoc.keys, (h.map Prod.fst).mem_iff]

mutual

/-- The left side of a comparison may be reordered. -/
theorem Reordered.same_left : ∀ {a a' : Value}, Reordered a a' → ∀ b, same a b = same a' b
  | _, _, .refl _, _ => rfl
  | .list _, .list _, .list items, b => by
    cases b with
    | list r => rw [same, same, items.same_left r]
    | _ => rfl
  | .object l, .object l', .object (m := m) entries perm, b => by
    cases b with
    | object r =>
      rw [same, same, entries.same_left r, entries.keys_eq, sameFields_perm perm]
      simp only [contains_keys_perm perm]
    | _ => rfl

theorem ReorderedList.same_left : ∀ {l l' : List Value}, ReorderedList l l' →
    ∀ r, sameList l r = sameList l' r
  | _, _, .nil, _ => rfl
  | _, _, .cons _ _, [] => rfl
  | _, _, .cons head tail, b :: r => by
    rw [sameList, sameList, head.same_left b, tail.same_left r]

theorem ReorderedFields.same_left : ∀ {l l' : Fields}, ReorderedFields l l' →
    ∀ r, sameFields l r = sameFields l' r
  | _, _, .nil, _ => rfl
  | _, _, .cons key head tail, r => by
    rw [sameFields_cons, sameFields_cons, tail.same_left r]
    cases Assoc.lookup key r with
    | none => rfl
    | some b => rw [Option.any_some, Option.any_some, head.same_left b]

end

mutual

/-- The right side of a comparison may be reordered, if no key is repeated in it. -/
theorem Reordered.same_right : ∀ {b b' : Value}, Reordered b b' → b.Distinct →
    ∀ a, same a b = same a b'
  | _, _, .refl _, _, _ => rfl
  | .list _, .list _, .list items, hb, a => by
    cases a with
    | list l => rw [same, same, items.same_right hb l]
    | _ => rfl
  | .object r, .object r', .object (m := m) entries perm, hb, a => by
    cases a with
    | object l =>
      have hkeys := hb.1
      rw [entries.keys_eq] at hkeys
      have hperm : sameFields l m = sameFields l r' :=
        sameFields_congr (fun key a => by rw [Assoc.lookup_perm perm hkeys]) l
      rw [same, same, sameFields_congr (entries.same_right hb.2), hperm, entries.keys_eq,
        all_keys_perm perm]
    | _ => rfl

theorem ReorderedList.same_right : ∀ {r r' : List Value}, ReorderedList r r' → DistinctList r →
    ∀ l, sameList l r = sameList l r'
  | _, _, .nil, _, _ => rfl
  | _, _, .cons _ _, _, [] => rfl
  | _, _, .cons head tail, hr, a :: l => by
    rw [sameList, sameList, head.same_right hr.1 a, tail.same_right hr.2 l]

theorem ReorderedFields.same_right : ∀ {r r' : Fields}, ReorderedFields r r' → DistinctFields r →
    ∀ key a, (Assoc.lookup key r).any (same a) = (Assoc.lookup key r').any (same a)
  | _, _, .nil, _, _, _ => rfl
  | _, _, .cons k head tail, hr, key, a => by
    rw [Assoc.lookup, Assoc.lookup]
    split
    · exact head.same_right hr.1 a
    · exact tail.same_right hr.2 key a

end

/-- **Being the same does not read the order of keys**, at any depth of either side. -/
theorem Reordered.same_eq {a a' b b' : Value} (hab : Reordered a a') (hbb : Reordered b b')
    (hb : b.Distinct) : Value.same a b = Value.same a' b' :=
  (hab.same_left b).trans (hbb.same_right hb a')

end Rollout.Value
