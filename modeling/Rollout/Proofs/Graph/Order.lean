import Mathlib.Data.Fintype.EquivFin
import Mathlib.Data.List.Perm.Subperm
import Mathlib.Order.WellFounded
import Rollout.Graph.Arrange
import Rollout.Proofs.Graph.Walk

/-!
# Arranged items stand behind their prerequisites

* `Orders` : a list holds every item below `n` once, each behind all of its prerequisites;
* `arrange_orders` : if nothing is stuck, the arrangement orders the items;
* `arrange_stuck_eq_nil` : nothing is stuck unless some item waits for itself, directly or through
  others;
* `Orders.induction` : what holds of an item whenever it holds of its prerequisites holds of all.
-/

set_option autoImplicit false

namespace Rollout

open Relation

/-- A relation that holds between each item of a list and all behind it holds along the list. -/
theorem pairwise_of_forall_split {α : Type} {r : α → α → Prop} {l : List α}
    (h : ∀ pre a post, l = pre ++ a :: post → ∀ b ∈ post, r a b) : l.Pairwise r := by
  induction l with
  | nil => exact .nil
  | cons a rest ih =>
    refine .cons (h [] a rest rfl) (ih fun pre b post heq => h (a :: pre) b post ?_)
    rw [heq, List.cons_append]

/-- A list that holds every item below `n` once, each behind all of its prerequisites. -/
structure Orders (before : Nat → List Nat) (n : Nat) (order : List Nat) : Prop where
  perm : order.Perm (List.range n)
  behind : ∀ pre i post, order = pre ++ i :: post → ∀ j ∈ before i, j < n → j ∈ pre

namespace Arrangement

variable {before : Nat → List Nat}

theorem ready?_some {remaining : List Nat} {i : Nat} (h : ready? before remaining = some i) :
    i ∈ remaining ∧ ∀ j ∈ before i, j ∉ remaining := by
  unfold ready? at h
  have hm := List.mem_of_find?_eq_some h
  have hp := List.find?_some h
  refine ⟨hm, fun j hj hr => ?_⟩
  have := List.all_eq_true.mp hp j hj
  simp [hr] at this

theorem ready?_none {remaining : List Nat} (h : ready? before remaining = none) :
    ∀ i ∈ remaining, ∃ j ∈ before i, j ∈ remaining := by
  intro i hi
  have := List.find?_eq_none.mp h i hi
  simpa using this

/-- Items are neither lost nor doubled. -/
theorem place_perm : ∀ (steps : Nat) (remaining : List Nat),
    ((place before steps remaining).placed ++ (place before steps remaining).stuck).Perm remaining
  | 0, remaining => by simp [place]
  | steps + 1, remaining => by
    rw [place]
    split
    · simp
    · rename_i i hready
      have hi := (ready?_some hready).1
      exact ((place_perm steps (remaining.erase i)).cons i).trans (List.perm_cons_erase hi).symm

/-- An item is placed behind those of its prerequisites that remained. -/
theorem place_behind : ∀ (steps : Nat) (remaining : List Nat), remaining.Nodup →
    ∀ pre i post, (place before steps remaining).placed = pre ++ i :: post →
      ∀ j ∈ before i, j ∈ remaining → j ∈ pre
  | 0, remaining, _, pre, i, post, h => by simp [place] at h
  | steps + 1, remaining, hnd, pre, i, post, h => by
    intro j hj hr
    rw [place] at h
    split at h
    · simp at h
    · rename_i k hready
      obtain ⟨_, hfree⟩ := ready?_some hready
      cases pre with
      | nil =>
        simp only [List.nil_append, List.cons.injEq] at h
        obtain ⟨rfl, _⟩ := h
        exact absurd hr (hfree j hj)
      | cons p pre =>
        simp only [List.cons_append, List.cons.injEq] at h
        obtain ⟨rfl, h⟩ := h
        by_cases hjk : j = k
        · simp [hjk]
        · have hr' : j ∈ remaining.erase k := (List.mem_erase_of_ne hjk).mpr hr
          exact List.mem_cons_of_mem _
            (place_behind steps (remaining.erase k) (hnd.erase k) pre i post h j hj hr')

/-- Every stuck item waits for a stuck one, given steps enough. -/
theorem place_stuck : ∀ (steps : Nat) (remaining : List Nat), remaining.length ≤ steps →
    ∀ i ∈ (place before steps remaining).stuck,
      ∃ j ∈ before i, j ∈ (place before steps remaining).stuck
  | 0, remaining, hlen, i, h => by
    have : remaining = [] := List.length_eq_zero_iff.mp (by omega)
    subst this
    simp [place] at h
  | steps + 1, remaining, hlen, i, h => by
    rw [place] at h ⊢
    split at h
    · rename_i hready
      exact ready?_none hready i h
    · rename_i k hready
      have hk := (ready?_some hready).1
      have hlen' : (remaining.erase k).length ≤ steps := by
        rw [List.length_erase_of_mem hk]; omega
      exact place_stuck steps (remaining.erase k) hlen' i h

end Arrangement

variable {before : Nat → List Nat} {n : Nat}

theorem arrange_perm (before : Nat → List Nat) (n : Nat) :
    ((arrange before n).placed ++ (arrange before n).stuck).Perm (List.range n) :=
  Arrangement.place_perm n (List.range n)

/-- **If nothing is stuck, the arrangement orders the items.** -/
theorem arrange_orders (h : (arrange before n).stuck = []) :
    Orders before n (arrange before n).placed := by
  constructor
  · simpa [h] using arrange_perm before n
  · intro pre i post heq j hj hjn
    exact Arrangement.place_behind n (List.range n) List.nodup_range pre i post heq j hj
      (List.mem_range.mpr hjn)

/-- Among finitely many items of which each waits for another of them, some item waits for itself,
directly or through others. -/
theorem exists_transGen_self {items : List Nat} (hne : items ≠ [])
    (h : ∀ i ∈ items, ∃ j ∈ before i, j ∈ items) :
    ∃ i, TransGen (Walk.Edge before) i i := by
  by_contra hno
  let lower : { i // i ∈ items } → { i // i ∈ items } → Prop :=
    fun a b => TransGen (Walk.Edge before) b.1 a.1
  have : IsTrans { i // i ∈ items } lower := ⟨fun _ _ _ hab hbc => hbc.trans hab⟩
  have : Std.Irrefl lower := ⟨fun a ha => hno ⟨a.1, ha⟩⟩
  have hwf : WellFounded lower := Finite.wellFounded_of_trans_of_irrefl lower
  obtain ⟨first, hfirst⟩ := List.exists_mem_of_ne_nil items hne
  obtain ⟨least, _, hleast⟩ := hwf.has_min Set.univ ⟨⟨first, hfirst⟩, trivial⟩
  obtain ⟨j, hj, hmem⟩ := h least.1 least.2
  exact hleast ⟨j, hmem⟩ trivial (.single hj)

/-- **Nothing is stuck unless some item waits for itself**, directly or through others. -/
theorem arrange_stuck_eq_nil (h : Walk.Acyclic before) : (arrange before n).stuck = [] := by
  by_contra hne
  obtain ⟨i, hi⟩ := exists_transGen_self hne
    (Arrangement.place_stuck n (List.range n) (by simp))
  exact h i hi

namespace Orders

variable {order : List Nat}

theorem mem_iff (h : Orders before n order) {i : Nat} : i ∈ order ↔ i < n :=
  h.perm.mem_iff.trans List.mem_range

theorem nodup (h : Orders before n order) : order.Nodup := h.perm.nodup_iff.mpr List.nodup_range

/-- **What holds of an item whenever it holds of its prerequisites holds of all items.** -/
theorem induction (h : Orders before n order) {P : Nat → Prop}
    (step : ∀ i < n, (∀ j ∈ before i, j < n → P j) → P i) : ∀ i < n, P i := by
  have hpre : ∀ rest pre, order = pre ++ rest → (∀ i ∈ pre, P i) → ∀ i ∈ order, P i := by
    intro rest
    induction rest with
    | nil =>
      intro pre heq hall i hi
      rw [heq, List.append_nil] at hi
      exact hall i hi
    | cons k rest ih =>
      intro pre heq hall
      have hk : P k := by
        have hkn : k < n := h.mem_iff.mp (by simp [heq])
        exact step k hkn fun j hj hjn => hall j (h.behind pre k rest heq j hj hjn)
      refine ih (pre ++ [k]) (by simpa using heq) ?_
      intro i hi
      rcases List.mem_append.mp hi with hi | hi
      · exact hall i hi
      · rw [List.mem_singleton] at hi
        exact hi ▸ hk
  exact fun i hi => hpre order [] rfl (fun _ h => (List.not_mem_nil h).elim) i (h.mem_iff.mpr hi)

/-- Ordered items do not wait for themselves. -/
theorem acyclic (h : Orders before n order)
    (hbelow : ∀ i, ∀ j ∈ before i, i < n ∧ j < n) : Walk.Acyclic before := by
  have hall : ∀ i < n, ¬ TransGen (Walk.Edge before) i i := by
    refine h.induction fun i _ ih hi => ?_
    obtain ⟨j, e, hj⟩ := TransGen.head'_iff.mp hi
    exact ih j e (hbelow i j e).2 (TransGen.tail'_iff.mpr ⟨i, hj, e⟩)
  intro i hi
  obtain ⟨j, e, _⟩ := TransGen.head'_iff.mp hi
  exact hall i (hbelow i j e).1 hi

end Orders

end Rollout
