import Rollout.Proofs.Store.Reliable

/-!
# What readers share with a store in memory

A list or an object inside a release that was read from a store in memory is the one that is stored.
To change it changes what is stored, be the release finished or not, and nothing else.

* `Release.problems_edit` : the release can be read back as before;
* `MemoryStore.get_edit` : what is answered for it is what it has become;
* `MemoryStore.get_edit_of_ne`, `MemoryStore.allocate_edit` : what is stored elsewhere stays, and so
  does the revision that is handed out next.
-/

set_option autoImplicit false

namespace Rollout

variable {p : Place} {v : Value}

namespace Resource

theorem edit_id (p : Place) (v : Value) (r : Resource) : (r.edit p v).id = r.id := by
  unfold edit
  split <;> rfl

theorem ids_modify_edit (i : Nat) (rs : List Resource) :
    ids (rs.modify i (edit p v)) = ids rs := by
  refine List.ext_getElem? fun j => ?_
  simp only [ids, List.getElem?_map, List.getElem?_modify]
  cases rs[j]? with
  | none => rfl
  | some r =>
    by_cases hij : i = j
    · simp [hij, edit_id]
    · simp [hij]

end Resource

namespace Release

variable (p v) (r : Release)

@[simp]
theorem edit_triple : (r.edit p v).triple = r.triple := by
  unfold edit
  split <;> rfl

@[simp]
theorem edit_revision : (r.edit p v).revision = r.revision := by
  unfold edit
  split <;> rfl

@[simp]
theorem edit_isTerminal : (r.edit p v).isTerminal = r.isTerminal := by
  unfold edit
  split <;> rfl

/-- **A change inside a release is no obstacle to reading it back.** -/
theorem problems_edit : (r.edit p v).problems = r.problems := by
  unfold edit
  split
  · have hspec : Resource.ids ((r.spec.map fun rs => rs.modify p.index (Resource.edit p v)).getD [])
        = Resource.ids (r.spec.getD []) := by
      cases r.spec with
      | none => rfl
      | some rs => exact Resource.ids_modify_edit _ rs
    simp only [problems, resources, Resource.unnamed_congr hspec]
  · have hstate : Resource.ids ((r.state.map fun rs => rs.modify p.index (Resource.edit p v)).getD [])
        = Resource.ids (r.state.getD []) := by
      cases r.state with
      | none => rfl
      | some rs => exact Resource.ids_modify_edit _ rs
    simp only [problems, resources, Resource.unnamed_congr hstate, Option.map_eq_none_iff]

end Release

namespace MemoryStore

variable {s : MemoryStore} {t t' : Triple} {k k' : Int} {r : Release}

/-- The shelf of the triple has another release, if there is one at the revision. -/
theorem shelf_edit (s : MemoryStore) (t : Triple) (k : Int) (p : Place) (v : Value) :
    (s.edit t k p v).shelf t =
      match Assoc.lookup k (s.shelf t).releases with
      | some r => { s.shelf t with releases := Assoc.put k (r.edit p v) (s.shelf t).releases }
      | none => s.shelf t := by
  unfold edit
  cases Assoc.lookup k (s.shelf t).releases with
  | none => rfl
  | some r => exact shelf_update t _ s

theorem shelf_edit_of_ne (h : t' ≠ t) (s : MemoryStore) (k : Int) (p : Place) (v : Value) :
    (s.edit t k p v).shelf t' = s.shelf t' := by
  unfold edit
  split
  · exact shelf_update_of_ne h _ s
  · rfl

/-- **A release that was read stays the one that is stored**: when something inside it is changed, it
is read back as it has become, whatever its phase. -/
theorem get_edit (h : Store.get t k s = .ok r) (p : Place) (v : Value) :
    Store.get t k (s.edit t k p v) = .ok (r.edit p v) := by
  simp only [Store.get, Backing.load, shelf_edit] at h ⊢
  cases hstored : Assoc.lookup k (s.shelf t).releases with
  | none =>
    rw [hstored] at h
    cases h
  | some stored =>
    rw [hstored] at h
    obtain ⟨rfl, hproblems⟩ := Release.problems_of_reread h
    simp only [Assoc.lookup_put, if_true]
    exact Release.reread_eq ((r.problems_edit p v).trans hproblems)

/-- What is stored elsewhere stays as it is. -/
theorem get_edit_of_ne (h : t' ≠ t ∨ k' ≠ k) (s : MemoryStore) (p : Place) (v : Value) :
    Store.get t' k' (s.edit t k p v) = Store.get t' k' s := by
  simp only [Store.get, Backing.load]
  by_cases ht : t' = t
  · subst ht
    rw [shelf_edit]
    cases Assoc.lookup k (s.shelf t').releases with
    | none => rfl
    | some r => rw [Assoc.lookup_put, if_neg (Ne.symm (h.resolve_left (absurd rfl)))]
  · rw [shelf_edit_of_ne ht]

/-- The revision that is handed out next stays the same. -/
theorem allocate_edit (s : MemoryStore) (t' t : Triple) (k : Int) (p : Place) (v : Value) :
    (Store.allocate t' (s.edit t k p v)).1 = (Store.allocate t' s).1 := by
  simp only [Store.allocate, Backing.reserve, reserve]
  by_cases ht : t' = t
  · rw [ht, shelf_edit]
    split <;> rfl
  · rw [shelf_edit_of_ne ht]

end MemoryStore

end Rollout
