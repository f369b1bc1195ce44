import Mathlib.Data.List.Nodup
import Rollout.Assoc

/-!
# Looking up

What is found under a key after a map was changed, and that no key gets a second entry.
-/

set_option autoImplicit false

namespace Rollout.Assoc

variable {κ α : Type}

@[simp]
theorem keys_nil : keys ([] : List (κ × α)) = [] := rfl

@[simp]
theorem keys_cons (key : κ) (value : α) (rest : List (κ × α)) :
    keys ((key, value) :: rest) = key :: keys rest := rfl

theorem mem_keys {key : κ} {value : α} {entries : List (κ × α)} (h : (key, value) ∈ entries) :
    key ∈ keys entries := List.mem_map_of_mem (f := Prod.fst) h

/-- What holds of every entry, one entry at a time. -/
theorem forall_entry_cons {P : κ → α → Prop} {k : κ} {v : α} {rest : List (κ × α)} :
    (∀ key value, (key, value) ∈ (k, v) :: rest → P key value) ↔
      P k v ∧ ∀ key value, (key, value) ∈ rest → P key value := by
  constructor
  · exact fun h => ⟨h k v (by simp), fun key value hmem => h key value (List.mem_cons_of_mem _ hmem)⟩
  · rintro ⟨hv, hrest⟩ key value hmem
    rcases List.mem_cons.mp hmem with hmem | hmem
    · obtain ⟨rfl, rfl⟩ := Prod.mk.inj hmem
      exact hv
    · exact hrest key value hmem

variable [DecidableEq κ]

theorem lookup_eq_none_iff {key : κ} : ∀ {entries : List (κ × α)},
    lookup key entries = none ↔ key ∉ keys entries
  | [] => by simp [lookup]
  | (k, v) :: rest => by
    rw [lookup, keys_cons, List.mem_cons, not_or]
    split
    · rename_i h
      simp [h]
    · rename_i h
      rw [lookup_eq_none_iff, and_iff_right (Ne.symm h)]

theorem mem_of_lookup {key : κ} {value : α} : ∀ {entries : List (κ × α)},
    lookup key entries = some value → (key, value) ∈ entries
  | [], h => by cases h
  | (k, v) :: rest, h => by
    rw [lookup] at h
    split at h
    · rename_i hk
      cases h
      rw [hk]
      exact List.mem_cons_self
    · exact List.mem_cons_of_mem _ (mem_of_lookup h)

/-- In a map every entry is found. -/
theorem lookup_eq_some_iff {key : κ} {value : α} : ∀ {entries : List (κ × α)},
    (keys entries).Nodup → (lookup key entries = some value ↔ (key, value) ∈ entries)
  | [], _ => by simp [lookup]
  | (k, v) :: rest, h => by
    obtain ⟨hk, hrest⟩ := List.nodup_cons.mp h
    rw [lookup, List.mem_cons]
    split
    · rename_i hkey
      subst hkey
      have hno : (k, value) ∉ rest := fun hmem => hk (mem_keys hmem)
      simp [hno, eq_comm]
    · rename_i hkey
      rw [lookup_eq_some_iff hrest]
      simp [Ne.symm hkey]

/-- In a map the order of the entries does not count. -/
theorem lookup_perm {l r : List (κ × α)} (h : l.Perm r) (hnodup : (keys l).Nodup) (key : κ) :
    lookup key l = lookup key r := by
  have hr : (keys r).Nodup := (h.map Prod.fst).nodup_iff.mp hnodup
  ext value
  rw [lookup_eq_some_iff hnodup, lookup_eq_some_iff hr, h.mem_iff]

@[simp]
theorem lookup_put (key k : κ) (value : α) : ∀ entries : List (κ × α),
    lookup k (put key value entries) = if key = k then some value else lookup k entries
  | [] => by simp [put, lookup]
  | (k', v) :: rest => by
    rw [put]
    split
    · rename_i h
      subst h
      simp only [lookup]
      split <;> rfl
    · rename_i h
      simp only [lookup, lookup_put key k value rest]
      split
      · rename_i hk
        subst hk
        rw [if_neg (Ne.symm h)]
      · rfl

theorem lookup_filter (p : κ → Bool) (key : κ) : ∀ entries : List (κ × α),
    lookup key (entries.filter fun entry => p entry.1) =
      if p key then lookup key entries else none
  | [] => by simp [lookup]
  | (k, v) :: rest => by
    rw [List.filter_cons]
    split
    · rename_i hp
      simp only [lookup, lookup_filter p key rest]
      split
      · rename_i hk
        rw [← hk, if_pos hp]
      · rfl
    · rename_i hp
      rw [lookup_filter p key rest, lookup]
      split
      · split
        · rename_i hpk hk
          exact absurd (hk ▸ hpk) hp
        · rfl
      · rfl

@[simp]
theorem lookup_erase (key k : κ) (entries : List (κ × α)) :
    lookup k (erase key entries) = if key = k then none else lookup k entries := by
  have h : erase key entries = entries.filter fun entry => decide (entry.1 ≠ key) := rfl
  rw [h, lookup_filter (fun k => decide (k ≠ key))]
  by_cases hk : key = k
  · simp [hk]
  · simp [hk, Ne.symm hk]

/-- To write what is there changes nothing. -/
theorem put_of_lookup {key : κ} {value : α} : ∀ {entries : List (κ × α)},
    lookup key entries = some value → put key value entries = entries
  | [], h => by cases h
  | (k, v) :: rest, h => by
    rw [lookup] at h
    rw [put]
    split at h
    · rename_i hk
      cases h
      rw [if_pos hk, hk]
    · rename_i hk
      rw [if_neg hk, put_of_lookup h]

/-- What is written last counts. -/
@[simp]
theorem put_put (key : κ) (value other : α) : ∀ entries : List (κ × α),
    put key value (put key other entries) = put key value entries
  | [] => by simp [put]
  | (k, v) :: rest => by
    by_cases hk : k = key
    · simp [put, hk]
    · simp [put, hk, put_put key value other rest]

theorem put_of_notMem {key : κ} {value : α} : ∀ {entries : List (κ × α)},
    key ∉ keys entries → put key value entries = entries ++ [(key, value)]
  | [], _ => rfl
  | (k, v) :: rest, h => by
    rw [keys_cons, List.mem_cons, not_or] at h
    rw [put, if_neg (Ne.symm h.1), put_of_notMem h.2, List.cons_append]

/-- Of two maps in a row the first one is asked first. -/
theorem lookup_append (key : κ) : ∀ first second : List (κ × α),
    lookup key (first ++ second) = (lookup key first).or (lookup key second)
  | [], _ => rfl
  | (k, v) :: first, second => by
    rw [List.cons_append, lookup, lookup, lookup_append key first second]
    split <;> rfl

theorem mem_keys_iff {key : κ} {entries : List (κ × α)} :
    key ∈ keys entries ↔ ∃ value, lookup key entries = some value := by
  rw [← Option.ne_none_iff_exists', Ne, lookup_eq_none_iff, not_not]

theorem has_eq_true_iff {key : κ} {entries : List (κ × α)} :
    has key entries = true ↔ key ∈ keys entries := by
  rw [has, Option.isSome_iff_exists, mem_keys_iff]

theorem mem_keys_put {key k : κ} {value : α} {entries : List (κ × α)} :
    k ∈ keys (put key value entries) ↔ k = key ∨ k ∈ keys entries := by
  rw [mem_keys_iff, lookup_put, mem_keys_iff]
  by_cases h : key = k
  · simp [h]
  · simp [h, Ne.symm h]

theorem mem_keys_erase {key k : κ} {entries : List (κ × α)} :
    k ∈ keys (erase key entries) ↔ k ≠ key ∧ k ∈ keys entries := by
  rw [mem_keys_iff, lookup_erase, mem_keys_iff]
  by_cases h : key = k
  · simp [h]
  · simp [h, Ne.symm h]

/-- Writing gives no key a second entry. -/
theorem nodup_keys_put (key : κ) (value : α) : ∀ {entries : List (κ × α)},
    (keys entries).Nodup → (keys (put key value entries)).Nodup
  | [], _ => by simp [put]
  | (k, v) :: rest, h => by
    obtain ⟨hk, hrest⟩ := List.nodup_cons.mp h
    rw [put]
    split
    · exact List.nodup_cons.mpr ⟨hk, hrest⟩
    · rename_i hne
      refine List.nodup_cons.mpr ⟨fun hmem => ?_, nodup_keys_put key value hrest⟩
      exact hk ((mem_keys_put.mp hmem).resolve_left hne)

theorem nodup_keys_overlay : ∀ (top : List (κ × α)) {base : List (κ × α)}, (keys base).Nodup →
    (keys (overlay base top)).Nodup
  | [], _, h => h
  | (k, v) :: top, _, h => nodup_keys_overlay top (nodup_keys_put k v h)

theorem nodup_keys_erase (key : κ) {entries : List (κ × α)} (h : (keys entries).Nodup) :
    (keys (erase key entries)).Nodup := h.sublist (List.filter_sublist.map _)

theorem erase_of_notMem {key : κ} {entries : List (κ × α)} (h : key ∉ keys entries) :
    erase key entries = entries := by
  rw [erase, List.filter_eq_self]
  intro entry hentry
  exact decide_eq_true fun hkey => h (hkey ▸ List.mem_map_of_mem (f := Prod.fst) hentry)

/-- A new entry is taken back. -/
theorem erase_put_of_notMem {key : κ} {entries : List (κ × α)} (h : key ∉ keys entries) (value : α) :
    erase key (put key value entries) = entries := by
  have hrest := erase_of_notMem h
  rw [erase] at hrest
  rw [put_of_notMem h, erase, List.filter_append, hrest]
  simp

/-- A last entry is replaced where it stands. -/
theorem put_append_of_notMem {key : κ} {value other : α} : ∀ {entries : List (κ × α)},
    key ∉ keys entries → put key value (entries ++ [(key, other)]) = entries ++ [(key, value)]
  | [], _ => by simp [put]
  | (k, v) :: rest, h => by
    rw [keys_cons, List.mem_cons, not_or] at h
    rw [List.cons_append, put, if_neg (Ne.symm h.1), put_append_of_notMem h.2, List.cons_append]

/-- New entries are laid behind those that are there. -/
theorem overlay_eq_append : ∀ (top base : List (κ × α)), (keys (base ++ top)).Nodup →
    overlay base top = base ++ top
  | [], base, _ => by simp [overlay]
  | (k, v) :: top, base, h => by
    have hk : k ∉ keys base := by
      intro hk
      rw [keys, List.map_append] at h
      exact (List.nodup_append.mp h).2.2 k hk k (by simp) rfl
    have hput : put k v base = base ++ [(k, v)] := put_of_notMem hk
    have ih := overlay_eq_append top (put k v base) (by rw [hput]; simpa using h)
    rw [overlay] at ih ⊢
    rw [List.foldl_cons, ih, hput, List.append_assoc, List.singleton_append]

/-- Entries of which no two have a key in common are a map as they are. -/
theorem ofList_eq_self {entries : List (κ × α)} (h : (keys entries).Nodup) :
    ofList entries = entries := overlay_eq_append entries [] h

/-- What was laid over a map is found first. -/
theorem lookup_overlay (key : κ) : ∀ {top : List (κ × α)} (base : List (κ × α)),
    (keys top).Nodup → lookup key (overlay base top) = (lookup key top).or (lookup key base)
  | [], base, _ => by simp [overlay, lookup]
  | (k, v) :: top, base, h => by
    obtain ⟨hk, htop⟩ := List.nodup_cons.mp h
    have hcons : overlay base ((k, v) :: top) = overlay (put k v base) top := rfl
    rw [hcons, lookup_overlay key (put k v base) htop, lookup_put, lookup]
    split
    · rename_i hkey
      subst hkey
      rw [lookup_eq_none_iff.mpr hk]
      rfl
    · rfl

/-- The keys of two maps, one laid over the other, are the keys of both. -/
theorem mem_keys_overlay {key : κ} : ∀ {top base : List (κ × α)},
    key ∈ keys (overlay base top) ↔ key ∈ keys base ∨ key ∈ keys top
  | [], base => by simp [overlay]
  | (k, v) :: top, base => by
    have hcons : overlay base ((k, v) :: top) = overlay (put k v base) top := rfl
    rw [hcons, mem_keys_overlay, mem_keys_put, keys_cons, List.mem_cons, or_comm (a := key = k),
      or_assoc]

theorem mem_of_mem_put {key : κ} {value : α} {entry : κ × α} : ∀ {entries : List (κ × α)},
    entry ∈ put key value entries → entry = (key, value) ∨ entry ∈ entries
  | [], h => by simpa [put] using h
  | (k, v) :: rest, h => by
    rw [put] at h
    split at h
    · rename_i hk
      subst hk
      exact (List.mem_cons.mp h).imp_right (List.mem_cons_of_mem _)
    · rcases List.mem_cons.mp h with rfl | h
      · exact .inr List.mem_cons_self
      · exact (mem_of_mem_put h).imp_right (List.mem_cons_of_mem _)

/-- Laying a map over another one makes no new entry. -/
theorem mem_of_mem_overlay {entry : κ × α} : ∀ {top base : List (κ × α)},
    entry ∈ overlay base top → entry ∈ base ∨ entry ∈ top
  | [], _, h => .inl h
  | (k, v) :: top, base, h => by
    have hover : entry ∈ overlay (put k v base) top := h
    rcases mem_of_mem_overlay hover with h | h
    · rcases mem_of_mem_put h with rfl | h
      · exact .inr List.mem_cons_self
      · exact .inl h
    · exact .inr (List.mem_cons_of_mem _ h)

theorem put_ne_nil (key : κ) (value : α) (entries : List (κ × α)) : put key value entries ≠ [] := by
  cases entries with
  | nil => simp [put]
  | cons entry rest =>
    obtain ⟨k, v⟩ := entry
    rw [put]
    split <;> simp

theorem overlay_eq_nil_iff {base top : List (κ × α)} :
    overlay base top = [] ↔ base = [] ∧ top = [] := by
  have hkept : ∀ (top base : List (κ × α)), base ≠ [] → overlay base top ≠ [] := by
    intro top
    induction top with
    | nil => exact fun base h => h
    | cons entry rest ih => exact fun base _ => ih _ (put_ne_nil _ _ _)
  cases top with
  | nil => simp [overlay]
  | cons entry rest =>
    simp only [reduceCtorEq, and_false, iff_false]
    exact hkept rest _ (put_ne_nil _ _ _)

end Rollout.Assoc
