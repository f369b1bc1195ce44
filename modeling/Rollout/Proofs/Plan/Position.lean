import Rollout.Proofs.Plan.Difference

/-!
# Where two objects differ

The differences of two objects are a map from paths; a path is the dotted name of a position, the
list of keys that lead to it.

* `Differences.Differs` : two sides differ at a position below them;
* `Differences.path` : the dotted name of a position;
* `Differences.exists_differs_of_mem`, `Differences.mem_keys_of_differs` : every difference comes
  from a position with its path, and every position where the objects differ leaves its path;
* `Differences.path_injective` : without dots in their keys, no two positions share a path.
-/

set_option autoImplicit false

namespace Rollout

/-- The difference seen from the other side. -/
def Difference.swap (d : Difference) : Difference := ⟨d.desired, d.current⟩

@[simp]
theorem Difference.swap_swap (d : Difference) : d.swap.swap = d := rfl

namespace Differences

/-! ## Positions -/

/-- The values of two sides are compared as a whole: they are not both objects. -/
def Plain (a b : Value) : Prop := ∀ l r, a = .object l → b ≠ .object r

theorem Plain.symm {a b : Value} (h : Plain a b) : Plain b a := fun l r hb ha => h r l ha hb

/-- Two sides, of which one may be missing, differ at a position below them, a list of keys. -/
inductive Differs : Option Value → Option Value → List String → Difference → Prop
  | gone (a : Value) : Differs (some a) none [] ⟨a, .null⟩
  | new (b : Value) : Differs none (some b) [] ⟨.null, b⟩
  | changed {a b : Value} (plain : Plain a b) (differ : a.same b = false) :
      Differs (some a) (some b) [] ⟨a, b⟩
  | inside {l r : Fields} {position : List String} {d : Difference} (key : String)
      (below : Differs (Assoc.lookup key l) (Assoc.lookup key r) position d) :
      Differs (some (.object l)) (some (.object r)) (key :: position) d

/-- Two objects differ at a position. -/
abbrev DifferAt (current desired : Fields) (position : List String) (d : Difference) : Prop :=
  Differs (some (.object current)) (some (.object desired)) position d

/-- The path of a position below a path. -/
def under (path : String) (position : List String) : String :=
  position.foldl (fun path key => path ++ "." ++ key) path

/-- The path of a position in an object; `base` goes in front of it. -/
def path (base : String) : List String → String
  | [] => base
  | key :: rest => under (base ++ key) rest

/-- What holds of a side, unless it is missing. -/
def Sided (P : Value → Prop) (side : Option Value) : Prop := ∀ a ∈ side, P a

theorem Sided.some {P : Value → Prop} {a : Value} (h : P a) : Sided P (some a) := fun _ ha =>
  Option.mem_some.mp ha ▸ h

theorem sided_comparable {fields : Fields} (h : (Value.object fields).Comparable) (key : String) :
    Sided Value.Comparable (Assoc.lookup key fields) := fun v hv =>
  Value.comparableFields_iff.mp h.2 key v (Assoc.mem_of_lookup hv)

theorem sided_distinct {fields : Fields} (h : (Value.object fields).Distinct) (key : String) :
    Sided Value.Distinct (Assoc.lookup key fields) := fun v hv =>
  Value.distinctFields_iff.mp h.2 key v (Assoc.mem_of_lookup hv)

theorem Differs.swap {a b : Option Value} {position : List String} {d : Difference}
    (h : Differs a b position d) (ha : Sided Value.Comparable a) (hb : Sided Value.Comparable b) :
    Differs b a position d.swap := by
  induction h with
  | gone a => exact .new a
  | new b => exact .gone b
  | changed plain differ =>
    refine .changed plain.symm ?_
    rwa [Value.same_comm (hb _ rfl) (ha _ rfl)]
  | inside key _ ih =>
    exact .inside key (ih (sided_comparable (ha _ rfl) key) (sided_comparable (hb _ rfl) key))

/-- At a position there is one difference. -/
theorem Differs.unique {a b : Option Value} {position : List String} {d d' : Difference}
    (h : Differs a b position d) (h' : Differs a b position d') : d = d' := by
  induction h with
  | gone a => cases h'; rfl
  | new b => cases h'; rfl
  | changed plain differ => cases h'; rfl
  | inside key _ ih =>
    cases h' with
    | inside _ hbelow => exact ih hbelow

/-! ## Every difference comes from a position -/

theorem ofValues_of_plain {a b : Value} (h : Plain a b) (path : String) :
    ofValues path a b = if a.same b then [] else [(path, ⟨a, b⟩)] := by
  rw [ofValues]
  exact h

theorem exists_differs_of_plain {p path : String} {a b : Value} {d : Difference} (hplain : Plain a b)
    (h : (p, d) ∈ ofValues path a b) :
    ∃ position, Differs (some a) (some b) position d ∧ under path position = p := by
  rw [ofValues_of_plain hplain] at h
  split at h
  · cases h
  · rename_i hsame
    obtain ⟨rfl, rfl⟩ := Prod.mk.inj (List.mem_singleton.mp h)
    exact ⟨[], .changed hplain (Bool.eq_false_iff.mpr hsame), rfl⟩

/-- The differences of two sides, of which one may be missing. -/
def ofSides (path : String) : Option Value → Option Value → Differences
  | some a, some b => ofValues path a b
  | some a, none => [(path, ⟨a, .null⟩)]
  | none, some b => [(path, ⟨.null, b⟩)]
  | none, none => []

theorem ofCurrent_cons (base key : String) (a : Value) (rest desired : Fields) :
    ofCurrent base ((key, a) :: rest) desired =
      Assoc.overlay (ofSides (base ++ key) (some a) (Assoc.lookup key desired))
        (ofCurrent base rest desired) := by
  rw [ofCurrent]
  cases Assoc.lookup key desired <;> rfl

theorem ofValues_object (path : String) (current desired : Fields) :
    ofValues path (.object current) (.object desired) =
      differences (path ++ ".") current desired := by
  rw [ofValues, differences]

theorem exists_of_mem_ofMissing {base p : String} {current : Fields} {d : Difference} :
    ∀ {desired : Fields}, (p, d) ∈ ofMissing base current desired →
      ∃ key b, (key, b) ∈ desired ∧ key ∉ Assoc.keys current ∧ p = base ++ key ∧ d = ⟨.null, b⟩
  | [], h => by cases h
  | (key, b) :: rest, h => by
    rw [ofMissing] at h
    split at h
    · obtain ⟨k, v, hmem, hfacts⟩ := exists_of_mem_ofMissing h
      exact ⟨k, v, List.mem_cons_of_mem _ hmem, hfacts⟩
    · rename_i hkey
      rcases Assoc.mem_of_mem_overlay h with h | h
      · obtain ⟨rfl, rfl⟩ := Prod.mk.inj (List.mem_singleton.mp h)
        exact ⟨key, b, List.mem_cons_self, mt Assoc.has_eq_true_iff.mpr hkey, rfl, rfl⟩
      · obtain ⟨k, v, hmem, hfacts⟩ := exists_of_mem_ofMissing h
        exact ⟨k, v, List.mem_cons_of_mem _ hmem, hfacts⟩

/-- The positions of an object, if those below the keys of its current side are known. -/
theorem exists_differs_of_current {base p : String} {current desired : Fields} {d : Difference}
    (hcurrent : (Assoc.keys current).Nodup) (hdesired : (Assoc.keys desired).Nodup)
    (hbelow : (p, d) ∈ ofCurrent base current desired → ∃ key a position, (key, a) ∈ current ∧
      Differs (some a) (Assoc.lookup key desired) position d ∧ under (base ++ key) position = p)
    (h : (p, d) ∈ differences base current desired) :
    ∃ position, DifferAt current desired position d ∧ path base position = p := by
  rcases Assoc.mem_of_mem_overlay h with h | h
  · obtain ⟨key, a, position, hmem, hdiffers, rfl⟩ := hbelow h
    refine ⟨key :: position, .inside key ?_, rfl⟩
    rwa [(Assoc.lookup_eq_some_iff hcurrent).mpr hmem]
  · obtain ⟨key, b, hmem, hkey, rfl, rfl⟩ := exists_of_mem_ofMissing h
    refine ⟨[key], .inside key ?_, rfl⟩
    rw [Assoc.lookup_eq_none_iff.mpr hkey, (Assoc.lookup_eq_some_iff hdesired).mpr hmem]
    exact .new b

mutual

theorem exists_differs_of_ofValues {p : String} {d : Difference} : ∀ (path : String) (a b : Value),
    a.Distinct → b.Distinct → (p, d) ∈ ofValues path a b →
      ∃ position, Differs (some a) (some b) position d ∧ under path position = p
  | path, .object l, b, ha, hb, h => by
    cases b with
    | object r =>
      rw [ofValues_object] at h
      obtain ⟨position, hdiffer, rfl⟩ := exists_differs_of_current ha.1 hb.1
        (exists_differs_of_ofCurrent (path ++ ".") l r ha.2 hb) h
      -- an object differs below one of its keys only
      cases hdiffer with
      | changed plain _ => exact absurd rfl (plain l r rfl)
      | inside key hbelow => exact ⟨_, .inside key hbelow, rfl⟩
    | _ => exact exists_differs_of_plain (fun _ _ _ => Value.noConfusion) h
  | path, .null, b, _, _, h | path, .bool _, b, _, _, h | path, .int _, b, _, _, h
  | path, .double _, b, _, _, h | path, .str _, b, _, _, h | path, .list _, b, _, _, h =>
    exists_differs_of_plain (fun _ _ h => Value.noConfusion h) h

theorem exists_differs_of_ofCurrent {p : String} {d : Difference} :
    ∀ (base : String) (current : List (String × Value)) (desired : Fields),
      Value.DistinctFields current → (Value.object desired).Distinct →
      (p, d) ∈ ofCurrent base current desired → ∃ key a position, (key, a) ∈ current ∧
        Differs (some a) (Assoc.lookup key desired) position d ∧ under (base ++ key) position = p
  | base, [], desired, _, _, h => by simp [ofCurrent] at h
  | base, (key, a) :: rest, desired, hcurrent, hdesired, h => by
    rw [ofCurrent_cons] at h
    rcases Assoc.mem_of_mem_overlay h with h | h
    · refine ⟨key, a, ?_⟩
      cases hb : Assoc.lookup key desired with
      | none =>
        rw [hb] at h
        obtain ⟨rfl, rfl⟩ := Prod.mk.inj (List.mem_singleton.mp h)
        exact ⟨[], List.mem_cons_self, .gone a, rfl⟩
      | some b =>
        rw [hb] at h
        obtain ⟨position, hdiffers, hp⟩ := exists_differs_of_ofValues (base ++ key) a b
          hcurrent.1 (sided_distinct hdesired key b hb) h
        exact ⟨position, List.mem_cons_self, hdiffers, hp⟩
    · obtain ⟨k, v, position, hmem, hfacts⟩ :=
        exists_differs_of_ofCurrent base rest desired hcurrent.2 hdesired h
      exact ⟨k, v, position, List.mem_cons_of_mem _ hmem, hfacts⟩

end

/-- **Every difference of two objects comes from a position** with its path. -/
theorem exists_differs_of_mem {base p : String} {current desired : Fields} {d : Difference}
    (hcurrent : (Value.object current).Distinct) (hdesired : (Value.object desired).Distinct)
    (h : (p, d) ∈ differences base current desired) :
    ∃ position, DifferAt current desired position d ∧ path base position = p :=
  exists_differs_of_current hcurrent.1 hdesired.1
    (exists_differs_of_ofCurrent base current desired hcurrent.2 hdesired) h

/-! ## Every position leaves its path -/

theorem mem_keys_ofMissing {base key : String} {b : Value} {current : Fields}
    (hkey : key ∉ Assoc.keys current) : ∀ {desired : Fields}, (key, b) ∈ desired →
      base ++ key ∈ Assoc.keys (ofMissing base current desired)
  | (k, v) :: rest, h => by
    rw [ofMissing]
    rcases List.mem_cons.mp h with h | h
    · obtain ⟨rfl, rfl⟩ := Prod.mk.inj h
      rw [if_neg (mt Assoc.has_eq_true_iff.mp hkey), Assoc.mem_keys_overlay]
      exact .inl List.mem_cons_self
    · have ih : base ++ key ∈ Assoc.keys (ofMissing base current rest) := mem_keys_ofMissing hkey h
      split
      · exact ih
      · exact Assoc.mem_keys_overlay.mpr (.inr ih)

theorem mem_keys_ofCurrent {base key p : String} {a : Value} {desired : Fields}
    (hp : p ∈ Assoc.keys (ofSides (base ++ key) (some a) (Assoc.lookup key desired))) :
    ∀ {current : Fields}, (key, a) ∈ current → p ∈ Assoc.keys (ofCurrent base current desired)
  | (k, v) :: rest, h => by
    rw [ofCurrent_cons, Assoc.mem_keys_overlay]
    rcases List.mem_cons.mp h with h | h
    · obtain ⟨rfl, rfl⟩ := Prod.mk.inj h
      exact .inl hp
    · exact .inr (mem_keys_ofCurrent hp h)

/-- What differs below a key leaves its path. -/
theorem mem_keys_differences {base key p : String} {current desired : Fields}
    (hp : p ∈ Assoc.keys
      (ofSides (base ++ key) (Assoc.lookup key current) (Assoc.lookup key desired))) :
    p ∈ Assoc.keys (differences base current desired) := by
  rw [differences, Assoc.mem_keys_overlay]
  cases ha : Assoc.lookup key current with
  | some a =>
    rw [ha] at hp
    exact .inl (mem_keys_ofCurrent hp (Assoc.mem_of_lookup ha))
  | none =>
    cases hb : Assoc.lookup key desired with
    | some b =>
      rw [ha, hb] at hp
      rw [List.mem_singleton.mp hp]
      exact .inr (mem_keys_ofMissing (Assoc.lookup_eq_none_iff.mp ha) (Assoc.mem_of_lookup hb))
    | none =>
      rw [ha, hb] at hp
      cases hp

theorem Differs.mem_keys {a b : Option Value} {position : List String} {d : Difference}
    (h : Differs a b position d) (path : String) :
    under path position ∈ Assoc.keys (ofSides path a b) := by
  induction h generalizing path with
  | gone a => exact List.mem_cons_self
  | new b => exact List.mem_cons_self
  | changed plain differ =>
    rw [ofSides, ofValues_of_plain plain, differ]
    exact List.mem_cons_self
  | inside key _ ih =>
    rw [ofSides, ofValues_object]
    exact mem_keys_differences (ih _)

/-- **Every position where two objects differ leaves its path** among their differences. -/
theorem mem_keys_of_differs {base : String} {current desired : Fields} {position : List String}
    {d : Difference} (h : DifferAt current desired position d) :
    path base position ∈ Assoc.keys (differences base current desired) := by
  cases h with
  | changed plain _ => exact absurd rfl (plain _ _ rfl)
  | inside key hbelow => exact mem_keys_differences (hbelow.mem_keys _)

/-- The paths of the differences are the paths of the positions. -/
theorem mem_keys_iff {base p : String} {current desired : Fields}
    (hcurrent : (Value.object current).Distinct) (hdesired : (Value.object desired).Distinct) :
    p ∈ Assoc.keys (differences base current desired) ↔
      ∃ position d, DifferAt current desired position d ∧ path base position = p := by
  constructor
  · intro h
    obtain ⟨d, hd⟩ := Assoc.mem_keys_iff.mp h
    obtain ⟨position, hdiffer, hp⟩ :=
      exists_differs_of_mem hcurrent hdesired (Assoc.mem_of_lookup hd)
    exact ⟨position, d, hdiffer, hp⟩
  · rintro ⟨position, d, hdiffer, rfl⟩
    exact mem_keys_of_differs hdiffer

/-! ## Paths without dots in their keys -/

/-- No key of an object, or of an object that is walked in it, has a dot. -/
inductive Dotless : Value → Prop
  | plain {a : Value} (h : ∀ fields, a ≠ .object fields) : Dotless a
  | object {fields : Fields} (keys : ∀ key ∈ Assoc.keys fields, '.' ∉ key.toList)
      (values : ∀ key a, (key, a) ∈ fields → Dotless a) : Dotless (.object fields)

theorem sided_dotless {fields : Fields} (h : Dotless (.object fields)) (key : String) :
    Sided Dotless (Assoc.lookup key fields) := by
  cases h with
  | plain hno => exact absurd rfl (hno fields)
  | object _ hvalues => exact fun a ha => hvalues key a (Assoc.mem_of_lookup ha)

/-- The keys of a position are keys of the objects walked. -/
theorem Differs.dotless {a b : Option Value} {position : List String} {d : Difference}
    (h : Differs a b position d) (ha : Sided Dotless a) (hb : Sided Dotless b) :
    ∀ key ∈ position, '.' ∉ key.toList := by
  induction h with
  | gone | new | changed => exact fun _ hkey => absurd hkey List.not_mem_nil
  | @inside l r position d key hbelow ih =>
    have hl := ha _ rfl
    have hr := hb _ rfl
    refine List.forall_mem_cons.mpr ⟨?_, ih (sided_dotless hl key) (sided_dotless hr key)⟩
    -- one of the sides has the key, since two missing sides do not differ
    have hkey : key ∈ Assoc.keys l ∨ key ∈ Assoc.keys r := by
      by_contra hno
      rw [not_or, ← Assoc.lookup_eq_none_iff, ← Assoc.lookup_eq_none_iff] at hno
      rw [hno.1, hno.2] at hbelow
      cases hbelow
    cases hl with
    | plain hno => exact absurd rfl (hno l)
    | object hkeys _ =>
      cases hr with
      | plain hno => exact absurd rfl (hno r)
      | object hkeys' _ => exact hkey.elim (hkeys key) (hkeys' key)

/-- A position spelled out: a dot in front of every key. -/
def spelled (position : List String) : List Char := position.flatMap fun key => '.' :: key.toList

theorem toList_under : ∀ (path : String) (position : List String),
    (under path position).toList = path.toList ++ spelled position
  | path, [] => by simp [under, spelled]
  | path, key :: rest => by
    have ih := toList_under (path ++ "." ++ key) rest
    simpa [under, spelled] using ih

theorem append_cons_inj {c : Char} : ∀ {u v x y : List Char}, c ∉ u → c ∉ v →
    u ++ c :: x = v ++ c :: y → u = v ∧ x = y
  | [], [], _, _, _, _, h => by simpa using h
  | [], a :: v, _, _, _, hv, h => by
    obtain ⟨rfl, _⟩ := List.cons_eq_cons.mp h
    exact absurd List.mem_cons_self hv
  | a :: u, [], _, _, hu, _, h => by
    obtain ⟨rfl, _⟩ := List.cons_eq_cons.mp h
    exact absurd List.mem_cons_self hu
  | a :: u, b :: v, _, _, hu, hv, h => by
    obtain ⟨rfl, htail⟩ := List.cons_eq_cons.mp h
    obtain ⟨rfl, hxy⟩ := append_cons_inj (mt (List.mem_cons_of_mem a) hu)
      (mt (List.mem_cons_of_mem a) hv) htail
    exact ⟨rfl, hxy⟩

/-- The keys of a position without dots are read off its spelling: each ends where the next dot
stands. -/
theorem spelled_injective : ∀ {u v : List Char} {p q : List String}, '.' ∉ u → '.' ∉ v →
    (∀ key ∈ p, '.' ∉ key.toList) → (∀ key ∈ q, '.' ∉ key.toList) →
    u ++ spelled p = v ++ spelled q → u = v ∧ p = q
  | u, v, [], [], _, _, _, _, h => by simpa [spelled] using h
  | u, v, [], key :: q, hu, _, _, _, h => by
    have h' : u = v ++ '.' :: (key.toList ++ spelled q) := by simpa [spelled] using h
    exact absurd (h' ▸ by simp) hu
  | u, v, key :: p, [], _, hv, _, _, h => by
    have h' : v = u ++ '.' :: (key.toList ++ spelled p) := by simpa [spelled] using h.symm
    exact absurd (h' ▸ by simp) hv
  | u, v, k :: p, k' :: q, hu, hv, hp, hq, h => by
    have h' : u ++ '.' :: (k.toList ++ spelled p) = v ++ '.' :: (k'.toList ++ spelled q) := by
      simpa [spelled] using h
    obtain ⟨huv, hrest⟩ := append_cons_inj hu hv h'
    obtain ⟨hk, hpq⟩ := spelled_injective (hp k List.mem_cons_self) (hq k' List.mem_cons_self)
      (fun key hkey => hp key (List.mem_cons_of_mem _ hkey))
      (fun key hkey => hq key (List.mem_cons_of_mem _ hkey)) hrest
    exact ⟨huv, by rw [String.toList_inj.mp hk, hpq]⟩

/-- **Without dots in their keys, no two positions share a path.** -/
theorem path_injective {base : String} {p q : List String} (hp : ∀ key ∈ p, '.' ∉ key.toList)
    (hq : ∀ key ∈ q, '.' ∉ key.toList) (hne : p ≠ []) (hne' : q ≠ [])
    (h : path base p = path base q) : p = q := by
  obtain ⟨k, p, rfl⟩ := List.exists_cons_of_ne_nil hne
  obtain ⟨k', q, rfl⟩ := List.exists_cons_of_ne_nil hne'
  have h' := congrArg String.toList h
  simp only [path, toList_under, String.toList_append, List.append_assoc,
    List.append_cancel_left_eq] at h'
  obtain ⟨hk, hrest⟩ := spelled_injective (hp k List.mem_cons_self) (hq k' List.mem_cons_self)
    (fun key hkey => hp key (List.mem_cons_of_mem _ hkey))
    (fun key hkey => hq key (List.mem_cons_of_mem _ hkey)) h'
  rw [String.toList_inj.mp hk, hrest]

end Differences

end Rollout
