import Mathlib.Algebra.GroupWithZero.Nat
import Mathlib.Data.List.Basic
import Rollout.Text.Segments

/-!
# Splitting and joining

Splitting undoes joining as long as no part holds the separator; a part that holds it comes apart as
well.

* `Text.join_split` : the segments of a text, joined again, are the text;
* `Text.split_join` : the segments of a joined text are those of its parts;
* `Text.join_inj` : a joined text tells its parts, once it is known how many separators each of them
  holds;
* `Text.length_split`, `Text.count_join` : a text has one segment more than it holds separators.
-/

set_option autoImplicit false

namespace Rollout.Text

variable {c : Char}

theorem segments_eq_splitOn (c : Char) : ∀ l : List Char, segments c l = l.splitOn c
  | [] => (List.splitOn_nil c).symm
  | d :: l => by
    rw [segments, segments_eq_splitOn c l]
    obtain ⟨s, rest, hl⟩ := List.exists_cons_of_ne_nil (List.splitOnP_ne_nil (· == c) l)
    simp only [List.splitOn, List.splitOnP_cons_eq_if_modifyHead, hl, consFirst, beq_iff_eq,
      List.modifyHead_cons]

theorem segments_ne_nil (c : Char) (l : List Char) : segments c l ≠ [] := by
  rw [segments_eq_splitOn]
  exact List.splitOn_ne_nil c l

theorem segments_append (c : Char) (l r : List Char) :
    segments c (l ++ c :: r) = segments c l ++ segments c r := by
  simp only [segments_eq_splitOn]
  exact List.splitOnP_append_cons l r (by simp)

theorem length_segments (c : Char) : ∀ l : List Char, (segments c l).length = l.count c + 1
  | [] => rfl
  | d :: l => by
    have ih := length_segments c l
    rw [segments]
    split
    · rename_i h
      subst h
      rw [List.length_cons, ih, List.count_cons_self]
    · rename_i h
      rw [List.count_cons_of_ne h, ← ih]
      obtain ⟨s, rest, hl⟩ := List.exists_cons_of_ne_nil (segments_ne_nil c l)
      rw [hl]
      rfl

/-- No segment holds a separator. -/
theorem notMem_of_mem_segments {c : Char} {s : List Char} : ∀ {l : List Char},
    s ∈ segments c l → c ∉ s
  | [], h => by
    obtain rfl := List.mem_singleton.mp h
    exact List.not_mem_nil
  | d :: l, h => by
    rw [segments] at h
    split at h
    · rcases List.mem_cons.mp h with rfl | h
      · exact List.not_mem_nil
      · exact notMem_of_mem_segments h
    · rename_i hd
      obtain ⟨first, rest, hl⟩ := List.exists_cons_of_ne_nil (segments_ne_nil c l)
      rw [hl, consFirst] at h
      rcases List.mem_cons.mp h with rfl | h
      · have hfirst : c ∉ first := notMem_of_mem_segments (hl ▸ List.mem_cons_self)
        exact fun hc => (List.mem_cons.mp hc).elim (fun hcd => hd hcd.symm) hfirst
      · exact notMem_of_mem_segments (hl ▸ List.mem_cons_of_mem _ h)

/-! ## Texts -/

/-- How often a text holds a character. -/
def count (c : Char) (s : String) : Nat := s.toList.count c

theorem length_split (c : Char) (s : String) : (split c s).length = count c s + 1 := by
  rw [split, List.length_map, length_segments, count]

/-- A text without separators is its only segment. -/
theorem split_eq_self {s : String} (h : count c s = 0) : split c s = [s] := by
  have hsegments : segments c s.toList = [s.toList] := by
    rw [segments_eq_splitOn]
    refine List.splitOnP_eq_singleton fun d hd => ?_
    have hne : d ≠ c := fun hdc => List.count_eq_zero.mp h (hdc ▸ hd)
    simpa using hne
  rw [split, hsegments, List.map_singleton, String.ofList_toList]

theorem count_of_mem_split {c : Char} {s t : String} (h : s ∈ split c t) : count c s = 0 := by
  obtain ⟨l, hl, rfl⟩ := List.mem_map.mp h
  rw [count, String.toList_ofList]
  exact List.count_eq_zero.mpr (notMem_of_mem_segments hl)

/-- A text is its segments, joined. -/
theorem join_split {sep : String} (hsep : sep = String.singleton c) (s : String) :
    join sep (split c s) = s := by
  subst hsep
  rw [← String.toList_inj, join, String.toList_intercalate, split, List.map_map]
  have hmap : String.toList ∘ String.ofList = id := funext fun l => String.toList_ofList
  rw [hmap, List.map_id, segments_eq_splitOn, String.toList_singleton]
  exact List.intercalate_splitOn c

/-- **A joined text falls into the segments of its parts.** -/
theorem split_join {sep : String} (hsep : sep = String.singleton c) : ∀ {parts : List String},
    parts ≠ [] → split c (join sep parts) = parts.flatMap (split c)
  | [s], _ => by simp [join]
  | s :: t :: rest, _ => by
    have ih := split_join hsep (List.cons_ne_nil t rest)
    rw [join, String.intercalate_cons_cons, ← join, List.flatMap_cons, ← ih]
    simp [hsep, split, segments_append]

/-- Parts that hold no separator are the segments of the joined text. -/
theorem split_join_eq_self {sep : String} (hsep : sep = String.singleton c) {parts : List String}
    (h : parts ≠ []) (hcount : ∀ s ∈ parts, count c s = 0) : split c (join sep parts) = parts := by
  have hsplit : ∀ s ∈ parts, split c s = [s] := fun s hs => split_eq_self (hcount s hs)
  rw [split_join hsep h, List.flatMap_congr hsplit, List.flatMap_singleton']

theorem count_join_singleton (c : Char) (sep s : String) : count c (join sep [s]) = count c s := by
  rw [join, String.intercalate_singleton]

/-- A joined text holds the separators in its parts and those between them. -/
theorem count_join_cons {sep : String} (hsep : sep = String.singleton c) (s t : String)
    (rest : List String) :
    count c (join sep (s :: t :: rest)) = count c s + 1 + count c (join sep (t :: rest)) := by
  rw [join, String.intercalate_cons_cons, ← join, hsep]
  simp only [count, String.toList_append, String.toList_singleton, List.count_append,
    List.count_singleton_self]

/-- The separators of a joined text are those in its parts and one between any two of them. -/
theorem count_join {sep : String} (hsep : sep = String.singleton c) : ∀ {parts : List String},
    parts ≠ [] → count c (join sep parts) + 1 = (parts.map (count c)).sum + parts.length
  | [s], _ => by
    simp only [count_join_singleton, List.map_cons, List.map_nil, List.sum_cons, List.sum_nil,
      Nat.add_zero, List.length_singleton]
  | s :: t :: rest, _ => by
    have ih := count_join hsep (List.cons_ne_nil t rest)
    rw [count_join_cons hsep, List.map_cons, List.sum_cons, List.length_cons]
    omega

/-- Texts whose segments are the same, one after the other, are the same texts if each holds as many
separators as its counterpart. -/
theorem flatMap_split_inj : ∀ {parts parts' : List String},
    parts.flatMap (split c) = parts'.flatMap (split c) →
    parts.map (count c) = parts'.map (count c) → parts = parts'
  | [], [], _, _ => rfl
  | [], _ :: _, _, hcount => by cases hcount
  | _ :: _, [], _, hcount => by cases hcount
  | s :: parts, t :: parts', h, hcount => by
    obtain ⟨hfirst, hrest⟩ := List.cons.inj hcount
    have hlength : (split c s).length = (split c t).length := by
      rw [length_split, length_split, hfirst]
    obtain ⟨hsplit, htail⟩ := List.append_inj h hlength
    have hst : s = t := by rw [← join_split rfl s, hsplit, join_split rfl t]
    rw [hst, flatMap_split_inj htail hrest]

/-- **A joined text tells its parts** once it is known how many separators each of them holds. -/
theorem join_inj {sep : String} (hsep : sep = String.singleton c) {parts parts' : List String}
    (h : join sep parts = join sep parts') (hcount : parts.map (count c) = parts'.map (count c)) :
    parts = parts' := by
  by_cases hparts : parts = []
  · subst hparts
    exact (List.map_eq_nil_iff.mp hcount.symm).symm
  · have hparts' : parts' ≠ [] := by
      intro hnil
      subst hnil
      exact hparts (List.map_eq_nil_iff.mp hcount)
    have hsplit := congrArg (split c) h
    rw [split_join hsep hparts, split_join hsep hparts'] at hsplit
    exact flatMap_split_inj hsplit hcount

/-- A joined text tells parts that hold no separator. -/
theorem join_inj_of_plain {sep : String} (hsep : sep = String.singleton c)
    {parts parts' : List String} (h : join sep parts = join sep parts') (hparts : parts ≠ [])
    (hparts' : parts' ≠ []) (hplain : ∀ s ∈ parts, count c s = 0)
    (hplain' : ∀ s ∈ parts', count c s = 0) : parts = parts' := by
  rw [← split_join_eq_self hsep hparts hplain, h, split_join_eq_self hsep hparts' hplain']

/-- The separator of identifiers. -/
theorem colon_eq : ":" = String.singleton ':' := rfl

end Rollout.Text
