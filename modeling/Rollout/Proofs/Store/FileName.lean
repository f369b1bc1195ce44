import Mathlib.Data.List.Pairwise
import Mathlib.Data.Nat.Digits.Defs
import Mathlib.Tactic.IntervalCases
import Rollout.Store.Directory

/-!
# The revisions that file names stand for

A revision is written into the name of its files, and read back from the names of a directory.

* `Text.numeral?_toDigits` : a number is read back from its digits;
* `FileName.revision_digits?` : a revision is read back from the name of its file;
* `FileName.revisions_spec` : the revisions of several files, as a directory lists them;
* `lastRevision_eq` : the greatest of them.
-/

set_option autoImplicit false

namespace Rollout

namespace Text

theorem decimalDigit?_digitChar {d : Nat} (h : d < 10) :
    decimalDigit? (Nat.digitChar d) = some d := by
  interval_cases d <;> rfl

/-- The digits of a number are the digits of numbers below ten. -/
theorem exists_of_mem_toDigits (n : Nat) :
    ∀ c ∈ Nat.toDigits 10 n, ∃ d < 10, c = Nat.digitChar d := by
  induction n using Nat.strong_induction_on with
  | _ n ih =>
    intro c hc
    by_cases hn : n < 10
    · rw [Nat.toDigits_of_lt_base hn, List.mem_singleton] at hc
      exact ⟨n, hn, hc⟩
    · rw [Nat.toDigits_of_base_le (by decide) (by omega), List.mem_append,
        List.mem_singleton] at hc
      rcases hc with hc | hc
      · exact ih (n / 10) (by omega) c hc
      · exact ⟨n % 10, by omega, hc⟩

theorem isDigitLike_of_mem_toDigits {n : Nat} {c : Char} (h : c ∈ Nat.toDigits 10 n) :
    isDigitLike c = true := by
  obtain ⟨d, hd, rfl⟩ := exists_of_mem_toDigits n c h
  rw [isDigitLike, decimalDigit?_digitChar hd]
  rfl

theorem foldlM_pushDigit_toDigits (n : Nat) :
    (Nat.toDigits 10 n).foldlM pushDigit 0 = some n := by
  induction n using Nat.strong_induction_on with
  | _ n ih =>
    by_cases hn : n < 10
    · rw [Nat.toDigits_of_lt_base hn]
      simp [pushDigit, decimalDigit?_digitChar hn]
    · have hlast : n % 10 < 10 := by omega
      rw [Nat.toDigits_of_base_le (by decide) (by omega), List.foldlM_append,
        ih (n / 10) (by omega)]
      simp only [Option.bind_eq_bind, Option.bind_some, List.foldlM_cons, List.foldlM_nil, pushDigit,
        decimalDigit?_digitChar hlast, Option.map_some, Option.pure_def, Option.some.injEq]
      omega

/-- **A number is read back from its digits.** -/
theorem numeral?_toDigits (n : Nat) : numeral? (Nat.toDigits 10 n) = some n := by
  rw [← foldlM_pushDigit_toDigits n]
  cases h : Nat.toDigits 10 n with
  | nil => exact absurd h Nat.toDigits_ne_nil
  | cons c cs => rfl

end Text

namespace FileName

variable {ending other : List Char} {names : List String}

/-! ## One name -/

theorem toList_toString_natCast (n : Nat) : (toString (n : Int)).toList = Nat.toDigits 10 n := by
  have hrepr : toString (n : Int) = String.ofList (Nat.toDigits 10 n) := Nat.repr_eq_ofList_toDigits
  rw [hrepr, String.toList_ofList]

theorem toList_toString_negSucc (n : Nat) :
    (toString (Int.negSucc n)).toList = '-' :: Nat.toDigits 10 (n + 1) := by
  have hrepr : toString (Int.negSucc n) = "-" ++ (n + 1).repr := rfl
  simp [hrepr, Nat.repr_eq_ofList_toDigits, String.toList_append]

theorem toDigits_injective {n n' : Nat} (h : Nat.toDigits 10 n = Nat.toDigits 10 n') : n = n' := by
  have hread := Text.numeral?_toDigits n
  rw [h, Text.numeral?_toDigits] at hread
  exact (Option.some.inj hread).symm

/-- No number without a sign starts with one. -/
theorem toDigits_ne_cons_minus (n : Nat) (cs : List Char) : Nat.toDigits 10 n ≠ '-' :: cs := by
  intro h
  have hminus : Text.isDigitLike '-' = true :=
    Text.isDigitLike_of_mem_toDigits (h ▸ List.mem_cons_self)
  exact absurd hminus (by decide)

theorem ofRevision_natCast (ending : List Char) (n : Nat) :
    ofRevision ending n = String.ofList (Nat.toDigits 10 n ++ ending) := by
  rw [ofRevision, toList_toString_natCast]

/-- Names with one ending stand for different revisions. -/
theorem ofRevision_injective {k k' : Int} (h : ofRevision ending k = ofRevision ending k') :
    k = k' := by
  have htexts : (toString k).toList = (toString k').toList :=
    List.append_cancel_right (String.ofList_injective h)
  cases k with
  | ofNat n =>
    cases k' with
    | ofNat n' =>
      have hdigits := (toList_toString_natCast n).symm.trans
        (htexts.trans (toList_toString_natCast n'))
      rw [toDigits_injective hdigits]
    | negSucc n' =>
      have hdigits := (toList_toString_natCast n).symm.trans
        (htexts.trans (toList_toString_negSucc n'))
      exact absurd hdigits (toDigits_ne_cons_minus n _)
  | negSucc n =>
    cases k' with
    | ofNat n' =>
      have hdigits := (toList_toString_natCast n').symm.trans
        (htexts.symm.trans (toList_toString_negSucc n))
      exact absurd hdigits (toDigits_ne_cons_minus n' _)
    | negSucc n' =>
      have hdigits := (toList_toString_negSucc n).symm.trans
        (htexts.trans (toList_toString_negSucc n'))
      have hsame := toDigits_injective (List.cons.inj hdigits).2
      rw [Nat.succ.inj hsame]

theorem stem?_append (ending stem : List Char) :
    stem? ending (String.ofList (stem ++ ending)) = some stem := by
  simp [stem?]

/-- A name that ends otherwise has no stem. -/
theorem stem?_eq_none (hlast : ending.getLast? ≠ other.getLast?) (hother : other ≠ [])
    (hending : ending ≠ []) (stem : List Char) :
    stem? ending (String.ofList (stem ++ other)) = none := by
  have hnot : ¬ ending <:+ stem ++ other := by
    rintro ⟨front, hfront⟩
    have hends := congrArg List.getLast? hfront
    rw [List.getLast?_append, List.getLast?_append,
      Option.or_of_isSome (List.getLast?_isSome.mpr hending),
      Option.or_of_isSome (List.getLast?_isSome.mpr hother)] at hends
    exact hlast hends
  rw [stem?, String.toList_ofList, if_neg]
  rwa [List.isSuffixOf_iff_suffix]

/-- **A revision is read back from the name of its file.** -/
theorem revision_digits? (ending : List Char) (n : Nat) :
    ∃ digits, digits? ending (ofRevision ending n) = some digits ∧ revision digits = .ok n := by
  refine ⟨Nat.toDigits 10 n, ?_, ?_⟩
  · have hdigits : (Nat.toDigits 10 n).all Text.isDigitLike = true :=
      List.all_eq_true.mpr fun c hc => Text.isDigitLike_of_mem_toDigits hc
    have hsome : (Nat.toDigits 10 n).isEmpty = false := by
      rw [List.isEmpty_eq_false_iff]
      exact Nat.toDigits_ne_nil
    rw [digits?, ofRevision_natCast, stem?_append]
    simp [hdigits, hsome]
  · rw [revision, Text.numeral?_toDigits]

theorem digits?_eq_none {name : String} (h : stem? ending name = none) :
    digits? ending name = none := by
  rw [digits?, h]

/-! ## The names of a directory -/

/-- **The revisions of the files with an ending**, where every name with that ending is that of a
revision. -/
theorem revisions_spec (hnames : ∀ name ∈ names,
      (∃ n : Nat, name = ofRevision ending n) ∨ stem? ending name = none) :
    ∃ found, revisions ending names = .ok found ∧
      (∀ k, k ∈ found ↔ ofRevision ending k ∈ names) ∧ (names.Nodup → found.Nodup) := by
  induction names with
  | nil => exact ⟨[], rfl, by simp, fun _ => .nil⟩
  | cons name names ih =>
    obtain ⟨found, hfound, hmem, hnodup⟩ := ih fun n hn => hnames n (List.mem_cons_of_mem _ hn)
    rcases hnames name (by simp) with ⟨n, rfl⟩ | hnone
    · obtain ⟨digits, hdigits, hrevision⟩ := revision_digits? ending n
      refine ⟨n :: found, ?_, fun k => ?_, fun hnames => ?_⟩
      · rw [revisions] at hfound ⊢
        rw [List.filterMap_cons_some hdigits, List.mapM_cons, hrevision, hfound]
        rfl
      · rw [List.mem_cons, List.mem_cons, hmem]
        refine or_congr_left ⟨fun h => by rw [h], fun h => ofRevision_injective h⟩
      · obtain ⟨hnew, hnames⟩ := List.nodup_cons.mp hnames
        exact List.nodup_cons.mpr ⟨fun h => hnew ((hmem n).mp h), hnodup hnames⟩
    · refine ⟨found, ?_, fun k => ?_, fun hnames => hnodup (List.nodup_cons.mp hnames).2⟩
      · rw [revisions] at hfound ⊢
        rw [List.filterMap_cons_none (digits?_eq_none hnone), hfound]
      · rw [hmem, List.mem_cons, or_iff_right]
        rintro rfl
        rw [ofRevision, stem?_append] at hnone
        cases hnone

end FileName

/-! ## The greatest revision -/

theorem le_foldl_max (l : List Int) : ∀ start : Int, start ≤ l.foldl max start ∧
    ∀ k ∈ l, k ≤ l.foldl max start := by
  induction l with
  | nil => exact fun start => ⟨Int.le_refl _, by simp⟩
  | cons a l ih =>
    intro start
    obtain ⟨hstart, hall⟩ := ih (max start a)
    rw [List.foldl_cons]
    refine ⟨by omega, fun k hk => ?_⟩
    rcases List.mem_cons.mp hk with rfl | hk
    · omega
    · exact hall k hk

theorem foldl_max_le {n : Int} (l : List Int) (hall : ∀ k ∈ l, k ≤ n) :
    ∀ start : Int, start ≤ n → l.foldl max start ≤ n := by
  induction l with
  | nil => exact fun start hstart => hstart
  | cons a l ih =>
    intro start hstart
    have ha := hall a (by simp)
    exact ih (fun k hk => hall k (List.mem_cons_of_mem _ hk)) (max start a) (by omega)

/-- The greatest of several revisions. -/
theorem lastRevision_eq {revisions : List Int} {n : Int} (hnonneg : 0 ≤ n)
    (hle : ∀ k ∈ revisions, k ≤ n) (hmem : 0 < n → n ∈ revisions) : lastRevision revisions = n := by
  obtain ⟨hzero, hall⟩ := le_foldl_max revisions 0
  have hmost := foldl_max_le revisions hle 0 hnonneg
  rw [lastRevision]
  rcases Int.lt_or_eq_of_le hnonneg with hpos | hzero'
  · have := hall n (hmem hpos)
    omega
  · omega

theorem mem_ascending {revisions : List Int} {k : Int} : k ∈ ascending revisions ↔ k ∈ revisions :=
  (List.mergeSort_perm _ _).mem_iff

theorem pairwise_ascending (revisions : List Int) :
    (ascending revisions).Pairwise fun a b => a ≤ b := by
  have hpairs : (ascending revisions).Pairwise fun a b : Int => decide (a ≤ b) = true :=
    List.pairwise_mergeSort (fun a b c hab hbc => by simp only [decide_eq_true_eq] at *; omega)
      (fun a b => by simp only [Bool.or_eq_true, decide_eq_true_eq]; omega) revisions
  exact hpairs.imp fun h => by simpa using h

/-- The greatest revision comes last. -/
theorem getLast?_ascending {revisions : List Int} {n : Int} (hmem : n ∈ revisions)
    (hle : ∀ k ∈ revisions, k ≤ n) : (ascending revisions).getLast? = some n := by
  have hlast : n ∈ ascending revisions := mem_ascending.mpr hmem
  have hne : ascending revisions ≠ [] := List.ne_nil_of_mem hlast
  have hmost : (ascending revisions).getLast hne ≤ n := hle _ (mem_ascending.mp (List.getLast_mem hne))
  have hleast : n ≤ (ascending revisions).getLast hne :=
    (pairwise_ascending revisions).rel_getLast hlast
  rw [List.getLast?_eq_some_getLast hne, Int.le_antisymm hmost hleast]

/-- Two lists of the same revisions, each once, are the same in ascending order. -/
theorem ascending_congr {revisions revisions' : List Int} (hnodup : revisions.Nodup)
    (hnodup' : revisions'.Nodup) (hmem : ∀ k, k ∈ revisions ↔ k ∈ revisions') :
    ascending revisions = ascending revisions' := by
  have hperm : (ascending revisions).Perm (ascending revisions') :=
    (List.mergeSort_perm _ _).trans
      (((List.perm_ext_iff_of_nodup hnodup hnodup').mpr hmem).trans (List.mergeSort_perm _ _).symm)
  exact hperm.eq_of_pairwise (fun a b _ _ hab hba => Int.le_antisymm hab hba)
    (pairwise_ascending _) (pairwise_ascending _)

end Rollout
