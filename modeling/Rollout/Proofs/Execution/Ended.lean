import Mathlib.Data.Finset.Card
import Mathlib.Data.Finset.Range
import Rollout.Proofs.Execution.Steps

/-!
# How an execution ends

* `Run.Ended` : no action can be started and none is running;
* `Run.Decided` : the status of every action follows from the actions it waits for and from its own
  outcome, and no action is left over;
* `Run.Reached.decided` : so it is when an execution has ended;
* `Run.Decided.unique` : which leaves one way to end;
* `Run.exists_ended`, `Run.no_endless` : an execution ends, whatever it does next.
-/

set_option autoImplicit false

namespace Rollout.Run

open Relation

/-- An execution has ended: no action can be started, and none is running. -/
def Ended (s : Schedule) (limit : Int) (outcome : Nat → Outcome) (run : Run) : Prop :=
  ∀ run', ¬ Step s limit outcome run run'

/-- The status of every action follows from the actions it waits for and from its own outcome. -/
structure Decided (s : Schedule) (outcome : Nat → Outcome) (run : Run) : Prop where
  size : run.records.length = s.size
  settled : ∀ i < s.size, run.status? i = some .succeeded ∨ run.status? i = some .failed ∨
    run.status? i = some .skipped
  succeeded : ∀ i < s.size, run.status? i = some .succeeded ↔
    (∀ j ∈ s.waits i, run.status? j = some .succeeded) ∧
      ∃ returned, outcome i = .succeeded returned
  failed : ∀ i < s.size, run.status? i = some .failed ↔
    (∀ j ∈ s.waits i, run.status? j = some .succeeded) ∧ ∃ text, outcome i = .failed text
  skipped : ∀ i < s.size, run.status? i = some .skipped ↔
    ∃ j ∈ s.waits i, run.status? j ≠ some .succeeded

variable {s : Schedule} {limit : Int} {outcome : Nat → Outcome} {run run' : Run}

/-! ## What has ended is decided -/

theorem ended_iff (hlimit : 0 < limit) :
    Ended s limit outcome run ↔ run.running = [] ∧ ∀ i, isReady s run i = false := by
  constructor
  · intro h
    have hrunning : run.running = [] := by
      by_contra hne
      obtain ⟨i, hi⟩ := List.exists_mem_of_ne_nil _ hne
      exact h _ (.settle default hi)
    refine ⟨hrunning, fun i => Bool.eq_false_iff.mpr fun hready => h _ (.start default hready ?_)⟩
    simpa [hrunning] using hlimit
  · rintro ⟨hrunning, hready⟩ run' hstep
    cases hstep with
    | start _ ready _ =>
      rw [hready] at ready
      cases ready
    | settle _ running =>
      rw [hrunning] at running
      cases running

/-- Where nothing runs and nothing is ready, every action has an end. -/
theorem Inv.settled (hs : s.Lawful) (h : Inv s outcome run) (hrunning : run.running = [])
    (hready : ∀ i, isReady s run i = false) :
    ∀ i < s.size, run.status? i = some .succeeded ∨ run.status? i = some .failed ∨
      run.status? i = some .skipped := by
  refine hs.orders.induction fun i hi ih => ?_
  obtain ⟨st, hst⟩ := status?_isSome (h.size.symm ▸ hi)
  cases st with
  | succeeded => exact .inl hst
  | failed => exact .inr (.inl hst)
  | skipped => exact .inr (.inr hst)
  | cancelled => exact absurd hst (h.uncancelled i)
  | running =>
    have := (h.mem_running i).mpr hst
    rw [hrunning] at this
    cases this
  | pending =>
    -- an action that is pending is neither blocked nor ready, so it waits for one without an end
    have hwaits : ∀ j ∈ s.waits i, run.status? j = some .succeeded := by
      intro j hj
      rcases ih j hj (hs.below i j hj).2 with hj' | hj' | hj'
      · exact hj'
      · have := isBlocked_iff.mpr ⟨hst, j, hj, _, hj', .inl rfl⟩
        rw [h.unblocked i] at this
        cases this
      · have := isBlocked_iff.mpr ⟨hst, j, hj, _, hj', .inr rfl⟩
        rw [h.unblocked i] at this
        cases this
    have := isReady_iff.mpr ⟨hst, hwaits⟩
    rw [hready i] at this
    cases this

theorem Inv.decided (hs : s.Lawful) (h : Inv s outcome run) (hrunning : run.running = [])
    (hready : ∀ i, isReady s run i = false) : Decided s outcome run := by
  have hsettled := h.settled hs hrunning hready
  have hskipped : ∀ i, run.status? i = some .skipped →
      ∃ j ∈ s.waits i, run.status? j ≠ some .succeeded := by
    intro i hi
    obtain ⟨j, hj, st, hst, hlost⟩ := h.skipped i hi
    refine ⟨j, hj, fun hj' => ?_⟩
    rw [hst, Option.some.injEq] at hj'
    subst hj'
    rcases hlost with h | h <;> cases h
  refine ⟨h.size, hsettled, fun i hi => ⟨fun hst => ?_, ?_⟩, fun i hi => ⟨fun hst => ?_, ?_⟩,
    fun i hi => ⟨hskipped i, ?_⟩⟩
  · exact ⟨h.granted i _ hst (.inr (.inl rfl)), h.succeeded i hst⟩
  · rintro ⟨hwaits, returned, ho⟩
    rcases hsettled i hi with hst | hst | hst
    · exact hst
    · obtain ⟨text, ho'⟩ := h.failed i hst
      rw [ho] at ho'
      cases ho'
    · obtain ⟨j, hj, hne⟩ := hskipped i hst
      exact absurd (hwaits j hj) hne
  · exact ⟨h.granted i _ hst (.inr (.inr rfl)), h.failed i hst⟩
  · rintro ⟨hwaits, text, ho⟩
    rcases hsettled i hi with hst | hst | hst
    · obtain ⟨returned, ho'⟩ := h.succeeded i hst
      rw [ho] at ho'
      cases ho'
    · exact hst
    · obtain ⟨j, hj, hne⟩ := hskipped i hst
      exact absurd (hwaits j hj) hne
  · rintro ⟨j, hj, hne⟩
    rcases hsettled i hi with hst | hst | hst
    · exact absurd (h.granted i _ hst (.inr (.inl rfl)) j hj) hne
    · exact absurd (h.granted i _ hst (.inr (.inr rfl)) j hj) hne
    · exact hst

/-- **When an execution has ended, the status of every action is decided.** -/
theorem Reached.decided (hs : s.Lawful) (hlimit : 0 < limit) (h : Reached s limit outcome run)
    (hended : Ended s limit outcome run) : Decided s outcome run := by
  obtain ⟨hrunning, hready⟩ := (ended_iff hlimit).mp hended
  exact (h.inv hs).decided hs hrunning hready

/-! ## There is one way to end -/

/-- **The outcomes decide the statuses.** -/
theorem Decided.unique (hs : s.Lawful) (h : Decided s outcome run) (h' : Decided s outcome run') :
    run.statuses = run'.statuses := by
  have hall : ∀ i < s.size, run.status? i = run'.status? i := by
    refine hs.orders.induction fun i hi ih => ?_
    have hwaits : (∀ j ∈ s.waits i, run.status? j = some .succeeded) ↔
        ∀ j ∈ s.waits i, run'.status? j = some .succeeded :=
      forall₂_congr fun j hj => by rw [ih j hj (hs.below i j hj).2]
    rcases h.settled i hi with hst | hst | hst
    · rw [hst, (h'.succeeded i hi).mpr]
      obtain ⟨hall, ho⟩ := (h.succeeded i hi).mp hst
      exact ⟨hwaits.mp hall, ho⟩
    · rw [hst, (h'.failed i hi).mpr]
      obtain ⟨hall, ho⟩ := (h.failed i hi).mp hst
      exact ⟨hwaits.mp hall, ho⟩
    · rw [hst, (h'.skipped i hi).mpr]
      obtain ⟨j, hj, hne⟩ := (h.skipped i hi).mp hst
      exact ⟨j, hj, ih j hj (hs.below i j hj).2 ▸ hne⟩
  refine List.ext_getElem? fun i => ?_
  rw [statuses_getElem?, statuses_getElem?]
  by_cases hi : i < s.size
  · exact hall i hi
  · simp only [status?]
    rw [List.getElem?_eq_none (by rw [h.size]; omega),
      List.getElem?_eq_none (by rw [h'.size]; omega)]

theorem Decided.anyPending_eq_false (h : Decided s outcome run) : run.anyPending = false := by
  refine Bool.eq_false_iff.mpr fun hany => ?_
  obtain ⟨r, hr, hp⟩ := List.any_eq_true.mp hany
  obtain ⟨i, hi, rfl⟩ := List.mem_iff_getElem.mp hr
  have hst : run.status? i = some .pending := by
    simpa [status?, hi] using hp
  rcases h.settled i (h.size ▸ hi) with h | h | h <;> rw [h] at hst <;> cases hst

/-- Nothing is left to be given up. -/
theorem Decided.cancelPending_eq (h : Decided s outcome run) : run.cancelPending = run := by
  have hno := List.any_eq_false.mp h.anyPending_eq_false
  have hrecords : (run.records.map fun r => if r.status = .pending then
      { r with status := .cancelled, error := some "operation cancelled" } else r) = run.records :=
    (List.map_congr_left fun r hr => if_neg (by simpa using hno r hr)).trans (List.map_id' _)
  rw [cancelPending, hrecords]

/-- What is recorded of an action that succeeded is its answer. -/
theorem Sound.find?_applied (h : Sound s outcome run) (i : Nat) :
    (run.applied.find? fun entry => entry.1 = i) =
      if run.status? i = some .succeeded then (s.answer? outcome i).map fun r => (i, r)
      else none := by
  cases hf : run.applied.find? fun entry => entry.1 = i with
  | none =>
    have hno := List.find?_eq_none.mp hf
    split
    · rename_i hst
      cases ha : s.answer? outcome i with
      | none => rfl
      | some r =>
        have := hno (i, r) ((h.mem_applied i r).mpr ⟨hst, ha⟩)
        simp at this
    · rfl
  | some entry =>
    obtain ⟨j, r⟩ := entry
    obtain rfl : j = i := by simpa using List.find?_some hf
    obtain ⟨hst, ha⟩ := (h.mem_applied j r).mp (List.mem_of_find?_eq_some hf)
    rw [if_pos hst, ha, Option.map_some]

/-- The statuses decide the resulting state. -/
theorem Sound.state_eq (h : Sound s outcome run) (h' : Sound s outcome run')
    (hstatuses : run.statuses = run'.statuses) (plan : Plan) (baseline : List Resource)
    (cancelled cancelled' : Bool) :
    (run.result plan baseline cancelled).state = (run'.result plan baseline cancelled').state := by
  have hstatus : ∀ i, run.status? i = run'.status? i := fun i => by
    rw [← statuses_getElem?, hstatuses, statuses_getElem?]
  have hresults : plan.results run.applied = plan.results run'.applied := by
    unfold Plan.results
    congr 1
    funext found entry
    obtain ⟨c, i⟩ := entry
    simp only [h.find?_applied, h'.find?_applied, hstatus]
  simp only [result, Plan.resultingState, hstatuses, hresults]

/-! ## An execution ends -/

/-- How many actions have not been started. -/
def pendings (s : Schedule) (run : Run) : Nat :=
  ((Finset.range s.size).filter fun i => run.status? i = some .pending).card

/-- How many actions have not been started or are running. -/
def unsettled (s : Schedule) (run : Run) : Nat :=
  ((Finset.range s.size).filter fun i =>
    run.status? i = some .pending ∨ run.status? i = some .running).card

theorem card_filter_le {n : Nat} {p q : Nat → Prop} [DecidablePred p] [DecidablePred q]
    (h : ∀ i, q i → p i) :
    ((Finset.range n).filter q).card ≤ ((Finset.range n).filter p).card :=
  Finset.card_le_card (Finset.monotone_filter_right _ fun i _ => h i)

theorem card_filter_lt {n i : Nat} {p q : Nat → Prop} [DecidablePred p] [DecidablePred q]
    (h : ∀ i, q i → p i) (hi : i < n) (hp : p i) (hq : ¬ q i) :
    ((Finset.range n).filter q).card < ((Finset.range n).filter p).card := by
  refine Finset.card_lt_card ((Finset.ssubset_iff_of_subset ?_).mpr ⟨i, ?_, ?_⟩)
  · exact Finset.monotone_filter_right _ fun i _ => h i
  · exact Finset.mem_filter.mpr ⟨Finset.mem_range.mpr hi, hp⟩
  · exact fun hmem => hq (Finset.mem_filter.mp hmem).2

theorem pendings_le_size (s : Schedule) (run : Run) : pendings s run ≤ s.size :=
  (Finset.card_filter_le _ _).trans (by simp)

theorem unsettled_le_size (s : Schedule) (run : Run) : unsettled s run ≤ s.size :=
  (Finset.card_filter_le _ _).trans (by simp)

theorem isReady_eq_false_of_pendings (hsize : run.records.length = s.size)
    (h : pendings s run = 0) (i : Nat) : isReady s run i = false := by
  refine Bool.eq_false_iff.mpr fun hready => ?_
  have hp := (isReady_iff.mp hready).1
  have hi : i ∈ (Finset.range s.size).filter fun i => run.status? i = some .pending :=
    Finset.mem_filter.mpr ⟨Finset.mem_range.mpr (hsize ▸ lt_of_status? hp), hp⟩
  rw [Finset.card_eq_zero.mp h] at hi
  simp at hi

/-- Starting an action leaves one less to be started. -/
theorem Inv.count_start {i : Nat} (h : Inv s outcome run) (hp : run.status? i = some .pending)
    (now : DateTime) :
    pendings s (run.start now i) < pendings s run ∧
      unsettled s (run.start now i) ≤ unsettled s run := by
  have hlt := lt_of_status? hp
  have hstatus := status?_start now hlt
  have hself : (run.start now i).status? i = some .running := (hstatus i).trans (if_pos rfl)
  have hother : ∀ j, j ≠ i → (run.start now i).status? j = run.status? j :=
    fun j hj => (hstatus j).trans (if_neg hj)
  constructor
  · refine card_filter_lt (fun j hj => ?_) (h.size ▸ hlt) hp (by simp [hself])
    by_cases hji : j = i
    · exact hji ▸ hp
    · exact hother j hji ▸ hj
  · refine card_filter_le fun j hj => ?_
    by_cases hji : j = i
    · exact .inl (hji ▸ hp)
    · exact hother j hji ▸ hj

/-- The end of an action leaves one less unsettled. -/
theorem Inv.count_settle {i : Nat} (h : Inv s outcome run) (hi : i ∈ run.running)
    (now : DateTime) (o : Outcome) :
    pendings s (run.settle s now (i, o)) ≤ pendings s run ∧
      unsettled s (run.settle s now (i, o)) < unsettled s run := by
  have hrun := (h.mem_running i).mp hi
  obtain ⟨hself, hother⟩ := h.toSound.status?_settle hi now o
  have hend : (run.settle s now (i, o)).status? i ≠ some .pending ∧
      (run.settle s now (i, o)).status? i ≠ some .running := by
    rcases hself with ⟨hst, _⟩ | ⟨hst, _⟩ <;> simp [hst]
  constructor
  · refine card_filter_le fun j hj => ?_
    by_cases hji : j = i
    · exact absurd (hji ▸ hj) hend.1
    · rcases hother j hji with he | ⟨hp, _⟩
      · exact he ▸ hj
      · exact hp
  · refine card_filter_lt (fun j hj => ?_) (h.size ▸ lt_of_status? hrun) (.inr hrun)
      (not_or.mpr hend)
    by_cases hji : j = i
    · subst hji
      exact .inr hrun
    · rcases hother j hji with he | ⟨hp, _⟩
      · exact he ▸ hj
      · exact .inl hp

/-- **Every step brings an execution nearer to its end.** -/
theorem Inv.count_lt (h : Inv s outcome run) (hstep : Step s limit outcome run run') :
    pendings s run' + unsettled s run' < pendings s run + unsettled s run := by
  cases hstep with
  | start now ready _ =>
    have := h.count_start (isReady_iff.mp ready).1 now
    omega
  | @settle now i running =>
    have := h.count_settle running now (outcome i)
    omega

/-- **Every execution can be brought to its end**, from wherever it has come to. -/
theorem exists_ended (hs : s.Lawful) (h : Reached s limit outcome run) :
    ∃ run', ReflTransGen (Step s limit outcome) run run' ∧ Ended s limit outcome run' := by
  induction hk : pendings s run + unsettled s run using Nat.strong_induction_on
    generalizing run with
  | _ k ih =>
    by_cases hended : Ended s limit outcome run
    · exact ⟨run, .refl, hended⟩
    · obtain ⟨next, hstep⟩ : ∃ next, Step s limit outcome run next := by
        simpa [Ended] using hended
      have hlt := (h.inv hs).count_lt hstep
      obtain ⟨run', hpath, hended'⟩ := ih _ (hk ▸ hlt) (h.tail hstep) rfl
      exact ⟨run', hpath.head hstep, hended'⟩

/-- **No execution goes on forever.** -/
theorem no_endless (hs : s.Lawful) (runs : Nat → Run) (hinit : runs 0 = init s) :
    ¬ ∀ k, Step s limit outcome (runs k) (runs (k + 1)) := by
  intro hsteps
  have hreached : ∀ k, Reached s limit outcome (runs k) := by
    intro k
    induction k with
    | zero => exact hinit ▸ .refl
    | succ k ih => exact ih.tail (hsteps k)
  have hbound : ∀ k, pendings s (runs k) + unsettled s (runs k) + k
      ≤ pendings s (runs 0) + unsettled s (runs 0) := by
    intro k
    induction k with
    | zero => exact Nat.le_refl _
    | succ k ih =>
      have := ((hreached k).inv hs).count_lt (hsteps k)
      omega
  have := hbound (pendings s (runs 0) + unsettled s (runs 0) + 1)
  omega

end Rollout.Run
