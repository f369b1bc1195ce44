import Rollout.Proofs.Execution.Executor
import Rollout.Proofs.Graph.Countdown

/-!
# Executing by counting down

`Run.ready?` looks for the next action among all of them, and a failure skips the blocked ones in the
order of the schedule.  Here an execution has a counter for every action and a pool of those that are
ready.  A success counts down the actions that wait for it, and a failure skips them with a stack.

* `Schedule.of?_counted` : whether a plan has a schedule is found by counting down;
* `Run.skipWaiting` : a stack of the actions that are to be skipped;
* `Run.skipWaiting_eq` : what it skips is what is blocked;
* `Tally.settle`, `Tally.Agrees` : a run with its counters, and that they are right;
* `Dispatch.complete` : executing a plan with counters;
* `Dispatch.complete_eq` : it is `Execution.complete`.
-/

set_option autoImplicit false

namespace Rollout

namespace Schedule

/-- The positions of the actions that wait for the one at a position. -/
def followers (s : Schedule) : Nat → List Nat := Graph.inverse s.before

/-- The actions of a plan and those that wait for them. -/
theorem network_before (plan : Plan) (baseline : List Resource) :
    Network (Graph.entry (plan.actions.map (prerequisites baseline plan.actions)))
      (Graph.inverse (plan.actions.map (prerequisites baseline plan.actions)))
      plan.actions.length := by
  have hlength : (plan.actions.map (prerequisites baseline plan.actions)).length
      = plan.actions.length := List.length_map _
  have hnodup : ∀ i,
      (Graph.entry (plan.actions.map (prerequisites baseline plan.actions)) i).Nodup := by
    intro i
    rw [Graph.entry, List.getD_eq_getElem?_getD, List.getElem?_map]
    cases plan.actions[i]? with
    | none => exact List.nodup_nil
    | some c => exact List.nodup_range.filter _
  rw [← hlength]
  refine .of_inverse hnodup fun i j hj => ?_
  obtain ⟨c, hc, d, hd, _⟩ := mem_before_iff.mp hj
  rw [hlength]
  exact ⟨(List.getElem?_eq_some_iff.mp hc).1, (List.getElem?_eq_some_iff.mp hd.1).1⟩

/-- The actions of a schedule and those that wait for them. -/
theorem network_of {plan : Plan} {baseline : List Resource} {s : Schedule}
    (h : of? plan baseline = .ok s) : Network s.waits s.followers s.size := by
  obtain ⟨hactions, hbefore, _⟩ := of?_inv h
  have hnet := network_before plan baseline
  rw [← hbefore, ← hactions] at hnet
  exact hnet

/-- **Whether a plan has a schedule is found by counting down**, taking the latest action out each
time: it has one if every action has been taken out, and otherwise the actions whose counters are left
are reported. -/
theorem of?_counted (plan : Plan) (baseline : List Resource) :
    let before := plan.actions.map (prerequisites baseline plan.actions)
    ∃ last, Countdown.turns .latest (Graph.inverse before) (plan.actions.length + 1)
        (.start (Graph.entry before) plan.actions.length) = some last ∧
      of? plan baseline =
        if last.placed.length = plan.actions.length then
          .ok ⟨plan.actions, before, (arrange (Graph.entry before) plan.actions.length).placed⟩
        else .error (.cycle (last.left.filterMap fun i =>
          (plan.actions[i]?).map Change.actionLabel)) := by
  intro before
  obtain ⟨last, hlast, hleft, hlength⟩ :=
    Countdown.turns_stuck (network_before plan baseline) .latest
  refine ⟨last, hlast, ?_⟩
  have hall : last.placed.length = plan.actions.length ↔
      (arrange (Graph.entry before) plan.actions.length).stuck.isEmpty = true := by
    rw [List.isEmpty_iff, ← List.length_eq_zero_iff]
    change last.placed.length + (arrange (Graph.entry before) _).stuck.length = _ at hlength
    omega
  rw [hleft]
  simp only [of?, hall]
  rfl

end Schedule

namespace Run

variable {s : Schedule} {outcome : Nat → Outcome} {run run' run'' : Run} {i : Nat} {reason : String}

/-! ## Skipping with a stack -/

/-- The record of an action that is skipped. -/
def skipped (reason : String) (r : ActionRecord) : ActionRecord :=
  { r with status := .skipped, error := some reason }

/-- The number of actions that have not been started and are not skipped. -/
def countPending (run : Run) : Nat := run.records.countP fun r => r.status = .pending

theorem countPending_record_lt (h : run.status? i = some .pending) (reason : String) :
    (run.record i (skipped reason)).countPending < run.countPending := by
  obtain ⟨front, r, back, hsplit, hlength, hmodify⟩ :=
    List.exists_of_modify (skipped reason) (lt_of_status? h)
  have hr : r.status = .pending := by
    rw [status?, hsplit, ← hlength, List.getElem?_append_right (Nat.le_refl _)] at h
    simpa using h
  unfold countPending record
  rw [hmodify, hsplit]
  simp [List.countP_append, hr, skipped]

/-- Skips the actions of a stack, its top in front, and those that wait for them, until the stack is
empty. -/
def skipWaiting (after : Nat → List Nat) (reason : String) (stack : List Nat) (run : Run) : Run :=
  match stack with
  | [] => run
  | i :: stack =>
    if run.status? i = some .pending then
      skipWaiting after reason ((after i).reverse ++ stack) (run.record i (skipped reason))
    else skipWaiting after reason stack run
termination_by (run.countPending, stack.length)
decreasing_by
  · exact .left _ _ (countPending_record_lt ‹_› reason)
  · exact .right _ (Nat.lt_succ_self _)

/-- One run comes from another one by skipping actions, whose records say why. -/
def Marks (reason : String) (run run' : Run) : Prop :=
  ∀ i, run'.records[i]? = run.records[i]? ∨
    run.status? i = some .pending ∧ run'.records[i]? = (run.records[i]?).map (skipped reason)

theorem status?_of_map {f : ActionRecord → ActionRecord} {st : Status} (hf : ∀ r, (f r).status = st)
    (hlt : i < run.records.length) (h : run'.records[i]? = (run.records[i]?).map f) :
    run'.status? i = some st := by
  rw [status?, h, List.getElem?_eq_getElem hlt]
  simp [hf]

theorem marks_skipIfBlocked (s : Schedule) (reason : String) (run : Run) (i : Nat) :
    Marks reason run (skipIfBlocked s reason run i) := by
  intro k
  unfold skipIfBlocked
  split
  · rename_i hb
    rw [record, List.getElem?_modify]
    by_cases hk : i = k
    · subst hk
      exact .inr ⟨(isBlocked_iff.mp hb).1, by simp; rfl⟩
    · simp [hk]
  · exact .inl rfl

theorem Marks.trans (h : Marks reason run run') (h' : Marks reason run' run'') :
    Marks reason run run'' := by
  intro i
  rcases h i with hkept | ⟨hpending, hskipped⟩
  · have hstatus : run'.status? i = run.status? i := by rw [status?, hkept, status?]
    rcases h' i with hkept' | ⟨hpending', hskipped'⟩
    · exact .inl (hkept'.trans hkept)
    · exact .inr ⟨hstatus ▸ hpending', hkept ▸ hskipped'⟩
  · rcases h' i with hkept' | ⟨hpending', _⟩
    · exact .inr ⟨hpending, hkept'.trans hskipped⟩
    · -- an action is not skipped twice
      rw [status?_of_map (f := skipped reason) (fun _ => rfl) (lt_of_status? hpending) hskipped]
        at hpending'
      cases hpending'

theorem marks_foldl (s : Schedule) (reason : String) : ∀ (visited : List Nat) (run : Run),
    Marks reason run (visited.foldl (skipIfBlocked s reason) run)
  | [], _ => fun _ => .inl rfl
  | i :: visited, run =>
    (marks_skipIfBlocked s reason run i).trans (marks_foldl s reason visited _)

/-- An action that one way of skipping leaves skipped is skipped by every way that leaves none blocked,
if the actions it waits for have the same statuses. -/
theorem Skips.skipped_of_skipped (h : Skips s run run') (h' : Skips s run run'')
    (hfree' : ∀ i, isBlocked s run'' i = false)
    (hsame : ∀ j ∈ s.waits i, run'.status? j = run''.status? j)
    (hskipped : run'.status? i = some .skipped) (hpending : run.status? i = some .pending) :
    run''.status? i = some .skipped := by
  obtain ⟨j, hj, st, hst, hlost⟩ : ∃ j ∈ s.waits i, ∃ st, run'.status? j = some st ∧ st.IsLost := by
    rcases h.status i with hkept | ⟨_, _, hlost⟩
    · rw [hskipped, hpending] at hkept
      cases hkept
    · exact hlost
  rcases h'.status i with hkept | ⟨_, hdone, _⟩
  · have hblocked := isBlocked_iff.mpr
      ⟨hkept.trans hpending, j, hj, st, (hsame j hj).symm.trans hst, hlost⟩
    rw [hfree' i] at hblocked
    cases hblocked
  · exact hdone

/-- Where no action is left blocked, the statuses do not depend on how the blocked were skipped. -/
theorem Skips.status?_eq (hs : s.Lawful) (hsize : run.records.length = s.size)
    (h : Skips s run run') (hfree : ∀ i, isBlocked s run' i = false)
    (h' : Skips s run run'') (hfree' : ∀ i, isBlocked s run'' i = false) (i : Nat) :
    run'.status? i = run''.status? i := by
  by_cases hi : i < s.size
  · revert hi i
    -- what an action waits for is settled before the action itself
    refine hs.orders.induction fun i hi ih => ?_
    have hsame : ∀ j ∈ s.waits i, run'.status? j = run''.status? j := fun j hj =>
      ih j hj (hs.below i j hj).2
    rcases h.status i with hkept | ⟨hpending, hskipped, _⟩
    · rcases h'.status i with hkept' | ⟨hpending', hskipped', _⟩
      · exact hkept.trans hkept'.symm
      · rw [h'.skipped_of_skipped h hfree (fun j hj => (hsame j hj).symm) hskipped' hpending',
          hskipped']
    · rw [h.skipped_of_skipped h' hfree' hsame hskipped hpending, hskipped]
  · have hnone : ∀ {a : Run}, Skips s run a → a.status? i = none := fun ha => by
      rw [status?, List.getElem?_eq_none (by rw [ha.size, hsize]; omega), Option.map_none]
    rw [hnone h, hnone h']

/-- An action that only the second of two runs has skipped has different statuses in them. -/
theorem status?_ne_of_skipped (hkept : run'.records[i]? = run.records[i]?)
    (hpending : run.status? i = some .pending)
    (hskipped : run''.records[i]? = (run.records[i]?).map (skipped reason)) :
    run'.status? i ≠ run''.status? i := by
  intro hsame
  rw [status?_of_map (f := skipped reason) (fun _ => rfl) (lt_of_status? hpending) hskipped,
    status?, hkept] at hsame
  rw [status?, hsame] at hpending
  cases hpending

/-- **In whatever order the blocked actions are skipped** until none is left, the run is the same. -/
theorem foldl_skipIfBlocked_eq (hs : s.Lawful) (hsize : run.records.length = s.size)
    {visited visited' : List Nat}
    (hfree : ∀ i, isBlocked s (visited.foldl (skipIfBlocked s reason) run) i = false)
    (hfree' : ∀ i, isBlocked s (visited'.foldl (skipIfBlocked s reason) run) i = false) :
    visited.foldl (skipIfBlocked s reason) run = visited'.foldl (skipIfBlocked s reason) run := by
  have hskips := foldl_skips s reason visited run
  have hskips' := foldl_skips s reason visited' run
  have hstatus := hskips.status?_eq hs hsize hfree hskips' hfree'
  have hmarks := marks_foldl s reason visited run
  have hmarks' := marks_foldl s reason visited' run
  generalize visited.foldl (skipIfBlocked s reason) run = a at *
  generalize visited'.foldl (skipIfBlocked s reason) run = b at *
  have hrecords : a.records = b.records := by
    refine List.ext_getElem? fun i => ?_
    rcases hmarks i with hkept | ⟨hpending, hskipped⟩
    · rcases hmarks' i with hkept' | ⟨hpending', hskipped'⟩
      · exact hkept.trans hkept'.symm
      · exact absurd (hstatus i) (status?_ne_of_skipped hkept hpending' hskipped')
    · rcases hmarks' i with hkept' | ⟨_, hskipped'⟩
      · exact absurd (hstatus i).symm (status?_ne_of_skipped hkept' hpending hskipped)
      · exact hskipped.trans hskipped'.symm
  obtain ⟨records, applied, running⟩ := a
  obtain ⟨records', applied', running'⟩ := b
  simp only [Run.mk.injEq]
  exact ⟨hrecords, hskips.applied.trans hskips'.applied.symm,
    hskips.running.trans hskips'.running.symm⟩

/-- A stack of actions that wait for lost ones, with all blocked ones among them, comes to be empty when
none is blocked any more. -/
theorem exists_skipWaiting (net : Network s.waits s.followers s.size) (reason : String)
    (stack : List Nat) (run : Run)
    (hlost : ∀ w ∈ stack, ∃ j ∈ s.waits w, ∃ st, run.status? j = some st ∧ st.IsLost)
    (hblocked : ∀ w, isBlocked s run w = true → w ∈ stack) :
    ∃ visited : List Nat, skipWaiting s.followers reason stack run =
        visited.foldl (skipIfBlocked s reason) run ∧
      ∀ i, isBlocked s (visited.foldl (skipIfBlocked s reason) run) i = false := by
  fun_induction skipWaiting s.followers reason stack run with
  | case1 run =>
    refine ⟨[], rfl, fun i => Bool.eq_false_iff.mpr fun hb => ?_⟩
    cases hblocked i hb
  | case2 run i stack hpending ih =>
    have hb : isBlocked s run i = true := isBlocked_iff.mpr ⟨hpending, hlost i List.mem_cons_self⟩
    have hskip : skipIfBlocked s reason run i = run.record i (skipped reason) := by
      rw [skipIfBlocked, if_pos hb]
      rfl
    have hstatus := status?_skipIfBlocked reason hb
    rw [hskip] at hstatus
    have hother : ∀ {j : Nat} {st : Status}, run.status? j = some st → st.IsLost →
        (run.record i (skipped reason)).status? j = some st := fun {j} {st} hj hst => by
      have hji : j ≠ i := by
        rintro rfl
        rw [hpending, Option.some_inj] at hj
        exact hst.ne_pending hj.symm
      rw [hstatus, if_neg hji, hj]
    have hstack : ∀ w ∈ (s.followers i).reverse ++ stack, ∃ j ∈ s.waits w, ∃ st,
        (run.record i (skipped reason)).status? j = some st ∧ st.IsLost := by
      intro w hw
      rcases List.mem_append.mp hw with hw | hw
      · -- what waits for the skipped action waits for a lost one
        refine ⟨i, (net.mem_after i w).mp (List.mem_reverse.mp hw), .skipped, ?_, .inr rfl⟩
        rw [hstatus, if_pos rfl]
      · obtain ⟨j, hj, st, hst, hlost⟩ := hlost w (List.mem_cons_of_mem _ hw)
        exact ⟨j, hj, st, hother hst hlost, hlost⟩
    have hrest : ∀ w, isBlocked s (run.record i (skipped reason)) w = true →
        w ∈ (s.followers i).reverse ++ stack := by
      intro w hw
      obtain ⟨hw, j, hj, st, hst, hlost⟩ := isBlocked_iff.mp hw
      have hwi : w ≠ i := by
        rintro rfl
        rw [hstatus, if_pos rfl] at hw
        cases hw
      rw [hstatus, if_neg hwi] at hw
      rw [List.mem_append, List.mem_reverse]
      by_cases hji : j = i
      · exact .inl ((net.mem_after i w).mpr (hji ▸ hj))
      · rw [hstatus, if_neg hji] at hst
        have hmem := hblocked w (isBlocked_iff.mpr ⟨hw, j, hj, st, hst, hlost⟩)
        exact .inr ((List.mem_cons.mp hmem).resolve_left hwi)
    obtain ⟨visited, hvisited, hfree⟩ := ih hstack hrest
    exact ⟨i :: visited, by rw [List.foldl_cons, hskip, hvisited],
      by rw [List.foldl_cons, hskip]; exact hfree⟩
  | case3 run i stack hpending ih =>
    refine ih (fun w hw => hlost w (List.mem_cons_of_mem _ hw)) fun w hw => ?_
    refine (List.mem_cons.mp (hblocked w hw)).resolve_left ?_
    rintro rfl
    exact hpending (isBlocked_iff.mp hw).1

/-- **The stack skips what is blocked**, if what waits for the action that failed is put on it, and
nothing else is blocked. -/
theorem skipWaiting_eq (net : Network s.waits s.followers s.size) (hs : s.Lawful)
    (hsize : run.records.length = s.size) (hfailed : run.status? i = some .failed)
    (hblocked : ∀ w, isBlocked s run w = true → i ∈ s.waits w) (reason : String) :
    skipWaiting s.followers reason (s.followers i).reverse run = skipBlocked s reason run := by
  obtain ⟨visited, hvisited, hfree⟩ := exists_skipWaiting net reason (s.followers i).reverse run
    (fun w hw => ⟨i, (net.mem_after i w).mp (List.mem_reverse.mp hw), .failed, hfailed, .inl rfl⟩)
    fun w hw => List.mem_reverse.mpr ((net.mem_after i w).mpr (hblocked w hw))
  rw [hvisited]
  exact foldl_skipIfBlocked_eq hs hsize hfree (skipBlocked_unblocked hs reason hsize)

/-- When an action fails, only what waits for it is blocked. -/
theorem Inv.waits_of_blocked (h : Inv s outcome run)
    (hstatus : ∀ j, run'.status? j = if j = i then some .failed else run.status? j) {w : Nat}
    (hw : isBlocked s run' w = true) : i ∈ s.waits w := by
  obtain ⟨hpending, j, hj, st, hst, hlost⟩ := isBlocked_iff.mp hw
  have hwi : w ≠ i := by
    rintro rfl
    rw [hstatus, if_pos rfl] at hpending
    cases hpending
  rw [hstatus, if_neg hwi] at hpending
  by_contra hnot
  have hji : j ≠ i := fun h => hnot (h ▸ hj)
  rw [hstatus, if_neg hji] at hst
  have hb := isBlocked_iff.mpr ⟨hpending, j, hj, st, hst, hlost⟩
  rw [h.unblocked w] at hb
  cases hb

/-- An action that waits for successes only is not skipped. -/
theorem Skips.status?_of_granted (h : Skips s run run')
    (hwaits : ∀ j ∈ s.waits i, run.status? j = some .succeeded) : run'.status? i = run.status? i := by
  rcases h.status i with hkept | ⟨_, _, j, hj, st, hst, hlost⟩
  · exact hkept
  · rw [h.kept (hwaits j hj) (by simp), Option.some_inj] at hst
    subst hst
    rcases hlost with h | h <;> cases h

end Run

/-! ## Runs with counters -/

/-- A run, and the counters of its actions. -/
structure Tally where
  run : Run
  counters : Counters
deriving DecidableEq, Repr

namespace Tally

/-- A run that has not begun. -/
def init (s : Schedule) : Tally := ⟨.init s, .start s.waits s.size⟩

/-- Starts an action that was taken out of the pool. -/
def start (now : DateTime) (t : Tally) (taken : Nat × List Nat) : Tally :=
  ⟨t.run.start now taken.1, ⟨t.counters.missing, taken.2⟩⟩

/-- Ends an action: a success counts down those that wait for it, a failure skips them. -/
def settle (s : Schedule) (now : DateTime) (t : Tally) (ended : Nat × Outcome) : Tally :=
  let (i, outcome) := ended
  let run := { t.run with running := t.run.running.erase i }
  match s.actions[i]? with
  | none => { t with run }
  | some c =>
    match outcome with
    | .succeeded returned =>
      let run := run.record i fun r => { r with status := .succeeded, finishedAt := some now }
      let version := (Run.confirmedVersion c returned).map fun r => (i, r)
      { run := { run with applied := run.applied ++ version.toList }
        counters := (s.followers i).foldl
          (Counters.countDown fun w => run.status? w = some .pending) t.counters }
    | .failed text =>
      let run := run.record i fun r =>
        { r with status := .failed, error := some (Run.errorText c text), finishedAt := some now }
      { t with
        run := Run.skipWaiting s.followers (Run.skipReason c) (s.followers i).reverse run }

/-- Ends several actions, one after the other. -/
def settleAll (s : Schedule) (now : DateTime) (ended : List (Nat × Outcome)) (t : Tally) : Tally :=
  ended.foldl (settle s now) t

/-- The counters of a run are right. -/
def Agrees (s : Schedule) (t : Tally) : Prop :=
  t.counters.Faithful s.waits s.size (fun i => t.run.status? i = some .succeeded)
    fun i => t.run.status? i = some .pending

variable {s : Schedule} {outcome : Nat → Outcome} {t : Tally} {i : Nat}

theorem agrees_init (net : Network s.waits s.followers s.size) : (init s).Agrees s := by
  have hstatus : ∀ i < s.size, (Run.init s).status? i = some .pending := fun i hi => by
    obtain ⟨st, hst⟩ := Run.status?_isSome (Run.length_init s ▸ hi)
    rw [hst, Run.status?_init hst]
  refine (Counters.Faithful.start s.waits s.size).congr net (fun i hi => ?_) fun i hi _ => ?_
  · simp [init, hstatus i hi]
  · simp [init, hstatus i hi]

/-- **The first action that may start is the least of the pool.** -/
theorem Agrees.ready?_eq (h : t.Agrees s) : t.run.ready? s = t.counters.ready.min? := by
  refine find?_eq_min? List.pairwise_lt_range fun i => ?_
  rw [h.mem_ready, List.mem_range, Run.isReady_iff]
  simp only [decide_eq_true_eq]

theorem Agrees.start (net : Network s.waits s.followers s.size) (h : t.Agrees s)
    {taken : Nat × List Nat} (htake : Taking.least.take? t.counters.ready = some taken)
    (now : DateTime) (hsize : t.run.records.length = s.size) : (t.start now taken).Agrees s := by
  obtain ⟨i, rest⟩ := taken
  have hperm := Taking.least.perm htake
  obtain ⟨hlt, hpending, _⟩ := (h.mem_ready i).mp (hperm.mem_iff.mpr List.mem_cons_self)
  rw [decide_eq_true_eq] at hpending
  have hstatus : ∀ j, (t.run.start now i).status? j =
      if j = i then some .running else t.run.status? j :=
    Run.status?_start now (hsize.symm ▸ hlt)
  refine (h.take hperm).congr net (fun j _ => ?_) fun j _ _ => ?_
  · by_cases hj : j = i
    · subst hj
      simp [Tally.start, hstatus, hpending]
    · simp [Tally.start, hstatus, hj]
  · by_cases hj : j = i
    · subst hj
      simp [Tally.start, hstatus]
    · simp [Tally.start, hstatus, hj]

/-- What a success leaves: those that wait for the action have been counted down. -/
theorem Agrees.settle_succeeded (net : Network s.waits s.followers s.size)
    (hrun : t.run.status? i = some .running) {c : Change} (hc : s.actions[i]? = some c)
    (h : t.Agrees s) (now : DateTime) (returned : Option Resource) :
    (t.settle s now (i, .succeeded returned)).run =
        t.run.settle s now (i, .succeeded returned) ∧
      (t.settle s now (i, .succeeded returned)).Agrees s := by
  have hsettle : (t.settle s now (i, .succeeded returned)).run =
      t.run.settle s now (i, .succeeded returned) := by
    simp only [Tally.settle, Run.settle, hc]
  have hcounters : (t.settle s now (i, .succeeded returned)).counters =
      (s.followers i).foldl (Counters.countDown fun w =>
        (t.run.settle s now (i, .succeeded returned)).status? w = some .pending) t.counters := by
    simp only [Tally.settle, Run.settle, hc]
    rfl
  have hstatus : ∀ j, (t.run.settle s now (i, .succeeded returned)).status? j =
      if j = i then some .succeeded else t.run.status? j := by
    rw [Run.settle_succeeded hc]
    exact Run.status?_record { t.run with running := t.run.running.erase i } (fun _ => rfl)
      (Run.lt_of_status? hrun)
  have hpending : ∀ j,
      decide ((t.run.settle s now (i, .succeeded returned)).status? j = some .pending) =
        decide (t.run.status? j = some .pending) := fun j => by
    rw [hstatus]
    by_cases hj : j = i
    · simp [hj, hrun]
    · simp [hj]
  refine ⟨hsettle, ?_⟩
  rw [Agrees, hsettle, hcounters]
  refine (h.complete net (by simp [hrun]) fun w _ => hpending w).congr net (fun j _ => ?_)
    fun j _ _ => hpending j
  rw [hstatus]
  by_cases hj : j = i
  · simp [hj]
  · simp [hj]

/-- What a failure leaves: those that wait for the action have been skipped, and no counter has
changed. -/
theorem Agrees.settle_failed (net : Network s.waits s.followers s.size) (hs : s.Lawful)
    (hinv : Run.Inv s outcome t.run) (hrun : t.run.status? i = some .running) {c : Change}
    (hc : s.actions[i]? = some c) (h : t.Agrees s) (now : DateTime) (text : String) :
    (t.settle s now (i, .failed text)).run = t.run.settle s now (i, .failed text) ∧
      (t.settle s now (i, .failed text)).Agrees s := by
  obtain ⟨failed, hfailed⟩ : ∃ failed, failed =
      { t.run with running := t.run.running.erase i }.record i fun r =>
        { r with status := .failed, error := some (Run.errorText c text),
                 finishedAt := some now } := ⟨_, rfl⟩
  have hstatus : ∀ j, failed.status? j = if j = i then some .failed else t.run.status? j := by
    rw [hfailed]
    exact Run.status?_record { t.run with running := t.run.running.erase i } (fun _ => rfl)
      (Run.lt_of_status? hrun)
  have hsize : failed.records.length = s.size := by
    rw [hfailed, Run.length_record]
    exact hinv.size
  have hskipped : t.run.settle s now (i, .failed text) =
      Run.skipBlocked s (Run.skipReason c) failed := by
    rw [Run.settle_failed hc, hfailed]
  have hsettle : (t.settle s now (i, .failed text)).run =
      t.run.settle s now (i, .failed text) := by
    rw [hskipped, ← Run.skipWaiting_eq net hs hsize (by rw [hstatus, if_pos rfl])
      fun w hw => hinv.waits_of_blocked hstatus hw]
    simp only [Tally.settle, hc, hfailed]
  have hcounters : (t.settle s now (i, .failed text)).counters = t.counters := by
    simp only [Tally.settle, hc]
  refine ⟨hsettle, ?_⟩
  rw [Agrees, hsettle, hcounters, hskipped]
  have hskips := Run.skipBlocked_skips s (Run.skipReason c) failed
  have hsucceeded : ∀ j, failed.status? j = some .succeeded ↔ t.run.status? j = some .succeeded := by
    intro j
    rw [hstatus]
    by_cases hj : j = i
    · simp [hj, hrun]
    · simp [hj]
  refine h.congr net (fun j _ => ?_) fun j _ hwaits => ?_
  · rw [decide_eq_decide, ← hsucceeded]
    exact ⟨fun hj => hskips.from' hj (by simp), fun hj => hskips.kept hj (by simp)⟩
  · rw [hskips.status?_of_granted fun k hk => (hsucceeded k).mpr (by simpa using hwaits k hk),
      hstatus]
    by_cases hj : j = i
    · simp [hj, hrun]
    · simp [hj]

/-- **An action that ends leaves the same run and the right counters.** -/
theorem Agrees.settle (net : Network s.waits s.followers s.size) (hs : s.Lawful)
    (hinv : Run.Inv s outcome t.run) (hi : i ∈ t.run.running) (h : t.Agrees s) (now : DateTime)
    (o : Outcome) :
    (t.settle s now (i, o)).run = t.run.settle s now (i, o) ∧ (t.settle s now (i, o)).Agrees s := by
  have hrun := (hinv.mem_running i).mp hi
  obtain ⟨c, hc⟩ := s.exists_action (hinv.size ▸ Run.lt_of_status? hrun)
  cases o with
  | succeeded returned => exact h.settle_succeeded net hrun hc now returned
  | failed text => exact h.settle_failed net hs hinv hrun hc now text

/-- Several actions that end leave the same run and the right counters. -/
theorem Agrees.settleAll (net : Network s.waits s.followers s.size) (hs : s.Lawful)
    (now : DateTime) : ∀ (ended : List (Nat × Outcome)) (t : Tally), Run.Inv s outcome t.run →
      (ended.map Prod.fst).Nodup → (∀ p ∈ ended, p.1 ∈ t.run.running ∧ p.2 = outcome p.1) →
      t.Agrees s → (t.settleAll s now ended).run = t.run.settleAll s now ended ∧
        (t.settleAll s now ended).Agrees s
  | [], _, _, _, _, h => ⟨rfl, h⟩
  | (i, o) :: ended, t, hinv, hnodup, hended, h => by
    obtain ⟨hi, ho⟩ : i ∈ t.run.running ∧ o = outcome i := hended (i, o) List.mem_cons_self
    subst ho
    obtain ⟨hnot, hnodup⟩ := List.nodup_cons.mp hnodup
    obtain ⟨hrun, hagrees⟩ := h.settle net hs hinv hi now (outcome i)
    have hinv' := hinv.settle hs hi now
    rw [← hrun] at hinv'
    have hrest : ∀ p ∈ ended, p.1 ∈ (t.settle s now (i, outcome i)).run.running ∧
        p.2 = outcome p.1 := by
      intro p hp
      obtain ⟨hrunning, houtcome⟩ := hended p (List.mem_cons_of_mem _ hp)
      have hmem : p.1 ∈ ended.map Prod.fst := List.mem_map_of_mem hp
      have hne : p.1 ≠ i := fun h => hnot (h ▸ hmem)
      rw [hrun, Run.settle_running, hinv.nodup.mem_erase_iff]
      exact ⟨⟨hne, hrunning⟩, houtcome⟩
    obtain ⟨hall, hlast⟩ := Agrees.settleAll net hs now ended _ hinv' hnodup hrest hagrees
    refine ⟨?_, hlast⟩
    rw [Tally.settleAll, List.foldl_cons, ← Tally.settleAll, hall, hrun]
    rfl

end Tally

/-! ## Executions with counters -/

/-- An execution under way, and the counters of its actions. -/
structure Dispatch extends Execution where
  counters : Counters

namespace Dispatch

/-- An execution before its first action. -/
def init (plan : Plan) (baseline : List Resource) (schedule : Schedule) (limits : Limits)
    (interrupts : Interrupts) (stopped : Bool) (now : Instant) : Dispatch :=
  { Execution.init plan baseline schedule limits interrupts stopped now with
    counters := (Tally.init schedule).counters }

/-- The run of an execution, and its counters. -/
def tally (d : Dispatch) : Tally := ⟨d.run, d.counters⟩

/-- Starts the least action of the pool, if one may start. -/
def launchNext (clock : DateTime) (state : Dispatch × Sandbox) : Dispatch × Sandbox :=
  let (d, s) := state
  if d.stopped || decide (d.limits.concurrency ≤ (d.run.running.length : Int)) then (d, s)
  else
    match Taking.least.take? d.counters.ready with
    | none => (d, s)
    | some taken =>
      match d.schedule.actions[taken.1]? with
      | none => (d, s)
      | some c =>
        let (flight, s) := Flight.launch d.limits d.now taken.1 c s
        let t := d.tally.start clock taken
        ({ d with run := t.run, counters := t.counters, flights := d.flights ++ [flight] }, s)

/-- Starts every action that may start. -/
def launch (clock : DateTime) (d : Dispatch) (s : Sandbox) : Dispatch × Sandbox :=
  d.schedule.actions.foldl (fun state _ => launchNext clock state)
    ({ d with toExecution := d.stopInTime }, s)

/-- Cuts an execution short: it waits for the actions that are running. -/
def interrupt (clock : DateTime) (cause : Failure) (d : Dispatch) (s : Sandbox) :
    Ending × Sandbox :=
  match Flight.lastEnd? d.flights with
  | some last =>
    if d.cancelledBefore (last.later 2) then (.interrupted (.cancelled "") none d.flights, s)
    else
      let t := d.tally.settleAll d.schedule clock (Flight.outcomes d.flights)
      (.interrupted cause (some (t.run.cancelPending.result d.plan d.baseline true)) [],
        Flight.land d.flights s)
  | none => (.interrupted cause (some (d.run.cancelPending.result d.plan d.baseline true)) [], s)

/-- Settles the actions that have ended when the execution wakes up. -/
def settleEnded (clock : DateTime) (wake : Instant) (d : Dispatch) (s : Sandbox) :
    Dispatch × Sandbox :=
  let ended := d.flights.filter (Flight.endsBy wake)
  let t := d.tally.settleAll d.schedule clock (Flight.outcomes ended)
  ({ d with
      run := t.run
      counters := t.counters
      flights := d.flights.filter fun f => !f.endsBy wake
      now := wake },
    Flight.land ended s)

variable {σ : Type}

/-- One wait of an execution, and all that follows until the next one. -/
def advance (clock : DateTime) (report : ExecutionResult → σ → Reception × σ) (d : Dispatch)
    (s : Sandbox) (context : σ) : (Dispatch ⊕ Ending) × Sandbox × σ :=
  match d.wake? with
  | none => (.inr d.finish, s, context)
  | some wake =>
    if d.cancelledBefore wake then
      let (ending, s) := interrupt clock (.cancelled "") { d with toExecution := d.dropCancel } s
      (.inr ending, s, context)
    else
      let (d, s) := d.settleEnded clock wake s
      let (reception, context) := report (d.run.result d.plan d.baseline false) context
      match reception.failure? with
      | some cause =>
        let (ending, s) := d.interrupt clock cause s
        (.inr ending, s, context)
      | none =>
        let (d, s) := launch clock { d with stopped := d.stopped || reception.stop } s
        (.inl d, s, context)

/-- Advances an execution until it ends, at most so many times. -/
def loop (clock : DateTime) (report : ExecutionResult → σ → Reception × σ) :
    Nat → Dispatch → Sandbox → σ → Ending × Sandbox × σ
  | 0, d, s, context => (d.finish, s, context)
  | steps + 1, d, s, context =>
    match d.advance clock report s context with
    | (.inr ending, s, context) => (ending, s, context)
    | (.inl d, s, context) => loop clock report steps d s context

/-- Executes a plan. -/
def complete (clock : DateTime) (report : ExecutionResult → σ → Reception × σ) (d : Dispatch)
    (s : Sandbox) (context : σ) : Ending × Sandbox × σ :=
  let (d, s) := d.launch clock s
  loop clock report (d.schedule.size + 1) d s context

/-- The counters of an execution are right, and those that wait for an action are known. -/
structure Agrees (d : Dispatch) : Prop where
  network : Network d.schedule.waits d.schedule.followers d.schedule.size
  tally : d.tally.Agrees d.schedule

variable {start sandbox : Sandbox} {d : Dispatch} {context : σ}

/-- An execution and a sandbox, without the counters. -/
def plain (state : Dispatch × Sandbox) : Execution × Sandbox := (state.1.toExecution, state.2)

/-! ### Starting actions -/

theorem launchNext_eq (h : Execution.Inv start d.toExecution sandbox) (ha : d.Agrees)
    (clock : DateTime) :
    plain (launchNext clock (d, sandbox)) =
        Execution.launchNext clock (d.toExecution, sandbox) ∧
      (launchNext clock (d, sandbox)).1.Agrees := by
  have hready : d.run.ready? d.schedule = d.counters.ready.min? := ha.tally.ready?_eq
  unfold launchNext Execution.launchNext
  simp only
  split
  · exact ⟨rfl, ha⟩
  · rw [hready]
    cases hmin : d.counters.ready.min? with
    | none =>
      have htake : Taking.least.take? d.counters.ready = none := by
        simp only [Taking.least, hmin, Option.map_none]
      simp only [htake]
      exact ⟨rfl, ha⟩
    | some i =>
      have htake : Taking.least.take? d.counters.ready = some (i, d.counters.ready.erase i) := by
        simp only [Taking.least, hmin, Option.map_some]
      simp only [htake]
      cases d.schedule.actions[i]? with
      | none => exact ⟨rfl, ha⟩
      | some c => exact ⟨rfl, ha.network, ha.tally.start ha.network htake clock h.run.size⟩

theorem foldl_launchNext_eq (clock : DateTime) : ∀ (tries : List Change) (d : Dispatch)
    (sandbox : Sandbox), Execution.Inv start d.toExecution sandbox → d.Agrees →
      let state := tries.foldl (fun state _ => launchNext clock state) (d, sandbox)
      plain state = tries.foldl (fun state _ => Execution.launchNext clock state)
        (d.toExecution, sandbox) ∧ state.1.Agrees
  | [], _, _, _, ha => ⟨rfl, ha⟩
  | c :: tries, d, sandbox, h, ha => by
    obtain ⟨hplain, ha'⟩ := launchNext_eq h ha clock
    have hinv := h.launchNext clock
    rw [← hplain] at hinv
    have hrest := foldl_launchNext_eq clock tries _ _ hinv ha'
    rw [List.foldl_cons, List.foldl_cons, ← hplain]
    exact hrest

/-- **The least actions of the pool are the first that may start.** -/
theorem launch_eq (h : Execution.Inv start d.toExecution sandbox) (ha : d.Agrees)
    (clock : DateTime) :
    plain (d.launch clock sandbox) = d.toExecution.launch clock sandbox ∧
      (d.launch clock sandbox).1.Agrees := by
  obtain ⟨stopped, hstop⟩ : ∃ stopped, d.stopInTime = { d.toExecution with stopped } := by
    unfold Execution.stopInTime
    cases d.interrupts.stopAt with
    | none => exact ⟨d.stopped, rfl⟩
    | some t => exact ⟨_, rfl⟩
  unfold launch Execution.launch
  rw [hstop]
  exact foldl_launchNext_eq clock d.schedule.actions
    { d with toExecution := { d.toExecution with stopped } } sandbox (h.stopped stopped)
    ⟨ha.network, ha.tally⟩

/-- So they are when the execution has been told to stop, or not. -/
theorem relaunch_eq (h : Execution.Inv start d.toExecution sandbox) (ha : d.Agrees)
    (clock : DateTime) (stopped : Bool) :
    plain (launch clock { d with stopped } sandbox) =
        Execution.launch clock { d.toExecution with stopped } sandbox ∧
      (launch clock { d with stopped } sandbox).1.Agrees :=
  launch_eq (d := { d with stopped }) (h.stopped stopped) ⟨ha.network, ha.tally⟩ clock

/-! ### Ending actions -/

/-- Some of the actions that are running end. -/
theorem settleAll_eq (h : Execution.Inv start d.toExecution sandbox) (ha : d.Agrees)
    (clock : DateTime) {ended : List Flight} (hended : ended.Sublist d.flights) :
    (d.tally.settleAll d.schedule clock (Flight.outcomes ended)).run =
        d.run.settleAll d.schedule clock (Flight.outcomes ended) ∧
      (d.tally.settleAll d.schedule clock (Flight.outcomes ended)).Agrees d.schedule := by
  have hfst : (Flight.outcomes ended).map Prod.fst = ended.map Flight.index := by
    simp [Flight.outcomes, Function.comp_def]
  refine ha.tally.settleAll ha.network h.lawful clock _ d.tally h.run ?_ ?_
  · rw [hfst]
    exact h.nodup.sublist (hended.map _)
  · intro p hp
    obtain ⟨f, hf, rfl⟩ := List.mem_map.mp hp
    obtain ⟨hrunning, houtcome, _⟩ := h.flight (hended.subset hf)
    exact ⟨hrunning, houtcome⟩

theorem settleEnded_eq (h : Execution.Inv start d.toExecution sandbox) (ha : d.Agrees)
    (clock : DateTime) (wake : Instant) :
    plain (d.settleEnded clock wake sandbox) =
        d.toExecution.settleEnded clock wake sandbox ∧
      (d.settleEnded clock wake sandbox).1.Agrees := by
  obtain ⟨hrun, hagrees⟩ := settleAll_eq h ha clock (List.filter_sublist (p := Flight.endsBy wake))
  refine ⟨?_, ha.network, hagrees⟩
  simp only [plain, settleEnded, Execution.settleEnded, hrun]

theorem interrupt_eq (h : Execution.Inv start d.toExecution sandbox) (ha : d.Agrees)
    (clock : DateTime) (cause : Failure) :
    d.interrupt clock cause sandbox = d.toExecution.interrupt clock cause sandbox := by
  obtain ⟨hrun, _⟩ := settleAll_eq h ha clock (List.Sublist.refl d.flights)
  unfold interrupt Execution.interrupt Execution.settleFlights
  cases Flight.lastEnd? d.flights with
  | none => rfl
  | some last => simp only [hrun]

/-! ### Whole executions -/

/-- One wait, with counters and without. -/
theorem advance_eq (h : Execution.Inv start d.toExecution sandbox) (ha : d.Agrees)
    (clock : DateTime) (report : ExecutionResult → σ → Reception × σ) (context : σ) :
    d.toExecution.advance clock report sandbox context =
        ((d.advance clock report sandbox context).1.map toExecution id,
          (d.advance clock report sandbox context).2) ∧
      ∀ d', (d.advance clock report sandbox context).1 = .inl d' → d'.Agrees := by
  unfold advance Execution.advance
  cases d.wake? with
  | none => exact ⟨rfl, fun d' h' => by cases h'⟩
  | some wake =>
    simp only
    split
    · have hdrop := interrupt_eq (d := { d with toExecution := d.dropCancel }) h.dropCancel
        ⟨ha.network, ha.tally⟩ clock (.cancelled "")
      rw [hdrop]
      exact ⟨rfl, fun d' h' => by cases h'⟩
    · obtain ⟨hplain, hagrees⟩ := settleEnded_eq h ha clock wake
      have hinv := (Execution.settleEnded_spec h clock wake).1
      rw [← hplain] at hinv ⊢
      simp only [plain] at hinv ⊢
      generalize d.settleEnded clock wake sandbox = settled at *
      obtain ⟨d, sandbox⟩ := settled
      simp only at hinv hagrees ⊢
      cases hfail : (report (d.run.result d.plan d.baseline false) context).1.failure? with
      | some cause =>
        simp only
        rw [interrupt_eq hinv hagrees clock cause]
        exact ⟨rfl, fun d' h' => by cases h'⟩
      | none =>
        simp only
        obtain ⟨hlaunch, hagrees'⟩ := relaunch_eq hinv hagrees clock
          (d.stopped || (report (d.run.result d.plan d.baseline false) context).1.stop)
        rw [← hlaunch]
        refine ⟨rfl, fun d' h' => ?_⟩
        cases h'
        exact hagrees'

theorem loop_eq (clock : DateTime) (report : ExecutionResult → σ → Reception × σ) :
    ∀ (steps : Nat) (d : Dispatch) (sandbox : Sandbox) (context : σ),
      Execution.Inv start d.toExecution sandbox → d.Agrees →
      d.loop clock report steps sandbox context =
        d.toExecution.loop clock report steps sandbox context
  | 0, _, _, _, _, _ => rfl
  | steps + 1, d, sandbox, context, h, ha => by
    obtain ⟨hadvance, hagrees⟩ := advance_eq h ha clock report context
    have hadvanced := Execution.advance_spec h clock report context
    rw [loop, Execution.loop]
    rw [hadvance] at hadvanced ⊢
    generalize d.advance clock report sandbox context = answer at *
    obtain ⟨next, sandbox', context'⟩ := answer
    cases next with
    | inr ending => rfl
    | inl d' =>
      have hinv : Execution.Inv start d'.toExecution sandbox' := by
        cases hadvanced with
        | goesOn _ _ inv _ _ _ _ => exact inv
      exact loop_eq clock report steps d' sandbox' context' hinv (hagrees d' rfl)

/-- **Executing a plan by counting down is executing it**: whatever the plan, the limits and the
interrupts, what an execution does in the sandbox, what it reports and how it ends are the same. -/
theorem complete_eq {plan : Plan} {baseline : List Resource} {s : Schedule}
    (hs : Schedule.of? plan baseline = .ok s) (limits : Limits) (interrupts : Interrupts)
    (stopped : Bool) (now : Instant) (clock : DateTime)
    (report : ExecutionResult → σ → Reception × σ) (sandbox : Sandbox) (context : σ) :
    (init plan baseline s limits interrupts stopped now).complete clock report sandbox context =
      (Execution.init plan baseline s limits interrupts stopped now).complete clock report sandbox
        context := by
  have hlawful := Schedule.lawful_of hs
  have hnet := Schedule.network_of hs
  have hinit : Execution.Inv sandbox
      (init plan baseline s limits interrupts stopped now).toExecution sandbox :=
    Execution.init_inv hlawful plan baseline sandbox now interrupts stopped
  obtain ⟨hplain, hagrees⟩ := launch_eq hinit ⟨hnet, Tally.agrees_init hnet⟩ clock
  have hinv := (Execution.launch_spec hinit clock).1
  change _ = (init plan baseline s limits interrupts stopped now).toExecution.complete clock report
    sandbox context
  unfold complete Execution.complete
  rw [← hplain] at hinv ⊢
  exact loop_eq clock report _ _ _ context hinv hagrees

end Dispatch

end Rollout
