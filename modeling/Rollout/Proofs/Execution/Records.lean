import Rollout.Proofs.Execution.Ended

/-!
# What the records of a run tell

The records of a run are those of the actions, in their order.  A record is stamped when its action
is started and once more when the action ends; nothing else touches the stamps, and what ends, skips
or gives up an action leaves the first one as it is.

* `Run.settle_origins`, `Run.cancelPending_origins` : what is kept of a record from its start on;
* `Run.Recorded` : the records are those of the actions, and their stamps agree with their statuses;
* `Run.Reached.recorded` : so it is all the way through an execution.
-/

set_option autoImplicit false

namespace Rollout

namespace ActionRecord

/-- What a record is about. -/
def subject (r : ActionRecord) : String × Action := (r.resourceId, r.action)

/-- What a record is about, and when its action was started. -/
def origin (r : ActionRecord) : (String × Action) × Option DateTime := (r.subject, r.startedAt)

/-- The stamps of a record tell whether its action was started, and whether it has ended. -/
structure Stamped (r : ActionRecord) : Prop where
  started : r.startedAt.isSome = true ↔ r.status.IsBegun
  finished : r.finishedAt.isSome = true ↔ r.status = .succeeded ∨ r.status = .failed

/-- An action that was not started may be skipped or given up without a stamp. -/
theorem Stamped.of_pending {r : ActionRecord} (h : r.Stamped) (hpending : r.status = .pending)
    {st : Status} (hst : ¬ st.IsBegun) (error : Option String) :
    ({ r with status := st, error } : ActionRecord).Stamped := by
  constructor
  · refine iff_of_false ?_ hst
    rw [h.started, hpending]
    exact fun hbegun => hbegun.ne_pending rfl
  · refine iff_of_false ?_ ?_
    · rw [h.finished, hpending]
      simp
    · rintro (hend | hend)
      · exact hst (.inr (.inl hend))
      · exact hst (.inr (.inr hend))

end ActionRecord

namespace Run

open Relation

variable {s : Schedule} {limit : Int} {outcome : Nat → Outcome} {run run' : Run} {i : Nat}

/-! ## Changing one record -/

/-- What a change of a record leaves as it is can be read off all records as before. -/
theorem map_record {β : Type} {g : ActionRecord → β} {f : ActionRecord → ActionRecord}
    (hf : ∀ r, g (f r) = g r) (i : Nat) (run : Run) :
    (run.record i f).records.map g = run.records.map g := by
  apply List.ext_getElem?
  intro j
  rw [record, List.getElem?_map, List.getElem?_map, List.getElem?_modify]
  cases run.records[j]? with
  | none => rfl
  | some r =>
    by_cases hij : i = j
    · simp [hij, hf]
    · simp [hij]

/-- What holds of every record holds of every record after one of them was changed, if the change
keeps it. -/
theorem forall_record {P : ActionRecord → Prop} {f : ActionRecord → ActionRecord}
    (h : ∀ r ∈ run.records, P r) (hf : ∀ r, run.records[i]? = some r → P r → P (f r)) :
    ∀ r ∈ (run.record i f).records, P r := by
  intro r hr
  obtain ⟨j, hj⟩ := List.mem_iff_getElem?.mp hr
  rw [record, List.getElem?_modify] at hj
  obtain ⟨x, hx, hxr⟩ := Option.map_eq_some_iff.mp hj
  have hP : P x := h x (List.mem_of_getElem? hx)
  split at hxr
  · rename_i hij
    subst hij hxr
    exact hf x hx hP
  · subst hxr
    exact hP

theorem status?_eq_some_iff {st : Status} :
    run.status? i = some st ↔ ∃ r, run.records[i]? = some r ∧ r.status = st := by
  rw [status?, Option.map_eq_some_iff]

theorem status_of_status? {r : ActionRecord} {st : Status} (hr : run.records[i]? = some r)
    (h : run.status? i = some st) : r.status = st := by
  obtain ⟨x, hx, hst⟩ := status?_eq_some_iff.mp h
  rw [hr, Option.some.injEq] at hx
  rw [hx, hst]

/-! ## What is kept from the start of an action on -/

theorem skipIfBlocked_origins (s : Schedule) (reason : String) (run : Run) (i : Nat) :
    (skipIfBlocked s reason run i).records.map ActionRecord.origin
      = run.records.map ActionRecord.origin := by
  unfold skipIfBlocked
  split
  · apply map_record
    intro r
    rfl
  · rfl

theorem skipBlocked_origins (s : Schedule) (reason : String) (run : Run) :
    (skipBlocked s reason run).records.map ActionRecord.origin
      = run.records.map ActionRecord.origin := by
  unfold skipBlocked
  generalize s.order = visited
  induction visited generalizing run with
  | nil => rfl
  | cons i visited ih =>
    rw [List.foldl_cons, ih, skipIfBlocked_origins]

/-- The end of an action starts none, and changes no start. -/
theorem settle_origins (s : Schedule) (now : DateTime) (run : Run) (ended : Nat × Outcome) :
    (run.settle s now ended).records.map ActionRecord.origin
      = run.records.map ActionRecord.origin := by
  obtain ⟨i, o⟩ := ended
  cases hc : s.actions[i]? with
  | none => simp only [settle, hc]
  | some c =>
    cases o with
    | succeeded returned =>
      rw [settle_succeeded hc]
      apply map_record
      intro r
      rfl
    | failed text =>
      rw [settle_failed hc, skipBlocked_origins]
      apply map_record
      intro r
      rfl

theorem settleAll_origins (s : Schedule) (now : DateTime) (ended : List (Nat × Outcome))
    (run : Run) :
    (run.settleAll s now ended).records.map ActionRecord.origin
      = run.records.map ActionRecord.origin := by
  unfold settleAll
  induction ended generalizing run with
  | nil => rfl
  | cons first ended ih =>
    rw [List.foldl_cons, ih, settle_origins]

/-- Giving up what was not started starts none, and changes no start. -/
theorem cancelPending_origins (run : Run) :
    run.cancelPending.records.map ActionRecord.origin = run.records.map ActionRecord.origin := by
  rw [cancelPending, List.map_map]
  apply List.map_congr_left
  intro r _
  simp only [Function.comp_apply]
  split <;> rfl

theorem subjects_of_origins {records records' : List ActionRecord}
    (h : records'.map ActionRecord.origin = records.map ActionRecord.origin) :
    records'.map ActionRecord.subject = records.map ActionRecord.subject := by
  have hsubject : ActionRecord.subject = Prod.fst ∘ ActionRecord.origin := rfl
  rw [hsubject, ← List.map_map, ← List.map_map, h]

/-! ## The records of reached runs -/

/-- The records are those of the actions, in their order, and their stamps tell how far each action
got. -/
structure Recorded (s : Schedule) (run : Run) : Prop where
  listed : run.records.map ActionRecord.subject = s.actions.map fun c => (c.id, c.action)
  stamped : ∀ r ∈ run.records, r.Stamped

theorem init_recorded (s : Schedule) : Recorded s (init s) := by
  constructor
  · rw [init, List.map_map]
    rfl
  · intro r hr
    rw [init] at hr
    obtain ⟨c, _, rfl⟩ := List.mem_map.mp hr
    constructor
    · refine iff_of_false (by simp) ?_
      intro h
      exact h.ne_pending rfl
    · exact iff_of_false (by simp) (by simp)

theorem Recorded.start (h : Recorded s run) (hpending : run.status? i = some .pending)
    (now : DateTime) : Recorded s (run.start now i) := by
  constructor
  · rw [← h.listed]
    apply map_record
    intro r
    rfl
  · apply forall_record h.stamped
    intro r hr hstamped
    have hstatus := status_of_status? hr hpending
    constructor
    · exact iff_of_true rfl (.inl rfl)
    · refine iff_of_false ?_ (by simp)
      rw [hstamped.finished, hstatus]
      simp

/-- An action that was not started is skipped without a stamp. -/
theorem Recorded.skipBlocked (h : Recorded s run) (reason : String) :
    Recorded s (Run.skipBlocked s reason run) := by
  unfold Run.skipBlocked
  generalize s.order = visited
  induction visited generalizing run with
  | nil => exact h
  | cons i visited ih =>
    rw [List.foldl_cons]
    apply ih
    unfold skipIfBlocked
    split
    · rename_i hblocked
      obtain ⟨hpending, _⟩ := isBlocked_iff.mp hblocked
      constructor
      · rw [← h.listed]
        apply map_record
        intro r
        rfl
      · apply forall_record h.stamped
        intro r hr hstamped
        refine hstamped.of_pending (status_of_status? hr hpending) ?_ _
        rintro (hst | hst | hst) <;> cases hst
    · exact h

/-- An action that was running ends with both stamps. -/
theorem Recorded.settle (h : Recorded s run) (hrunning : run.status? i = some .running)
    (now : DateTime) (o : Outcome) : Recorded s (run.settle s now (i, o)) := by
  -- either way the record keeps its first stamp, which it has, and is given the second one
  have hended : ∀ (f : ActionRecord → ActionRecord) (running : List Nat),
      (∀ r, (f r).origin = r.origin ∧ (f r).finishedAt = some now ∧
        ((f r).status = .succeeded ∨ (f r).status = .failed)) →
      Recorded s ({ run with running }.record i f) := by
    intro f running hf
    constructor
    · have hsubject : ∀ r, (f r).subject = r.subject := fun r => congrArg Prod.fst (hf r).1
      rw [map_record hsubject i { run with running }, ← h.listed]
    · have hall : ∀ r ∈ ({ run with running } : Run).records, r.Stamped := h.stamped
      refine forall_record hall ?_
      intro r hr hstamped
      obtain ⟨horigin, hfinished, hend⟩ := hf r
      have hstatus := status_of_status? hr hrunning
      constructor
      · refine iff_of_true ?_ (.inr hend)
        have hstart : (f r).startedAt = r.startedAt := congrArg Prod.snd horigin
        rw [hstart]
        exact hstamped.started.mpr (.inl hstatus)
      · exact iff_of_true (by rw [hfinished]; rfl) hend
  cases hc : s.actions[i]? with
  | none =>
    simp only [Run.settle, hc]
    exact ⟨h.listed, h.stamped⟩
  | some c =>
    cases o with
    | succeeded returned =>
      rw [settle_succeeded hc]
      have hrecorded := hended (fun r => { r with status := .succeeded, finishedAt := some now })
        (run.running.erase i) fun r => ⟨rfl, rfl, .inl rfl⟩
      exact ⟨hrecorded.listed, hrecorded.stamped⟩
    | failed text =>
      rw [settle_failed hc]
      apply Recorded.skipBlocked
      exact hended _ (run.running.erase i) fun r => ⟨rfl, rfl, .inr rfl⟩

theorem Recorded.cancelPending (h : Recorded s run) : Recorded s run.cancelPending := by
  constructor
  · rw [← h.listed]
    exact subjects_of_origins run.cancelPending_origins
  · intro r hr
    obtain ⟨x, hx, rfl⟩ := List.mem_map.mp hr
    have hstamped := h.stamped x hx
    split
    · rename_i hpending
      refine hstamped.of_pending hpending ?_ _
      rintro (hst | hst | hst) <;> cases hst
    · exact hstamped

/-- **The records of a run are those of its actions, and tell how far each action got.** -/
theorem Reached.recorded (hs : s.Lawful) (h : Reached s limit outcome run) : Recorded s run := by
  induction h with
  | refl => exact init_recorded s
  | tail hreached hstep ih =>
    cases hstep with
    | start now ready room => exact ih.start (isReady_iff.mp ready).1 now
    | settle now running =>
      have hinv := Reached.inv hs hreached
      exact ih.settle ((hinv.mem_running _).mp running) now _

end Run

end Rollout
