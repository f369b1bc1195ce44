import Rollout.Proofs.Execution.Applied

/-!
# What an execution tells of its failures

An execution that has not succeeded tells why: it lists the error of every action that failed, and adds
a note where actions were kept from starting.  It never has nothing to tell, since an action is skipped
only for one that failed.

* `Run.Blames` : the record of an action that failed names the action and says what its backend said;
* `ActionRecord.reasons` : what there is to tell, by the records alone;
* `ActionRecord.Explain` : a text that tells it;
* `ActionRecord.within_reasons` : when the text holds the note;
* `Run.Reached.explained` : what an execution that has not succeeded tells;
* `Execution.complete_cause` : what cuts an execution short.
-/

set_option autoImplicit false

namespace Rollout

/-! ## Texts within texts -/

/-- A text holds another one. -/
def Text.Within (part text : String) : Prop := ∃ before after, text = before ++ part ++ after

theorem Text.within_join (sep : String) {part : String} :
    ∀ {parts : List String}, part ∈ parts → Within part (join sep parts)
  | [], h => nomatch h
  | [only], h => by
    rw [List.mem_singleton] at h
    subst h
    exact ⟨"", "", by simp [join]⟩
  | first :: second :: rest, h => by
    unfold join
    rw [String.intercalate_cons_cons]
    rcases List.mem_cons.mp h with rfl | h
    · exact ⟨"", sep ++ sep.intercalate (second :: rest), by simp [String.append_assoc]⟩
    · obtain ⟨before, after, heq⟩ := within_join sep h
      unfold join at heq
      exact ⟨first ++ sep ++ before, after, by simp only [heq, String.append_assoc]⟩

theorem Text.within_iff {part text : String} : Within part text ↔ part.toList <:+: text.toList := by
  constructor
  · rintro ⟨before, after, rfl⟩
    exact ⟨before.toList, after.toList, by simp⟩
  · rintro ⟨before, after, h⟩
    exact ⟨String.ofList before, String.ofList after, String.toList_injective (by simp [← h])⟩

/-- What a text holds on both sides of a separator, it holds on one, if it cannot overlap the
separator. -/
theorem Text.within_of_append {part first rest : String} (hsep : ';' ∉ part.toList)
    (hhead : part.toList.head? ≠ some ' ') (hne : part.toList ≠ [])
    (h : Within part (first ++ "; " ++ rest)) : Within part first ∨ Within part rest := by
  simp only [within_iff] at h ⊢
  have htext : (first ++ "; " ++ rest).toList = first.toList ++ ';' :: ' ' :: rest.toList := by simp
  rw [htext, List.infix_append_iff] at h
  rcases h with h | h | ⟨left, right, hpart, hleft, hright⟩
  · exact .inl h
  · rcases List.infix_cons_iff.mp h with h | h
    · obtain hnil | ⟨tail, htail, _⟩ := List.prefix_cons_iff.mp h
      · exact absurd hnil hne
      · exact absurd (htail ▸ List.mem_cons_self) hsep
    rcases List.infix_cons_iff.mp h with h | h
    · obtain hnil | ⟨tail, htail, _⟩ := List.prefix_cons_iff.mp h
      · exact absurd hnil hne
      · exact absurd (htail ▸ rfl) hhead
    · exact .inr h
  · obtain rfl | ⟨tail, rfl, _⟩ := List.prefix_cons_iff.mp hright
    · rw [hpart, List.append_nil]
      exact .inl hleft.isInfix
    · exact absurd (hpart ▸ by simp) hsep

theorem Text.exists_of_within_join {part : String} (hsep : ';' ∉ part.toList)
    (hhead : part.toList.head? ≠ some ' ') (hne : part.toList ≠ []) :
    ∀ {parts : List String}, Within part (join "; " parts) → ∃ p ∈ parts, Within part p
  | [], h => absurd (by simpa [within_iff, join] using h) hne
  | [only], h => ⟨only, by simp, by simpa [join] using h⟩
  | first :: second :: rest, h => by
    unfold join at h
    rw [String.intercalate_cons_cons] at h
    rcases within_of_append hsep hhead hne h with h | h
    · exact ⟨first, by simp, h⟩
    · obtain ⟨p, hp, hwithin⟩ := exists_of_within_join hsep hhead hne h
      exact ⟨p, List.mem_cons_of_mem _ hp, hwithin⟩

theorem Text.eq_empty_of_within {part : String} (h : Within part "") : part = "" := by
  obtain ⟨before, after, heq⟩ := h
  have hlist := congrArg String.toList heq
  simp at hlist
  exact hlist.2.1

/-! ## Errors of actions -/

theorem ActionError.message_ne_empty (e : ActionError) : e.message ≠ "" := by
  intro h
  have hlist := congrArg String.toList h
  simp [message] at hlist

/-- What an execution adds to its errors where actions were kept from starting. -/
def cancellationNote : String := "operation cancelled before all actions started"

namespace ActionRecord

/-- The error of an action that failed, by what its backend said: it names the action and its
resource. -/
def failure (r : ActionRecord) (said : String) : String :=
  (ActionError.mk r.resourceId r.action.name said).message

theorem failure_ne_empty (r : ActionRecord) (said : String) : r.failure said ≠ "" :=
  ActionError.message_ne_empty _

end ActionRecord

namespace Run

variable {s : Schedule} {limit : Int} {outcome : Nat → Outcome} {run : Run} {i : Nat}

/-- **The record of an action that failed** names its resource and the action, and repeats what its
backend said. -/
def Blames (outcome : Nat → Outcome) (run : Run) : Prop :=
  ∀ i r, run.records[i]? = some r → r.status = .failed → ∃ said, outcome i = .failed said ∧
    r.error = some (r.failure said)

theorem init_blames (s : Schedule) : Blames outcome (init s) := by
  intro i r hr hfailed
  cases status?_init (status?_eq_some_iff.mpr ⟨r, hr, hfailed⟩)

/-- A record may change to one that blames its action, if it is failed. -/
theorem Blames.record (h : Blames outcome run) {f : ActionRecord → ActionRecord}
    (hf : ∀ r, run.records[i]? = some r → (f r).status = .failed → ∃ said,
      outcome i = .failed said ∧ (f r).error = some ((f r).failure said)) :
    Blames outcome (run.record i f) := by
  intro j r hr hfailed
  rw [Run.record, List.getElem?_modify] at hr
  obtain ⟨x, hx, rfl⟩ := Option.map_eq_some_iff.mp hr
  by_cases hij : i = j
  · subst hij
    rw [if_pos rfl] at hfailed ⊢
    exact hf x hx hfailed
  · rw [if_neg hij] at hfailed ⊢
    exact h j x hx hfailed

/-- A record may change to one that is not failed. -/
theorem Blames.record_of_ne (h : Blames outcome run) {f : ActionRecord → ActionRecord}
    (hf : ∀ r, (f r).status ≠ .failed) (i : Nat) : Blames outcome (run.record i f) :=
  h.record fun r _ hfailed => absurd hfailed (hf r)

theorem Blames.skipBlocked (h : Blames outcome run) (reason : String) :
    Blames outcome (Run.skipBlocked s reason run) := by
  unfold Run.skipBlocked
  generalize s.order = visited
  induction visited generalizing run with
  | nil => exact h
  | cons i visited ih =>
    rw [List.foldl_cons]
    apply ih
    unfold skipIfBlocked
    split
    · exact h.record_of_ne (fun r => by simp) i
    · exact h

/-- An action that fails is blamed by its own record. -/
theorem Blames.settle (h : Blames outcome run) (hrecorded : Recorded s run) (now : DateTime) (i : Nat) :
    Blames outcome (run.settle s now (i, outcome i)) := by
  have hrest : Blames outcome { run with running := run.running.erase i } := h
  cases hc : s.actions[i]? with
  | none =>
    simp only [Run.settle, hc]
    exact hrest
  | some c =>
    cases ho : outcome i with
    | succeeded returned =>
      rw [settle_succeeded hc]
      exact hrest.record_of_ne (fun r => by simp) i
    | failed said =>
      rw [settle_failed hc]
      refine (hrest.record fun r hr _ => ⟨said, ho, ?_⟩).skipBlocked _
      have hsubject := congrArg (fun l => l[i]?) hrecorded.listed
      simp only [List.getElem?_map, hc, Option.map_some] at hsubject
      have hr : run.records[i]? = some r := hr
      rw [hr, Option.map_some, Option.some.injEq, ActionRecord.subject, Prod.mk.injEq] at hsubject
      rw [ActionRecord.failure, hsubject.1, hsubject.2, errorText]

theorem Blames.cancelPending (h : Blames outcome run) : Blames outcome run.cancelPending := by
  intro i r hr hfailed
  rw [Run.cancelPending, List.getElem?_map] at hr
  obtain ⟨x, hx, rfl⟩ := Option.map_eq_some_iff.mp hr
  by_cases hpending : x.status = .pending
  · rw [if_pos hpending] at hfailed
    cases hfailed
  · rw [if_neg hpending] at hfailed ⊢
    exact h i x hx hfailed

/-- **Whatever an execution does**, what failed is blamed. -/
theorem Reached.blames (hs : s.Lawful) (h : Reached s limit outcome run) : Blames outcome run := by
  induction h with
  | refl => exact init_blames s
  | tail hreached hstep ih =>
    cases hstep with
    | start now _ _ => exact ih.record_of_ne (fun r => by simp) _
    | settle now _ => exact ih.settle (Reached.recorded hs hreached) now _

end Run

/-! ## What there is to tell -/

namespace ActionRecord

/-- What there is to tell of the records of an execution: the errors of the actions that failed, and a
note if some action was kept from starting. -/
def reasons (records : List ActionRecord) : List String :=
  (records.filter fun r => r.status = .failed).filterMap error
    ++ (if records.any fun r => r.status = .cancelled then [cancellationNote] else [])

/-- **A text tells why not all of several actions succeeded.**  It lists the errors of those that
failed, each naming its resource and its action.  It holds the note exactly if some action was cancelled,
or the error of some action that failed repeats it. -/
structure Explain (records : List ActionRecord) (text : String) : Prop where
  lines : text = Text.join "; " (reasons records)
  nonempty : text ≠ ""
  failed : ∀ r ∈ records, r.status = .failed →
    ∃ said, r.error = some (r.failure said) ∧ Text.Within (r.failure said) text
  noted : Text.Within cancellationNote text ↔ (∃ r ∈ records, r.status = .cancelled) ∨
    ∃ r ∈ records, r.status = .failed ∧ ∃ e ∈ r.error, Text.Within cancellationNote e

variable {records : List ActionRecord} {r : ActionRecord}

theorem any_cancelled_iff :
    (records.any fun r => r.status = .cancelled) = true ↔ ∃ r ∈ records, r.status = .cancelled := by
  simp

section

variable (hblamed : ∀ r ∈ records, r.status = .failed → ∃ said, r.error = some (r.failure said))

include hblamed

theorem exists_failure {line : String}
    (h : line ∈ (records.filter fun r => r.status = .failed).filterMap error) :
    ∃ (r : ActionRecord) (said : String), line = r.failure said := by
  obtain ⟨r, hr, hline⟩ := List.mem_filterMap.mp h
  obtain ⟨hr, hfailed⟩ := List.mem_filter.mp hr
  obtain ⟨said, hsaid⟩ := hblamed r hr (of_decide_eq_true hfailed)
  rw [hsaid, Option.some.injEq] at hline
  exact ⟨r, said, hline.symm⟩

omit hblamed in
/-- The note is held where some action was cancelled, or where an error that is listed repeats it. -/
theorem within_reasons : Text.Within cancellationNote (Text.join "; " (reasons records)) ↔
    (∃ r ∈ records, r.status = .cancelled) ∨
      ∃ r ∈ records, r.status = .failed ∧ ∃ e ∈ r.error, Text.Within cancellationNote e := by
  constructor
  · intro h
    obtain ⟨line, hline, hwithin⟩ :=
      Text.exists_of_within_join (by decide) (by decide) (by decide) h
    rcases List.mem_append.mp hline with hline | hline
    · obtain ⟨r, hr, herror⟩ := List.mem_filterMap.mp hline
      obtain ⟨hr, hfailed⟩ := List.mem_filter.mp hr
      exact .inr ⟨r, hr, of_decide_eq_true hfailed, line, herror, hwithin⟩
    · split at hline
      · exact .inl (any_cancelled_iff.mp ‹_›)
      · cases hline
  · rintro (h | ⟨r, hr, hfailed, e, he, before, after, hrepeats⟩)
    · refine Text.within_join _ (List.mem_append_right _ ?_)
      rw [if_pos (any_cancelled_iff.mpr h)]
      exact List.mem_singleton_self _
    · have hline : e ∈ reasons records := List.mem_append_left _
        (List.mem_filterMap.mpr ⟨r, List.mem_filter.mpr ⟨hr, decide_eq_true hfailed⟩, he⟩)
      obtain ⟨before', after', hlisted⟩ := Text.within_join "; " hline
      exact ⟨before' ++ before, after ++ after', by rw [hlisted, hrepeats]; simp [String.append_assoc]⟩

/-- **There is something to tell** if some action failed or was cancelled. -/
theorem explain_join (hlost : ∃ r ∈ records, r.status = .failed ∨ r.status = .cancelled) :
    Explain records (Text.join "; " (reasons records)) := by
  have hfailed : ∀ r ∈ records, r.status = .failed → ∃ said, r.error = some (r.failure said) ∧
      Text.Within (r.failure said) (Text.join "; " (reasons records)) := by
    intro r hr hst
    obtain ⟨said, hsaid⟩ := hblamed r hr hst
    refine ⟨said, hsaid, Text.within_join _ (List.mem_append_left _ ?_)⟩
    exact List.mem_filterMap.mpr ⟨r, List.mem_filter.mpr ⟨hr, decide_eq_true hst⟩, hsaid⟩
  refine ⟨rfl, ?_, hfailed, within_reasons⟩
  -- an empty text holds no reason
  intro htext
  obtain ⟨r, hr, hst | hst⟩ := hlost
  · obtain ⟨said, _, hwithin⟩ := hfailed r hr hst
    exact r.failure_ne_empty said (Text.eq_empty_of_within (htext ▸ hwithin))
  · have hnote := within_reasons.mpr (.inl ⟨r, hr, hst⟩)
    exact absurd (Text.eq_empty_of_within (htext ▸ hnote)) (by decide)

end

end ActionRecord

/-- What a result tells is what there is to tell by its records, if it was cancelled exactly if some
action was. -/
theorem ExecutionResult.errorSummary_eq {x : ExecutionResult}
    (hblamed : ∀ r ∈ x.records, r.status = .failed → ∃ said, r.error = some (r.failure said))
    (hcancelled : x.cancelled = x.records.any fun r => r.status = .cancelled) :
    x.errorSummary = if (ActionRecord.reasons x.records).isEmpty then none
      else some (Text.join "; " (ActionRecord.reasons x.records)) := by
  have hall : (x.failures.filterMap ActionRecord.error).filter (· ≠ "")
      = x.failures.filterMap ActionRecord.error := by
    rw [List.filter_eq_self]
    intro line hline
    obtain ⟨r, said, rfl⟩ := ActionRecord.exists_failure hblamed hline
    exact decide_eq_true (r.failure_ne_empty said)
  unfold errorSummary
  rw [hall, hcancelled]
  rfl

namespace Run

variable {plan : Plan} {baseline : List Resource} {s : Schedule} {limit : Int}
  {outcome : Nat → Outcome} {run : Run}

/-- What is lost when nothing is running has failed, is skipped for what failed, or was cancelled. -/
theorem Reached.exists_lost (hs : s.Lawful) (hreached : Reached s limit outcome run)
    (hidle : run.running = []) {r : ActionRecord} (hr : r ∈ run.cancelPending.records)
    (hst : r.status ≠ .succeeded) :
    ∃ x ∈ run.cancelPending.records, x.status = .failed ∨ x.status = .cancelled := by
  obtain ⟨i, hi⟩ := List.mem_iff_getElem?.mp hr
  obtain ⟨hpending, hrunning⟩ := settled_cancelPending hs hreached hidle hi
  cases hstatus : r.status with
  | pending => exact absurd hstatus hpending
  | running => exact absurd hstatus hrunning
  | succeeded => exact absurd hstatus hst
  | failed => exact ⟨r, hr, .inl hstatus⟩
  | cancelled => exact ⟨r, hr, .inr hstatus⟩
  | skipped =>
    have hskipped := (status_cancelPending_iff hi (by decide) (by decide)).mp hstatus
    obtain ⟨j, _, hj⟩ := ((hreached.inv hs).skipped_iff hs).mp hskipped
    obtain ⟨x, hx, hfailed⟩ := status?_eq_some_iff.mp
      ((status?_cancelPending_iff (by decide) (by decide)).mpr hj)
    exact ⟨x, List.mem_of_getElem? hx, .inl hfailed⟩

/-- **An execution that has not succeeded tells why**, in whatever order its actions ended and wherever
it was stopped. -/
theorem Reached.explained (hs : s.Lawful) (hreached : Reached s limit outcome run)
    (hidle : run.running = [])
    (hfails : (run.cancelPending.result plan baseline run.anyPending).succeeded = false) :
    ∃ text, (run.cancelPending.result plan baseline run.anyPending).errorSummary = some text ∧
      ActionRecord.Explain run.cancelPending.records text := by
  have hblamed : ∀ r ∈ run.cancelPending.records, r.status = .failed →
      ∃ said, r.error = some (r.failure said) := by
    intro r hr hfailed
    obtain ⟨i, hi⟩ := List.mem_iff_getElem?.mp hr
    obtain ⟨said, _, hsaid⟩ := (hreached.blames hs).cancelPending i r hi hfailed
    exact ⟨said, hsaid⟩
  have hcancelled : run.anyPending
      = run.cancelPending.records.any fun r => r.status = .cancelled := by
    rw [Bool.eq_iff_iff, ActionRecord.any_cancelled_iff]
    exact (hreached.inv hs).toSound.anyPending_iff
  obtain ⟨r, hr, hst⟩ : ∃ r ∈ run.cancelPending.records, r.status ≠ .succeeded := by
    simpa [ExecutionResult.succeeded, result] using hfails
  have hexplain := ActionRecord.explain_join hblamed (hreached.exists_lost hs hidle hr hst)
  have hsome : (ActionRecord.reasons run.cancelPending.records).isEmpty = false := by
    rw [Bool.eq_false_iff]
    intro hnone
    apply hexplain.nonempty
    rw [List.isEmpty_iff.mp hnone]
    rfl
  refine ⟨_, ?_, hexplain⟩
  rw [ExecutionResult.errorSummary_eq hblamed hcancelled]
  simp only [result, hsome, Bool.false_eq_true, if_false]

end Run

/-! ## What cuts an execution short -/

/-- Why an execution was cut short, if it was. -/
def Ending.cause? : Ending → Option Failure
  | .finished _ => none
  | .interrupted cause _ _ => some cause

namespace Execution

variable {σ : Type} {report : ExecutionResult → σ → Reception × σ} {Cause : Failure → Prop}

theorem interrupt_cause (hcancelled : Cause (.cancelled "")) {cause : Failure} (hcause : Cause cause)
    (clock : DateTime) (e : Execution) (s : Sandbox) :
    ∀ c ∈ (e.interrupt clock cause s).1.cause?, Cause c := by
  unfold interrupt
  split
  · split
    · rintro c ⟨⟩
      exact hcancelled
    · rintro c ⟨⟩
      exact hcause
  · rintro c ⟨⟩
    exact hcause

section

variable (hcancelled : Cause (.cancelled ""))
  (hreport : ∀ result context, ∀ c ∈ (report result context).1.failure?, Cause c)

include hcancelled hreport

theorem advance_cause (clock : DateTime) (e : Execution) (s : Sandbox) (context : σ) {ending : Ending}
    (h : (e.advance clock report s context).1 = .inr ending) : ∀ c ∈ ending.cause?, Cause c := by
  unfold advance at h
  split at h
  · cases h
    rintro c ⟨⟩
  · split at h
    · cases h
      exact interrupt_cause hcancelled hcancelled clock _ s
    · simp only at h
      split at h
      · rename_i cause hfails
        cases h
        exact interrupt_cause hcancelled (hreport _ _ cause hfails) clock _ _
      · cases h

theorem loop_cause (clock : DateTime) :
    ∀ (steps : Nat) (e : Execution) (s : Sandbox) (context : σ),
      ∀ c ∈ (loop clock report steps e s context).1.cause?, Cause c
  | 0, _, _, _ => by rintro c ⟨⟩
  | steps + 1, e, s, context => by
    have hadvanced : ∀ ending, (e.advance clock report s context).1 = .inr ending →
        ∀ c ∈ ending.cause?, Cause c := fun _ => advance_cause hcancelled hreport clock e s context
    rw [loop]
    split
    · rename_i ending s' context' hadvance
      rw [hadvance] at hadvanced
      exact hadvanced ending rfl
    · exact loop_cause clock steps _ _ _

/-- **An execution is cut short** by a report that fails, or because its task is cancelled. -/
theorem complete_cause (clock : DateTime) (e : Execution) (s : Sandbox) (context : σ) :
    ∀ c ∈ (e.complete clock report s context).1.cause?, Cause c :=
  loop_cause hcancelled hreport clock _ _ _ _

end

end Execution

end Rollout
