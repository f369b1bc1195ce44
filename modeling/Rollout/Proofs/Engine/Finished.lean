import Rollout.Engine.Operation
import Rollout.Proofs.Execution.Executor
import Rollout.Proofs.Execution.State
import Rollout.Proofs.Store.Reliable

/-!
# Finishing a release

The release of an operation is the latest of its triple until the operation ends, and every version
of it can be saved.

* `Keeper.Reliable.Holds` : the release under way, as it was last saved;
* `Keeper.Reliable.Closed` : the release is finished;
* `Engine.giveUp_delivers` : what is delivered of a release that is given up;
* `Engine.execute_spec` : a plan that is executed finishes the release with the state that is left.
-/

set_option autoImplicit false

namespace Rollout

/-! ## Steps of a release -/

namespace Release

variable {r : Release} {state : List Resource}

/-- A later version of a release that is not finished. -/
structure Continues (stored r : Release) : Prop where
  triple : r.triple = stored.triple
  revision : r.revision = stored.revision

theorem problems_of_state (h : r.problems = []) (hnamed : ∀ x ∈ state, x.id ≠ "") {r' : Release}
    (hrevision : r'.revision = r.revision) (hspec : r'.spec = r.spec)
    (hstate : r'.state = some state) : r'.problems = [] := by
  rw [problems_eq_nil_iff] at h ⊢
  rw [resources, hstate, hspec, hrevision]
  exact ⟨h.1, h.2.1, by simp, hnamed⟩

theorem problems_congr (h : r.problems = []) {r' : Release}
    (hrevision : r'.revision = r.revision) (hspec : r'.spec = r.spec) (hstate : r'.state = r.state) :
    r'.problems = [] := by
  rw [problems_eq_nil_iff] at h ⊢
  rw [resources, hstate, hspec, hrevision]
  exact h

theorem problems_of_spec (h : r.problems = []) {spec : List Resource}
    (hnamed : "" ∉ Resource.ids spec) {r' : Release} (hrevision : r'.revision = r.revision)
    (hspec : r'.spec = some spec) (hstate : r'.state = r.state) : r'.problems = [] := by
  rw [problems_eq_nil_iff] at h ⊢
  rw [resources, hstate, hspec, hrevision]
  refine ⟨h.1, ?_, h.2.2⟩
  intro x hx hid
  exact hnamed (hid ▸ Resource.mem_ids_of_mem hx)

theorem isTerminal_of_isMutating (h : r.phase.isMutating = true) : r.isTerminal = false := by
  unfold isTerminal
  cases hp : r.phase <;> simp_all [Phase.isMutating, Phase.isTerminal]

theorem fail_none (now : DateTime) (reason : String) (h : r.isTerminal = false) :
    r.fail now reason none
      = .ok { r with error := some reason, phase := .failed, modifiedTime := now } := by
  unfold fail settle move
  unfold isTerminal at h
  cases hp : r.phase <;> simp_all [isTerminal, Phase.isTerminal, Phase.canMove]

theorem fail_some (now : DateTime) (reason : String) (h : r.phase.isMutating = true) :
    r.fail now reason (some state)
      = .ok { r with
          state := some state, error := some reason, phase := .failed, modifiedTime := now } := by
  unfold fail settle move
  cases hp : r.phase <;> simp_all [isTerminal, Phase.isTerminal, Phase.isMutating, Phase.canMove]

theorem succeed_none (now : DateTime) (h : r.phase = .previewing) :
    r.succeed now none = .ok { r with phase := .succeeded, modifiedTime := now } := by
  simp [succeed, settle, move, h, Phase.isMutating, Phase.canMove]

theorem succeed_some (now : DateTime) (h : r.phase.isMutating = true) :
    r.succeed now (some state)
      = .ok { r with state := some state, phase := .succeeded, modifiedTime := now } := by
  unfold succeed settle move
  cases hp : r.phase <;> simp_all [Phase.isMutating, Phase.canMove]

/-- A release under way with the progress of its execution. -/
def withProgress (now : DateTime) (result : ExecutionResult) (r : Release) : Release :=
  { r with state := some result.state, modifiedTime := now, actions := result.records }

/-- A release that records what is left of an execution that was cut short. -/
def interrupted (now : DateTime) (cause : Failure) (left : ExecutionResult) (r : Release) :
    Release :=
  { r with
    actions := left.records, state := some left.state,
    error := some ("operation interrupted: " ++ cause.label), phase := .failed,
    modifiedTime := now }

theorem checkpoint_some (now : DateTime) (h : r.phase.isMutating = true) :
    r.checkpoint now (some state) = .ok { r with state := some state, modifiedTime := now } := by
  simp [checkpoint, h]

end Release

namespace Keeper.Reliable

variable {σ : Type} [Keeper σ] (st : Keeper.Reliable σ)

/-- The record of the release under way is the latest of its triple, and is not finished. -/
structure Holds (before : Kept) (saved : Release) (s : σ) : Prop where
  good : st.Good s
  kept : st.kept s = before.with saved.dumped
  unfinished : saved.isTerminal = false

/-- The release that was under way is finished, with a state, and its record is kept. -/
def Closed (before : Kept) (t : Triple) (state : Option (List Resource)) (s : σ) : Prop :=
  st.Good s ∧ ∃ r : Release, st.kept s = before.with r.dumped ∧ r.triple = t ∧
    r.isTerminal = true ∧ r.state = state

variable {st} {before : Kept} {saved r : Release} {s : σ}

theorem Holds.readable (h : st.Holds before saved s) : saved.problems = [] := by
  have hmem : saved.dumped ∈ st.kept s saved.dumped.triple := by
    rw [h.kept, Kept.with_self]
    exact List.mem_append_right _ (List.mem_singleton_self _)
  exact saved.problems_dumped ▸ (st.sound s _ h.good _ hmem).readable

/-- The state that a release takes over is finite. -/
theorem finite_lastState (hgood : st.Good s) (hkept : st.kept s = before.with r) (t : Triple) :
    ∀ x ∈ Release.lastState (before t), x.Finite := by
  refine Release.finite_lastState fun x hx => (st.sound s t hgood x ?_).finite
  rw [hkept]
  by_cases ht : t = r.triple
  · rw [ht, Kept.with_self, ← ht]
    exact List.mem_append_left _ hx
  · rwa [Kept.with_of_ne ht]

/-- A release that has been created is under way. -/
theorem holds_new {now : DateTime} {t : Triple} {k : Int} (hgood : st.Good s)
    (hkept : st.kept s = before.with (Release.new now t k (Release.lastState (before t)))) :
    st.Holds before (Release.new now t k (Release.lastState (before t))) s := by
  have hfinite : (Release.new now t k (Release.lastState (before t))).Finite :=
    Release.finite_new (finite_lastState hgood hkept t)
  rw [← hfinite.dumped_eq] at hkept
  exact ⟨hgood, hkept, rfl⟩

/-- A later version of the release under way can be saved. -/
theorem Holds.save (h : st.Holds before saved s) (hr : saved.Continues r)
    (hproblems : r.problems = []) :
    ∃ s', Keeper.save r s = (.ok (), s') ∧ st.Good s' ∧ st.kept s' = before.with r.dumped :=
  st.save s before saved.dumped r h.good h.kept h.unfinished hr.triple hr.revision hproblems

end Keeper.Reliable

namespace Engine

variable {σ : Type} [Keeper σ] {st : Keeper.Reliable σ} {before : Kept} {saved r : Release} {s : σ}
  {engine : Engine}

/-! ## Ends -/

theorem finish_closed (h : st.Holds before saved s) (hr : saved.Continues r)
    (hproblems : r.problems = []) (hterminal : r.isTerminal = true)
    {state : Option (List Resource)} (hstate : r.state = state) (deliver : Release → Delivery) :
    st.Closed before saved.triple state (finish (.ok r) deliver s).2 := by
  obtain ⟨s', hsave, hgood, hkept⟩ := h.save hr hproblems
  simp only [finish, hsave]
  exact ⟨hgood, r, hkept, hr.triple, hterminal, hstate⟩

/-- A release that is given up is delivered as it is stored: failed, with the state it had. -/
theorem giveUp_delivers (h : st.Holds before r s) (engine : Engine) (plan : Option Plan)
    (text : String) :
    ∃ r' s', engine.giveUp r plan text s = (.ok { release := r', plan, error := some text }, s') ∧
      r'.phase = .failed ∧ r'.error = some text ∧ r'.spec = r.spec ∧ r'.state = r.state ∧
      r'.triple = r.triple ∧ st.Good s' ∧ st.kept s' = before.with r'.dumped := by
  let failed := { r with error := some text, phase := .failed, modifiedTime := engine.clock }
  have hproblems : failed.problems = [] := Release.problems_congr h.readable rfl rfl rfl
  obtain ⟨s', hsave, hgood, hkept⟩ := h.save (r := failed) ⟨rfl, rfl⟩ hproblems
  refine ⟨failed, s', ?_, rfl, rfl, rfl, rfl, rfl, hgood, hkept⟩
  have hfail : r.fail engine.clock text none = .ok failed := Release.fail_none _ _ h.unfinished
  simp only [giveUp, hfail, finish, hsave]

/-- A release that is given up keeps its state. -/
theorem giveUp_closed (h : st.Holds before r s) (plan : Option Plan) (text : String) :
    st.Closed before r.triple r.state (engine.giveUp r plan text s).2 := by
  obtain ⟨r', s', hgiveUp, hphase, _, _, hstate, htriple, hgood, hkept⟩ :=
    giveUp_delivers h engine plan text
  rw [hgiveUp]
  exact ⟨hgood, r', hkept, htriple, by rw [Release.isTerminal, hphase]; rfl, hstate⟩

theorem settle_closed (h : st.Holds before saved s) (hr : saved.Continues r)
    (hproblems : r.problems = []) (hphase : r.phase.isMutating = true) (plan : Plan)
    {result : ExecutionResult} (hnamed : ∀ x ∈ result.state, x.id ≠ "") :
    st.Closed before saved.triple (some result.state) (engine.settle r plan result s).2 := by
  have hphase' : ({ r with actions := result.records } : Release).phase.isMutating = true := hphase
  unfold settle
  simp only
  split
  · rw [Release.succeed_some _ hphase']
    refine finish_closed h ?_ ?_ ?_ ?_ _
    · exact ⟨hr.triple, hr.revision⟩
    · exact Release.problems_of_state hproblems hnamed rfl rfl rfl
    · rfl
    · rfl
  · rw [Release.fail_some _ _ hphase']
    refine finish_closed h ?_ ?_ ?_ ?_ _
    · exact ⟨hr.triple, hr.revision⟩
    · exact Release.problems_of_state hproblems hnamed rfl rfl rfl
    · rfl
    · rfl

/-- An operation that was interrupted is recorded where its release can be saved. -/
theorem record_eq (hphase : r.phase.isMutating = true) (cause : Failure) {left : ExecutionResult}
    {s' : σ} (hsave : Keeper.save (r.interrupted engine.clock cause left) s = (.ok (), s')) :
    engine.record r cause left s = (.error cause, s') := by
  have hphase' : ({ r with actions := left.records } : Release).phase.isMutating = true := hphase
  have hopen := Release.isTerminal_of_isMutating hphase
  unfold record
  simp only [hopen, Bool.false_eq_true, if_false]
  rw [Release.fail_some _ _ hphase']
  unfold Release.interrupted at hsave
  simp only [hsave]

theorem record_closed (h : st.Holds before saved s) (hr : saved.Continues r)
    (hproblems : r.problems = []) (hphase : r.phase.isMutating = true) (cause : Failure)
    {left : ExecutionResult} (hnamed : ∀ x ∈ left.state, x.id ≠ "") :
    st.Closed before saved.triple (some left.state) (engine.record r cause left s).2 := by
  obtain ⟨s', hsave, hgood, hkept⟩ := h.save (r := r.interrupted engine.clock cause left)
    ⟨hr.triple, hr.revision⟩ (Release.problems_of_state hproblems hnamed rfl rfl rfl)
  rw [record_eq hphase cause hsave]
  exact ⟨hgood, _, hkept, hr.triple, rfl, rfl⟩

theorem concludePreview_closed (h : st.Holds before saved s) (hr : saved.Continues r)
    (hproblems : r.problems = []) (hphase : r.phase = .previewing) (plan : Plan)
    (drift : List DriftReport) :
    st.Closed before saved.triple r.state (engine.concludePreview r plan drift s).2 := by
  unfold concludePreview
  rw [Release.succeed_none _ hphase]
  refine finish_closed h ?_ ?_ ?_ ?_ _
  · exact ⟨hr.triple, hr.revision⟩
  · exact Release.problems_congr hproblems rfl rfl rfl
  · rfl
  · rfl

end Engine

/-! ## Executions -/

/-- What a sandbox answers has an identifier. -/
def Sandbox.Named (s : Sandbox) : Prop := ∀ id r, s.answer? id = some (some r) → r.id ≠ ""

section

variable {plan : Plan} {desired baseline : List Resource} {schedule : Schedule} {limits : Limits}
  {sandbox sandbox' : Sandbox} {run : Run} {x : Resource} {i : Nat}

/-- What an action records is its desired version, or what the sandbox has an answer for. -/
theorem Schedule.answer?_outcomes
    (h : schedule.answer? (schedule.outcomes limits sandbox) i = some x) :
    (∃ c, schedule.actions[i]? = some c ∧ c.desired? = some x) ∨
      ∃ id, sandbox.answer? id = some (some x) := by
  unfold Schedule.answer? Schedule.outcomes at h
  cases hc : schedule.actions[i]? with
  | none => simp [hc] at h
  | some c =>
    rcases Flight.endOf_cases limits sandbox c with ⟨text, hend⟩ | hend
    · simp [hc, hend] at h
    · simp only [hc, hend] at h
      unfold Run.confirmedVersion Sandbox.answerOf at h
      cases hsides : c.sides with
      | delete r => simp [hsides] at h
      | create d | update _ d | noChange _ d =>
        simp only [hsides, Option.some.injEq] at h
        cases ha : sandbox.answer? (Sides.resource c.sides).id with
        | none =>
          rw [hsides] at ha
          simp only [ha, Option.getD_none, Option.getD_some] at h
          exact .inl ⟨c, rfl, by simp [Change.desired?, hsides, Sides.desired?, ← h, Sides.resource]⟩
        | some answer =>
          rw [hsides] at ha
          simp only [ha, Option.getD_some] at h
          cases answer with
          | none =>
            exact .inl ⟨c, rfl,
              by simp [Change.desired?, hsides, Sides.desired?, ← h, Sides.resource]⟩
          | some r => exact .inr ⟨_, by rw [ha, ← h]; rfl⟩

/-- **What an execution leaves** was recorded, is desired, or was answered. -/
theorem forall_resultingState {P : Resource → Prop} (hcompute : Plan.compute desired baseline = .ok plan)
    (hschedule : Schedule.of? plan baseline = .ok schedule) (hbase : ∀ x ∈ baseline, P x)
    (hdesired : ∀ c ∈ plan.changes, ∀ x, c.desired? = some x → P x)
    (hanswers : ∀ id x, sandbox.answer? id = some (some x) → P x)
    (hreached : Execution.Reached schedule limits sandbox (run, sandbox')) (statuses : List Status) :
    ∀ x ∈ plan.resultingState baseline statuses run.applied, P x := by
  intro x hx
  obtain ⟨_, _, _, hrecorded, _, _⟩ := Plan.compute_inv hcompute
  rcases Plan.mem_resultingState (Graph.Accepted.of_build hrecorded).nodup hx with
    hx | ⟨c, hc, hd⟩ | ⟨i, hi⟩
  · exact hbase x hx
  · exact hdesired c hc x hd
  · have hsound := (hreached.run.inv (Schedule.lawful_of hschedule)).toSound
    rcases Schedule.answer?_outcomes ((hsound.mem_applied i x).mp hi).2 with ⟨c, hc, hd⟩ | ⟨id, hid⟩
    · rw [(Schedule.of?_inv hschedule).1] at hc
      exact hdesired c (Plan.mem_actions_iff.mp (List.mem_of_getElem? hc)).1 x hd
    · exact hanswers id x hid

/-- What an execution leaves has identifiers. -/
theorem named_resultingState (hcompute : Plan.compute desired baseline = .ok plan)
    (hschedule : Schedule.of? plan baseline = .ok schedule) (hbase : ∀ x ∈ baseline, x.id ≠ "")
    (hanswers : sandbox.Named) (hreached : Execution.Reached schedule limits sandbox (run, sandbox'))
    (statuses : List Status) :
    ∀ x ∈ plan.resultingState baseline statuses run.applied, x.id ≠ "" := by
  obtain ⟨_, _, _, _, _, hids⟩ := Plan.compute_inv hcompute
  have hplan := Plan.compares_of hcompute
  exact forall_resultingState hcompute hschedule hbase
    (fun c hc x hd => hplan.id_of_desired hc hd ▸ hids c hc) hanswers hreached statuses

end

namespace Engine

variable {σ : Type} [Keeper σ] {st : Keeper.Reliable σ} {before : Kept} {r : Release} {s : σ}
  {t : Triple} {engine : Engine} {request : Request σ} {plan : Plan}
  {desired baseline : List Resource} {schedule : Schedule} {sandbox : Sandbox}

/-- The release under way was saved as it is, and its operation has begun. -/
def Begun (st : Keeper.Reliable σ) (before : Kept) (t : Triple) (context : Release × σ) : Prop :=
  st.Holds before context.1 context.2 ∧ context.1.phase.isMutating = true ∧ context.1.triple = t

/-- A progress that can be saved. -/
theorem checkpoint_saved (hphase : r.phase.isMutating = true) {result : ExecutionResult} {s' : σ}
    (hsave : Keeper.save (r.withProgress engine.clock result) s = (.ok (), s')) :
    engine.checkpoint request result (r, s)
      = ({ stop := request.stopWhen s' }, r.withProgress engine.clock result, s') := by
  unfold checkpoint
  rw [Release.checkpoint_some _ hphase]
  unfold Release.withProgress at hsave ⊢
  simp only [hsave]

/-- A progress that cannot be saved. -/
theorem checkpoint_refused (hphase : r.phase.isMutating = true) {result : ExecutionResult} {s' : σ}
    {e : Failure} (hsave : Keeper.save (r.withProgress engine.clock result) s = (.error e, s')) :
    engine.checkpoint request result (r, s)
      = ({ failure? := some e }, r.withProgress engine.clock result, s') := by
  unfold checkpoint
  rw [Release.checkpoint_some _ hphase]
  unfold Release.withProgress at hsave ⊢
  simp only [hsave]

theorem checkpoint_spec {context : Release × σ} (h : Begun st before t context)
    {result : ExecutionResult} (hnamed : ∀ x ∈ result.state, x.id ≠ "") :
    (engine.checkpoint request result context).1.failure? = none ∧
      Begun st before t (engine.checkpoint request result context).2 := by
  obtain ⟨r, s⟩ := context
  obtain ⟨h, hphase, htriple⟩ := h
  obtain ⟨s', hsave, hgood, hkept⟩ := h.save (r := r.withProgress engine.clock result)
    ⟨rfl, rfl⟩ (Release.problems_of_state h.readable hnamed rfl rfl rfl)
  rw [checkpoint_saved hphase hsave]
  exact ⟨rfl, ⟨hgood, hkept, h.unfinished⟩, hphase, htriple⟩

/-- **A plan that is executed** comes to rest, and the release records what is left. -/
theorem execute_spec (request : Request σ) (h : st.Holds before r s) (hphase : r.phase.isMutating = true)
    (hcompute : Plan.compute desired r.resources = .ok plan)
    (hschedule : Schedule.of? plan r.resources = .ok schedule) (hanswers : sandbox.Named)
    {interrupts : Interrupts} (hcancel : interrupts.cancelAt.length ≤ 1) (stopped : Bool)
    (now : Instant) {answer : Ending × Sandbox × Release × σ}
    (hanswer : (Execution.init plan r.resources schedule engine.limits interrupts stopped now).complete
      engine.clock (engine.checkpoint request) sandbox (r, s) = answer) :
    adrift answer.1 = [] ∧ ∃ run cancelled,
      Execution.Reached schedule engine.limits sandbox (run, answer.2.1) ∧ run.running = [] ∧
      st.Closed before r.triple (some (run.cancelPending.result plan r.resources cancelled).state)
        (engine.conclude answer.2.2.1 plan answer.1 answer.2.2.2).2 := by
  have hs := Schedule.lawful_of hschedule
  have hbase : ∀ x ∈ r.resources, x.id ≠ "" :=
    (Release.problems_eq_nil_iff.mp h.readable).2.2.2
  have hnamed := fun run sandbox' (hreached : Execution.Reached schedule engine.limits sandbox
    (run, sandbox')) => named_resultingState hcompute hschedule hbase hanswers hreached
  have hreport : ∀ run sandbox' context,
      Execution.Reached schedule engine.limits sandbox (run, sandbox') →
      Begun st before r.triple context →
      (engine.checkpoint request (run.result plan r.resources false) context).1.failure? = none ∧
        Begun st before r.triple
          (engine.checkpoint request (run.result plan r.resources false) context).2 :=
    fun run sandbox' context hreached hbegun =>
      checkpoint_spec hbegun (hnamed run sandbox' hreached run.statuses)
  have hbegun : Begun st before r.triple (r, s) := ⟨h, hphase, rfl⟩
  have hreceived := Execution.complete_received hs plan r.resources sandbox now engine.clock stopped
    hreport hbegun hcancel
  have hends : Execution.Ends
      (.init plan r.resources schedule engine.limits interrupts stopped now) sandbox answer.1
      answer.2.1 := by
    rw [← hanswer]
    exact Execution.complete_ends hs plan r.resources sandbox now engine.clock interrupts stopped
      (engine.checkpoint request) (r, s)
  simp only [hanswer] at hreceived
  obtain ⟨⟨hholds, hphase', htriple⟩, hend⟩ := hreceived
  obtain ⟨ending, sandbox', r', s'⟩ := answer
  simp only at htriple
  rw [← htriple]
  rcases hend with ⟨result, rfl⟩ | ⟨_, left, rfl⟩
  · cases hends with
    | finished reached idle =>
      exact ⟨rfl, _, _, reached, idle, settle_closed hholds ⟨rfl, rfl⟩ hholds.readable hphase' plan
        (hnamed _ _ reached _)⟩
  · cases hends with
    | interrupted cause reached idle =>
      exact ⟨rfl, _, _, reached, idle, record_closed hholds ⟨rfl, rfl⟩ hholds.readable hphase' _
        (hnamed _ _ reached _)⟩

end Engine

end Rollout
