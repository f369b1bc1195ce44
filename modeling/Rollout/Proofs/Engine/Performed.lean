import Rollout.Engine.Operation
import Rollout.Proofs.Engine.Finished
import Rollout.Proofs.Generation.Stages
import Rollout.Proofs.Plan.Changes

/-!
# How operations end

An operation creates at most one release.  It is refused before that; or it ends before anything is
executed, and its release keeps the state it started with; or a plan is executed, and its release
records the state that is left.

* `Engine.LeavesOpen` : when the release of an operation is not finished;
* `Engine.Stage` : how far an operation gets before it has to wait;
* `Engine.Performed` : the ways in which an operation ends;
* `Engine.perform_spec` : every operation ends in one of them.
-/

set_option autoImplicit false

namespace Rollout

/-! ## Ordinary failures -/

/-- A task whose pipeline, if it has one, fails only in ordinary ways. -/
def Task.Ordinary : Task → Prop
  | .apply p | .preview p _ => p.Ordinary
  | .destroy => True

/-- A sandbox that fails only in ordinary ways. -/
def Sandbox.FailsOrdinarily (s : Sandbox) : Prop :=
  ∀ call id e, s.failure? call id = some e → e.IsOrdinary

/-- A sandbox that fails only in ordinary ways, and answers only resources with an identifier. -/
structure Sandbox.Ordinary (s : Sandbox) : Prop where
  failures : s.FailsOrdinarily
  named : s.Named

/-- The desired resources of an operation. -/
def Task.desired : Task → Except Failure (List Resource)
  | .apply p | .preview p _ => p.run
  | .destroy => .ok []

namespace Pipeline

/-- What a pipeline generates can be planned, but for a resource without an identifier. -/
def LosesId (p : Pipeline) (baseline : List Resource) : Prop :=
  ∃ spec, p.run = .ok spec ∧ Resource.Accepted true spec ∧ Resource.Accepted false baseline ∧
    "" ∈ Resource.ids spec

/-- What a pipeline generates can be planned. -/
def Plans (p : Pipeline) (baseline : List Resource) : Prop :=
  ∃ spec, p.run = .ok spec ∧ Resource.Accepted true spec ∧ Resource.Accepted false baseline ∧
    "" ∉ Resource.ids spec

end Pipeline

/-! ## Reading -/

/-- A read only logs a call, and fails in one way where the backend fails in ordinary ways. -/
theorem LiveRead.launch_spec (limits : Limits) (r : Resource) (s : Sandbox) :
    (∃ calls, (launch limits r s).2 = { s with calls }) ∧
      (s.FailsOrdinarily → ∀ e, (launch limits r s).1.failure? = some e → ∃ a, e = .action a) := by
  unfold launch
  split
  · exact ⟨⟨_, rfl⟩, fun _ e he => by cases he; exact ⟨_, rfl⟩⟩
  split
  · exact ⟨⟨_, rfl⟩, fun _ e he => by cases he; exact ⟨_, rfl⟩⟩
  dsimp only
  split
  · exact ⟨⟨_, rfl⟩, fun _ e he => by cases he; exact ⟨_, rfl⟩⟩
  · refine ⟨⟨_, rfl⟩, fun hordinary e he => ?_⟩
    obtain ⟨e', hfailure, rfl⟩ := Option.map_eq_some_iff.mp he
    have := hordinary _ _ e' hfailure
    cases e' <;> first | exact ⟨_, rfl⟩ | exact absurd rfl (this _)

theorem readLive_spec (limits : Limits) : ∀ (resources : List Resource)
    (found : List (String × Option Resource)) (s : Sandbox),
    (∃ calls, (readLive limits resources found s).2 = { s with calls }) ∧
      (s.FailsOrdinarily →
        ∀ e, (readLive limits resources found s).1 = .error e → ∃ a, e = .action a)
  | [], found, s => ⟨⟨s.calls, rfl⟩, fun _ e h => by cases h⟩
  | r :: rest, found, s => by
    obtain ⟨⟨calls, hcalls⟩, hfails⟩ := LiveRead.launch_spec limits r s
    rw [readLive]
    generalize LiveRead.launch limits r s = launched at hcalls hfails
    obtain ⟨read, s'⟩ := launched
    simp only at hcalls hfails ⊢
    subst hcalls
    unfold LiveRead.finish
    cases hf : read.failure? with
    | some e =>
      exact ⟨⟨calls, rfl⟩, fun hordinary e' he' => by cases he'; exact hfails hordinary e hf⟩
    | none =>
      obtain ⟨⟨calls', hcalls'⟩, hrest⟩ := readLive_spec limits rest
        (Assoc.put r.id ({ s with calls }.live read.resource) found) { s with calls }
      exact ⟨⟨calls', hcalls'⟩, hrest⟩

/-! ## Preparation -/

namespace Engine

variable {σ : Type} [Keeper σ] (st : Keeper.Reliable σ) (engine : Engine) (request : Request σ)

/-- **The operations that leave their release open**, on a stack with a recorded state: a destroy
whose recorded state cannot be planned, whatever generates a resource without an identifier, and what
would be executed within limits under which nothing can run. -/
def LeavesOpen (baseline : List Resource) : Prop :=
  match request.task with
  | .apply p =>
    p.LosesId baseline ∨ p.Plans baseline ∧ ∃ e, engine.limits.check = .error e
  | .preview p _ => p.LosesId baseline
  | .destroy => ¬ Resource.Accepted false baseline ∨ ∃ e, engine.limits.check = .error e

/-- The operation ended before anything was executed: its release keeps the state it started with,
and is finished unless it has to be left open. -/
def Unexecuted (before : Kept) (s : σ) : Prop :=
  st.Good s ∧ ∃ r, st.kept s = before.with r ∧ r.triple = request.triple ∧
    (r.isTerminal = true ↔
      ¬ engine.LeavesOpen request (Release.lastState (before request.triple))) ∧
    r.state = some (Release.lastState (before request.triple))

/-- A release that is about to be worked on, and starts with the state of the one before it. -/
structure Started (before : Kept) (r : Release) (s : σ) : Prop where
  holds : st.Holds before r s
  triple : r.triple = request.triple
  state : r.state = some (Release.lastState (before request.triple))

/-- How far an operation gets before it has to wait. -/
inductive Stage (before : Kept) : Prepared × σ → Prop
  | refused {verdict : Verdict} {s : σ} (good : st.Good s) (kept : st.kept s = before) :
      Stage before (.ended none verdict, s)
  | ended {plan : Option Plan} {verdict : Verdict} {s : σ}
      (unexecuted : Unexecuted st engine request before s) :
      Stage before (.ended plan verdict, s)
  | reading {r : Release} {plan : Plan} {s : σ} (started : Started st request before r s)
      (phase : r.phase = .previewing)
      (finishes : ¬ engine.LeavesOpen request (Release.lastState (before request.triple))) :
      Stage before (.reading r plan, s)
  | executing {r : Release} {plan : Plan} {spec : List Resource} {schedule : Schedule}
      {stopped : Bool} {now : Instant} {s : σ} (started : Started st request before r s)
      (phase : r.phase.isMutating = true) (desired : request.task.desired = .ok spec)
      (computed : Plan.compute spec (Release.lastState (before request.triple)) = .ok plan)
      (scheduled : Schedule.of? plan (Release.lastState (before request.triple)) = .ok schedule)
      (finishes : ¬ engine.LeavesOpen request (Release.lastState (before request.triple))) :
      Stage before (.executing r plan (.init plan r.resources schedule engine.limits
        request.interrupts stopped now), s)

variable {st engine request} {before : Kept} {r : Release} {plan : Plan} {spec : List Resource}
  {s : σ}

theorem Started.resources (h : Started st request before r s) :
    r.resources = Release.lastState (before request.triple) := by
  rw [Release.resources, h.state, Option.getD_some]

/-- The state that a release starts with is the one it was stored with, which names its resources. -/
theorem Started.named (h : Started st request before r s) :
    ∀ x ∈ Release.lastState (before request.triple), x.id ≠ "" := by
  have hnamed := (Release.problems_eq_nil_iff.mp h.holds.readable).2.2.2
  rwa [h.resources] at hnamed

/-- The record of a release holds the state that it takes over as it is. -/
theorem dumped_state (hgood : st.Good s) (hkept : st.kept s = before.with r.dumped) {t : Triple}
    (hstate : r.state = some (Release.lastState (before t))) :
    r.dumped.state = some (Release.lastState (before t)) := by
  have hfinite := Keeper.Reliable.finite_lastState hgood hkept t
  simp only [Release.dumped, hstate, Option.map_some, Resource.map_dumped_eq_self_iff.mpr hfinite]

/-- A release that is finished with the state it started with. -/
theorem unexecuted_of_closed
    (h : st.Closed before request.triple (some (Release.lastState (before request.triple))) s)
    (hfinishes : ¬ engine.LeavesOpen request (Release.lastState (before request.triple))) :
    Unexecuted st engine request before s := by
  obtain ⟨hgood, r, hkept, htriple, hterminal, hstate⟩ := h
  exact ⟨hgood, r.dumped, hkept, htriple, iff_of_true hterminal hfinishes,
    dumped_state hgood hkept hstate⟩

/-- A release that is left as it was started. -/
theorem Started.unexecuted (h : Started st request before r s)
    (hopen : engine.LeavesOpen request (Release.lastState (before request.triple))) :
    Unexecuted st engine request before s := by
  refine ⟨h.holds.good, r.dumped, h.holds.kept, h.triple, iff_of_false ?_ (not_not_intro hopen),
    dumped_state h.holds.good h.holds.kept h.state⟩
  rw [Release.dumped_isTerminal, h.holds.unfinished]
  exact Bool.false_ne_true

theorem Started.giveUp (h : Started st request before r s)
    (hfinishes : ¬ engine.LeavesOpen request (Release.lastState (before request.triple)))
    (plan : Option Plan) (text : String) :
    Stage st engine request before (Prepared.ofVerdict plan (engine.giveUp r plan text s)) := by
  have hclosed : st.Closed before r.triple r.state (engine.giveUp r plan text s).2 :=
    giveUp_closed h.holds plan text
  rw [h.triple, h.state] at hclosed
  exact .ended (unexecuted_of_closed hclosed hfinishes)

/-- A new release is under way. -/
theorem create_spec (request : Request σ) (hready : st.Ready request.triple s) (now : DateTime) :
    ∃ r s', Keeper.create now request.triple s = (.ok r, s') ∧
      Started st request (st.kept s) r s' ∧ r.phase = .generating ∧ r.spec = none := by
  obtain ⟨revision, s', hcreate, hgood', hkept⟩ :=
    st.create now request.triple s hready.good hready.room
  exact ⟨_, s', hcreate, ⟨Keeper.Reliable.holds_new hgood' hkept, rfl, rfl⟩, rfl, rfl⟩

/-- A new release is under way, or none is created, and everything stays as it was. -/
theorem create_or_refuse (request : Request σ) (hgood : st.Good s) (now : DateTime) :
    (∃ e s', Keeper.create now request.triple s = (.error e, s') ∧ st.Good s' ∧
      st.kept s' = st.kept s) ∨
    ∃ r s', Keeper.create now request.triple s = (.ok r, s') ∧
      Started st request (st.kept s) r s' ∧ r.phase = .generating ∧ r.spec = none := by
  by_cases hroom : st.Room request.triple s
  · exact .inr (create_spec request ⟨hgood, hroom⟩ now)
  · exact .inl (st.refuse now request.triple s hgood hroom)

/-- A release is saved in the phase of its operation. -/
theorem Started.saveStarted (h : Started st request before r s) (r' : Release)
    (hcontinues : r.Continues r') (hproblems : r'.problems = []) (hstate : r'.state = r.state)
    (hopen : r'.isTerminal = false) :
    ∃ s', Engine.saveStarted (.ok r') s = (.ok r', s') ∧ Started st request before r' s' := by
  obtain ⟨s', hsave, hgood, hkept⟩ := h.holds.save hcontinues hproblems
  exact ⟨s', by simp only [Engine.saveStarted, hsave],
    ⟨⟨hgood, hkept, hopen⟩, hcontinues.triple.trans h.triple, hstate.trans h.state⟩⟩

theorem schedule_spec (h : Started st request before r s) (hphase : r.phase.isMutating = true)
    (hdesired : request.task.desired = .ok spec)
    (hcompute : Plan.compute spec (Release.lastState (before request.triple)) = .ok plan)
    (hopen : engine.LeavesOpen request (Release.lastState (before request.triple)) ↔
      ∃ e, engine.limits.check = .error e) (now : Instant) :
    Stage st engine request before (engine.schedule request r plan now s) := by
  unfold schedule
  cases hlimits : engine.limits.check with
  | error e => exact .ended (h.unexecuted (hopen.mpr ⟨e, hlimits⟩))
  | ok _ =>
    have hfinishes : ¬ engine.LeavesOpen request (Release.lastState (before request.triple)) := by
      rw [hopen, hlimits]
      rintro ⟨e, he⟩
      cases he
    simp only
    cases hschedule : Schedule.of? plan r.resources with
    | error e => exact h.giveUp hfinishes _ _
    | ok schedule =>
      rw [h.resources] at hschedule
      exact .executing h hphase hdesired hcompute hschedule hfinishes

/-- A release that is generating can be given its spec, and its operation started. -/
theorem startWith_eq (engine : Engine) (spec : List Resource) (operation : Operation)
    (hphase : r.phase = .generating) :
    engine.startWith spec operation r = .ok { r with
      spec := some spec, phase := operation.phase, modifiedTime := engine.clock } := by
  unfold Engine.startWith Release.attachSpec Release.start Release.move
  cases operation <;> simp [hphase, Operation.phase, Phase.canMove]

/-- A release that is generating can be destroyed without a spec. -/
theorem startDestroy_eq (now : DateTime) (hphase : r.phase = .generating) :
    r.start now .destroy = .ok { r with phase := .destroying, modifiedTime := now } := by
  simp [Release.start, Release.move, hphase, Operation.needsSpec, Operation.phase, Phase.canMove]

/-- A release that is generating is given its spec, and saved in the phase of its operation. -/
theorem Started.startWith (h : Started st request before r s) (hphase : r.phase = .generating)
    (hnamed : "" ∉ Resource.ids spec) (engine : Engine) (operation : Operation) :
    ∃ r' s', Engine.saveStarted (engine.startWith spec operation r) s = (.ok r', s') ∧
      Started st request before r' s' ∧ r'.phase = operation.phase := by
  obtain ⟨s', hsaved, hstarted⟩ := h.saveStarted { r with
      spec := some spec, phase := operation.phase, modifiedTime := engine.clock } ⟨rfl, rfl⟩
    (Release.problems_of_spec h.holds.readable hnamed rfl rfl rfl) rfl
    (by cases operation <;> rfl)
  rw [startWith_eq engine spec operation hphase]
  exact ⟨_, s', hsaved, hstarted, rfl⟩

theorem generate_inv {pipeline : Pipeline} {baseline : List Resource}
    (h : generate pipeline baseline = .ok (spec, plan)) :
    pipeline.run = .ok spec ∧ Plan.compute spec baseline = .ok plan := by
  unfold generate at h
  split at h
  · cases h
  · rename_i hrun
    split at h
    · cases h
    · rename_i hcompute
      cases h
      exact ⟨hrun, hcompute⟩

/-- A pipeline whose spec was planned. -/
theorem plans_of_compute {pipeline : Pipeline} {baseline : List Resource}
    (hrun : pipeline.run = .ok spec) (hcompute : Plan.compute spec baseline = .ok plan) :
    pipeline.Plans baseline ∧ ¬ pipeline.LosesId baseline := by
  obtain ⟨wanted, recorded, hwanted, hrecorded, rfl, hids⟩ := Plan.compute_inv hcompute
  have hnot : "" ∉ Resource.ids spec := by
    intro hmem
    obtain ⟨d, hd, hid⟩ := Resource.mem_ids.mp hmem
    refine hids _ ((Plan.mem_between_iff hwanted hrecorded).mpr (.inr ⟨d, hd, rfl⟩)) ?_
    rw [Plan.applyOf_id, hid]
  refine ⟨⟨spec, hrun, Graph.Accepted.of_build hwanted, Graph.Accepted.of_build hrecorded, hnot⟩, ?_⟩
  rintro ⟨spec', hrun', -, -, hmem⟩
  rw [hrun] at hrun'
  cases hrun'
  exact hnot hmem

/-- **The preparation of an operation that needs a spec**: it goes on where the spec can be
planned. -/
theorem prepareSpec_spec {pipeline : Pipeline} {operation : Operation}
    {next : Release → Plan → σ → Prepared × σ} (hgood : st.Good s) (hordinary : pipeline.Ordinary)
    (hlose : pipeline.LosesId (Release.lastState (st.kept s request.triple)) →
      engine.LeavesOpen request (Release.lastState (st.kept s request.triple)))
    (hopen : engine.LeavesOpen request (Release.lastState (st.kept s request.triple)) →
      pipeline.LosesId (Release.lastState (st.kept s request.triple)) ∨
        pipeline.Plans (Release.lastState (st.kept s request.triple)))
    (hnext : ∀ r plan spec s', Started st request (st.kept s) r s' → r.phase = operation.phase →
      pipeline.run = .ok spec →
      Plan.compute spec (Release.lastState (st.kept s request.triple)) = .ok plan →
      Stage st engine request (st.kept s) (next r plan s')) :
    Stage st engine request (st.kept s) (engine.prepareSpec request pipeline operation next s) := by
  unfold prepareSpec
  rcases create_or_refuse request hgood engine.clock with
    ⟨e, s', hcreate, hgood', hkept⟩ | ⟨r, s', hcreate, hstarted, hphase, _⟩
  · simp only [hcreate]
    exact .refused hgood' hkept
  unfold generate
  simp only [hcreate, hstarted.resources]
  cases hrun : pipeline.run with
  | error e =>
    simp only [hordinary.isRecorded hrun, if_true]
    refine hstarted.giveUp (fun h => ?_) _ _
    obtain ⟨spec, hspec, -⟩ | ⟨spec, hspec, -⟩ := hopen h <;>
    · rw [hrun] at hspec
      cases hspec
  | ok spec =>
    rcases Plan.compute_cases spec hstarted.named with
      ⟨hrefused, e, hcompute⟩ | ⟨hspec, hbase, hmem, hcompute⟩ | ⟨_, _, hnot, plan, hcompute⟩
    · simp only [hcompute, Failure.isRecorded, if_true]
      refine hstarted.giveUp (fun h => hrefused ?_) _ _
      obtain ⟨spec', hspec', hacc, hbase, -⟩ | ⟨spec', hspec', hacc, hbase, -⟩ := hopen h <;>
      · rw [hrun] at hspec'
        cases hspec'
        exact ⟨hacc, hbase⟩
    · simp only [hcompute, Failure.isRecorded, Bool.false_eq_true, if_false]
      exact .ended (hstarted.unexecuted (hlose ⟨spec, hrun, hspec, hbase, hmem⟩))
    · obtain ⟨r', s'', hsaved, hstarted', hphase'⟩ :=
        hstarted.startWith hphase hnot engine operation
      simp only [hcompute, hsaved]
      exact hnext r' plan spec s'' hstarted' hphase' hrun hcompute

theorem prepareDestroy_spec (hgood : st.Good s) (htask : request.task = .destroy) (now : Instant) :
    Stage st engine request (st.kept s) (engine.prepareDestroy request now s) := by
  have hleaves : ∀ baseline, engine.LeavesOpen request baseline ↔
      ¬ Resource.Accepted false baseline ∨ ∃ e, engine.limits.check = .error e := fun baseline => by
    unfold LeavesOpen
    rw [htask]
  unfold prepareDestroy
  split
  · exact .refused hgood rfl
  · exact .refused hgood rfl
  · rcases create_or_refuse request hgood engine.clock with
      ⟨e, s', hcreate, hgood', hkept⟩ | ⟨r, s', hcreate, hstarted, hphase, _⟩
    · simp only [hcreate]
      exact .refused hgood' hkept
    simp only [hcreate, hstarted.resources]
    rcases Plan.compute_cases [] hstarted.named with
      ⟨hrefused, e, hcompute⟩ | ⟨_, _, hmem, _⟩ | ⟨hnone, hbase, _, plan, hcompute⟩
    · simp only [hcompute]
      refine .ended (hstarted.unexecuted ((hleaves _).mpr (.inl fun hbase => hrefused ⟨?_, hbase⟩)))
      exact (Graph.build_isOk_iff true []).mp ⟨_, rfl⟩
    · cases hmem
    · have hstart := startDestroy_eq engine.clock hphase
      obtain ⟨s'', hsaved, hstarted'⟩ := hstarted.saveStarted
        { r with phase := .destroying, modifiedTime := engine.clock } ⟨rfl, rfl⟩
        (Release.problems_congr hstarted.holds.readable rfl rfl rfl) rfl rfl
      simp only [hcompute, hstart, hsaved]
      refine schedule_spec hstarted' rfl (by rw [htask]; rfl) hcompute ?_ now
      rw [hleaves]
      exact or_iff_right (not_not_intro hbase)

/-- **How far an operation gets before it has to wait.** -/
theorem prepare_spec (hgood : st.Good s) (hordinary : request.task.Ordinary) (now : Instant) :
    Stage st engine request (st.kept s) (engine.prepare request now s) := by
  have hleaves : ∀ baseline, engine.LeavesOpen request baseline ↔
      match request.task with
      | .apply p => p.LosesId baseline ∨ p.Plans baseline ∧ ∃ e, engine.limits.check = .error e
      | .preview p _ => p.LosesId baseline
      | .destroy => ¬ Resource.Accepted false baseline ∨ ∃ e, engine.limits.check = .error e :=
    fun _ => Iff.rfl
  unfold prepare
  cases htask : request.task with
  | apply pipeline =>
    simp only [htask] at hleaves
    rw [htask] at hordinary
    refine prepareSpec_spec hgood hordinary (fun h => (hleaves _).mpr (.inl h))
      (fun h => ((hleaves _).mp h).imp_right And.left) ?_
    intro r plan spec s' hstarted hphase hrun hcompute
    obtain ⟨hplans, hkeeps⟩ := plans_of_compute hrun hcompute
    refine schedule_spec hstarted (by rw [hphase]; rfl) (by rw [htask]; exact hrun) hcompute ?_ now
    rw [hleaves, or_iff_right hkeeps]
    exact and_iff_right hplans
  | preview pipeline live =>
    simp only [htask] at hleaves
    rw [htask] at hordinary
    have hnext : ∀ r plan spec s', Started st request (st.kept s) r s' →
        r.phase = Operation.preview.phase → pipeline.run = .ok spec →
        Plan.compute spec (Release.lastState (st.kept s request.triple)) = .ok plan →
        ¬ engine.LeavesOpen request (Release.lastState (st.kept s request.triple)) :=
      fun r plan spec s' _ _ hrun hcompute h =>
        (plans_of_compute hrun hcompute).2 ((hleaves _).mp h)
    cases live with
    | true =>
      refine prepareSpec_spec hgood hordinary (hleaves _).mpr (fun h => .inl ((hleaves _).mp h)) ?_
      intro r plan spec s' hstarted hphase hrun hcompute
      exact .reading hstarted hphase (hnext r plan spec s' hstarted hphase hrun hcompute)
    | false =>
      refine prepareSpec_spec hgood hordinary (hleaves _).mpr (fun h => .inl ((hleaves _).mp h)) ?_
      intro r plan spec s' hstarted hphase hrun hcompute
      have hclosed : st.Closed (st.kept s) r.triple r.state
          (engine.concludePreview r plan [] s').2 :=
        concludePreview_closed hstarted.holds ⟨rfl, rfl⟩ hstarted.holds.readable hphase plan []
      rw [hstarted.triple, hstarted.state] at hclosed
      exact .ended (unexecuted_of_closed hclosed (hnext r plan spec s' hstarted hphase hrun hcompute))
  | destroy => exact prepareDestroy_spec hgood htask now

/-! ## Whole operations -/

/-- How an operation ends, with what becomes of the backends and of the store. -/
inductive Performed (st : Keeper.Reliable σ) (engine : Engine) (request : Request σ)
    (sandbox : Sandbox) (s : σ) : Sandbox × σ → Prop
  | refused {s' : σ} (good : st.Good s') (kept : st.kept s' = st.kept s) :
      Performed st engine request sandbox s (sandbox, s')
  | unexecuted {calls : List (Call × String)} {s' : σ}
      (unexecuted : Unexecuted st engine request (st.kept s) s') :
      Performed st engine request sandbox s ({ sandbox with calls }, s')
  | executed {spec : List Resource} {plan : Plan} {schedule : Schedule} {run : Run}
      {sandbox' : Sandbox} {cancelled : Bool} {s' : σ}
      (executing : ∃ r plan execution, (engine.prepare request ⟨0, 0⟩ s).1 =
        .executing r plan execution)
      (desired : request.task.desired = .ok spec)
      (computed : Plan.compute spec (Release.lastState (st.kept s request.triple)) = .ok plan)
      (scheduled : Schedule.of? plan (Release.lastState (st.kept s request.triple)) = .ok schedule)
      (reached : Execution.Reached schedule engine.limits sandbox (run, sandbox'))
      (idle : run.running = [])
      (closed : st.Closed (st.kept s) request.triple
        (some (run.cancelPending.result plan (Release.lastState (st.kept s request.triple))
          cancelled).state) s')
      (finishes : ¬ engine.LeavesOpen request (Release.lastState (st.kept s request.triple))) :
      Performed st engine request sandbox s (sandbox', s')

/-- **How operations end.** -/
theorem perform_spec {sandbox : Sandbox} (hgood : st.Good s) (hordinary : request.task.Ordinary)
    (hsandbox : sandbox.Ordinary) (hcancel : request.interrupts.cancelAt.length ≤ 1) :
    Performed st engine request sandbox s (engine.perform request sandbox s).2 := by
  unfold perform
  cases checkConfig request with
  | error e => exact .refused hgood rfl
  | ok _ =>
    have hstage : Stage st engine request (st.kept s) (engine.prepare request ⟨0, 0⟩ s) :=
      prepare_spec hgood hordinary _
    simp only
    generalize hanswer : engine.prepare request ⟨0, 0⟩ s = answer at hstage
    cases hstage with
    | refused good kept => exact .refused good kept
    | ended unexecuted => exact .unexecuted unexecuted
    | @reading r plan s' started phase finishes =>
      obtain ⟨⟨calls, hcalls⟩, hfails⟩ := readLive_spec engine.limits r.resources [] sandbox
      have hfails := hfails hsandbox.failures
      simp only [complete]
      generalize readLive engine.limits r.resources [] sandbox = read at hcalls hfails
      obtain ⟨live, sandbox'⟩ := read
      simp only at hcalls hfails ⊢
      subst hcalls
      refine .unexecuted (unexecuted_of_closed ?_ finishes)
      rw [← started.state, ← started.triple]
      cases live with
      | ok found =>
        exact concludePreview_closed started.holds ⟨rfl, rfl⟩ started.holds.readable phase _ _
      | error e =>
        obtain ⟨a, rfl⟩ := hfails e rfl
        exact giveUp_closed started.holds _ _
    | @executing r plan spec schedule stopped now s' started phase desired computed scheduled
        finishes =>
      simp only [complete]
      generalize hcomplete : Execution.complete _ _ _ _ _ = final
      rw [← started.resources] at computed scheduled
      obtain ⟨hadrift, run, cancelled, hreached, hidle, hclosed⟩ := execute_spec request
        started.holds phase computed scheduled hsandbox.named hcancel stopped now hcomplete
      rw [hadrift]
      rw [started.triple] at hclosed
      rw [started.resources] at computed scheduled hclosed
      exact .executed ⟨_, _, _, congrArg Prod.fst hanswer⟩ desired computed scheduled hreached hidle
        hclosed finishes

end Engine

end Rollout
