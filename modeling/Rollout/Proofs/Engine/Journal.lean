import Rollout.Proofs.Engine.History
import Rollout.Proofs.Store.Recording

/-!
# Journals

A journal has every record that was written to a store, in the order in which they were written.
Whatever operations an engine carries out, and whatever fails, is stopped or interrupted on the way, the
journal tells lives as they should be.

* `Journal` : a store with a journal;
* `Journal.InOrder`, `Journal.UnderWay` : between operations, and while a release is under way;
* `Engine.perform_inOrder` : an operation;
* `Engine.history_lives` : any operations, one after the other.
-/

set_option autoImplicit false

namespace Rollout

open Release

/-- A store, and the records that were written to it. -/
structure Journal (σ : Type) where
  store : σ
  writes : List Release := []

namespace Release

variable {p r : Release}

theorem specified_dumped : Specified r.dumped ↔ Specified r := by
  unfold Specified dumped
  simp

/-- A record may become what the record of a later version is. -/
theorem MayBecome.dumped (h : MayBecome p r) : MayBecome p.dumped r.dumped where
  unfinished := h.unfinished
  phase := h.phase
  state := h.state.imp_left (congrArg (Option.map (List.map Resource.dumped)))
  spec := h.spec.imp_left (congrArg (Option.map (List.map Resource.dumped)))

theorem Follows.dumped (h : Follows p r) : Follows p.dumped r.dumped where
  triple := h.triple
  revision := h.revision
  becomes := h.becomes.dumped
  specified := specified_dumped.mpr h.specified

end Release

namespace Journal

variable {σ : Type} [Keeper σ]

instance : Keeper (Journal σ) where
  create now t j :=
    match Keeper.create now t j.store with
    | (.ok r, s) => (.ok r, ⟨s, j.writes ++ [r]⟩)
    | (.error e, s) => (.error e, ⟨s, j.writes⟩)
  save r j :=
    match Keeper.save r j.store with
    | (.ok _, s) => (.ok (), ⟨s, j.writes ++ [r.dumped]⟩)
    | (.error e, s) => (.error e, ⟨s, j.writes⟩)
  latest t j := Keeper.latest t j.store

/-- The journal tells lives as they should be, and the store keeps them. -/
structure InOrder (recording : Keeper.Recording σ) (j : Journal σ) : Prop where
  keeps : recording.Keeps j.store j.writes
  lives : Lives j.writes

/-- The record of the release under way was written last. -/
structure UnderWay (recording : Keeper.Recording σ) (j : Journal σ) (last : Release) : Prop where
  inOrder : InOrder recording j
  newest : Newest j.writes last.dumped

variable {recording : Keeper.Recording σ} {j : Journal σ} {last r : Release}

theorem UnderWay.specified (h : UnderWay recording j last) : Specified last :=
  specified_dumped.mp (h.inOrder.lives.specified last.dumped h.newest.mem)

/-- A release is created, or nothing is written. -/
theorem create_cases (h : InOrder recording j) (now : DateTime) (t : Triple) :
    (∃ e j', Keeper.create now t j = (.error e, j') ∧ InOrder recording j') ∨
      ∃ r j', Keeper.create now t j = (.ok r, j') ∧ UnderWay recording j' r := by
  rcases recording.create now t h.keeps with ⟨e, s, hs, hkeeps⟩ | ⟨r, s, hs, hbegins, hkeeps⟩
  · exact .inl ⟨e, ⟨s, j.writes⟩, by simp only [Keeper.create, hs], hkeeps, h.lives⟩
  · exact .inr ⟨r, ⟨s, j.writes ++ [r]⟩, by simp only [Keeper.create, hs],
      ⟨hkeeps, h.lives.begin hbegins⟩, by
        rw [(recording.finite hkeeps r (by simp)).dumped_eq]
        exact hbegins.newest_concat⟩

/-- A release is written, or nothing is. -/
theorem save_cases (h : UnderWay recording j last) (hr : Follows last r) :
    (∃ e j', Keeper.save r j = (.error e, j') ∧ UnderWay recording j' last) ∨
      ∃ j', Keeper.save r j = (.ok (), j') ∧ UnderWay recording j' r := by
  have hversions : versions r.triple r.revision j.writes ≠ [] := by
    rw [hr.triple, hr.revision, ← dumped_triple, ← dumped_revision]
    exact List.ne_nil_of_mem (List.mem_of_getLast? h.newest.written)
  rcases recording.save h.inOrder.keeps hversions with ⟨e, s, hs, hkeeps⟩ | ⟨s, hs, hkeeps⟩
  · exact .inl ⟨e, ⟨s, j.writes⟩, by simp only [Keeper.save, hs], ⟨hkeeps, h.inOrder.lives⟩,
      h.newest⟩
  · exact .inr ⟨⟨s, j.writes ++ [r.dumped]⟩, by simp only [Keeper.save, hs],
      ⟨hkeeps, h.inOrder.lives.follow h.newest hr.dumped⟩, h.newest.concat hr.dumped⟩

end Journal

namespace Execution

variable {σ : Type} {Good : σ → Prop} {report : ExecutionResult → σ → Reception × σ}

/-- What every report keeps, an execution keeps. -/
theorem advance_context (clock : DateTime)
    (hreport : ∀ result context, Good context → Good (report result context).2) (e : Execution)
    (sandbox : Sandbox) {context : σ} (hgood : Good context) :
    Good (e.advance clock report sandbox context).2.2 := by
  unfold advance
  split
  · exact hgood
  · split
    · exact hgood
    · simp only
      split
      · exact hreport _ _ hgood
      · exact hreport _ _ hgood

theorem loop_context (clock : DateTime)
    (hreport : ∀ result context, Good context → Good (report result context).2) :
    ∀ (steps : Nat) (e : Execution) (sandbox : Sandbox) (context : σ), Good context →
      Good (loop clock report steps e sandbox context).2.2
  | 0, _, _, _, hgood => hgood
  | steps + 1, e, sandbox, context, hgood => by
    have hadvanced := advance_context clock hreport e sandbox hgood
    rw [loop]
    split
    · rename_i ending s' context' hadvance
      rw [hadvance] at hadvanced
      exact hadvanced
    · rename_i e' s' context' hadvance
      rw [hadvance] at hadvanced
      exact loop_context clock hreport steps e' s' context' hadvanced

theorem complete_context (clock : DateTime)
    (hreport : ∀ result context, Good context → Good (report result context).2) (e : Execution)
    (sandbox : Sandbox) {context : σ} (hgood : Good context) :
    Good (e.complete clock report sandbox context).2.2 :=
  loop_context clock hreport _ _ _ context hgood

end Execution

namespace Engine

open Journal

variable {σ : Type} [Keeper σ] {recording : Keeper.Recording σ} {j : Journal σ} {last r : Release}
  {engine : Engine} {request : Request (Journal σ)}

/-! ## Ends -/

theorem finish_inOrder (h : UnderWay recording j last) {finished : Except LifecycleError Release}
    (hfinished : ∀ r, finished = .ok r → Follows last r) (deliver : Release → Delivery) :
    InOrder recording (finish finished deliver j).2 := by
  unfold finish
  cases finished with
  | error e => exact h.inOrder
  | ok r =>
    rcases save_cases h (hfinished r rfl) with ⟨e, j', hj', h'⟩ | ⟨j', hj', h'⟩
    · simp only [hj']
      exact h'.inOrder
    · simp only [hj']
      exact h'.inOrder

theorem giveUp_inOrder (h : UnderWay recording j last) (hr : Carries last r) (plan : Option Plan)
    (text : String) : InOrder recording (engine.giveUp r plan text j).2 :=
  finish_inOrder h (fun _ hfail => fail_follows hr hfail) _

theorem settle_inOrder (h : UnderWay recording j last) (hr : Carries last r) (plan : Plan)
    (result : ExecutionResult) : InOrder recording (engine.settle r plan result j).2 := by
  unfold settle
  simp only
  split
  · exact finish_inOrder h (fun _ hsucceed => succeed_follows (hr.actions _) hsucceed) _
  · exact finish_inOrder h (fun _ hfail => fail_follows (hr.actions _) hfail) _

theorem record_inOrder (h : UnderWay recording j last) (hr : Carries last r) (cause : Failure)
    (left : ExecutionResult) : InOrder recording (engine.record r cause left j).2 := by
  unfold record
  split
  · exact h.inOrder
  · simp only
    split
    · exact h.inOrder
    · rename_i r' hfail
      have hfollows : Follows last r' := fail_follows (hr.actions _) hfail
      rcases save_cases h hfollows with ⟨e, j', hj', h'⟩ | ⟨j', hj', h'⟩
      · rw [hj']
        cases e <;> exact h'.inOrder
      · rw [hj']
        exact h'.inOrder

theorem conclude_inOrder (h : UnderWay recording j last) (hr : Carries last r) (plan : Plan)
    (ending : Ending) : InOrder recording (engine.conclude r plan ending j).2 := by
  unfold conclude
  split
  · exact settle_inOrder h hr plan _
  · exact giveUp_inOrder h hr _ _
  · exact h.inOrder
  · exact record_inOrder h hr _ _

theorem concludePreview_inOrder (h : UnderWay recording j last) (hr : Carries last r) (plan : Plan)
    (drift : List DriftReport) : InOrder recording (engine.concludePreview r plan drift j).2 :=
  finish_inOrder h (fun _ hsucceed => succeed_follows hr hsucceed) _

theorem concludeRead_inOrder (h : UnderWay recording j last) (hr : Carries last r) (plan : Plan)
    (live : Except Failure (List (String × Option Resource))) :
    InOrder recording (engine.concludeRead r plan live j).2 := by
  unfold concludeRead
  split
  · exact concludePreview_inOrder h hr plan _
  · exact giveUp_inOrder h hr _ _
  · exact h.inOrder

/-! ## Preparation -/

/-- How far an operation has got, with what is written of it. -/
def Prepared.InOrder (recording : Keeper.Recording σ) : Prepared × Journal σ → Prop
  | (.ended _ _, j) => Journal.InOrder recording j
  | (.executing r _ _, j) | (.reading r _, j) => UnderWay recording j r

theorem saveStarted_cases (h : UnderWay recording j last) {started : Except LifecycleError Release}
    (hstarted : ∀ r, started = .ok r → Follows last r) :
    (∃ e j', saveStarted started j = (.error e, j') ∧ Journal.InOrder recording j') ∨
      ∃ r j', saveStarted started j = (.ok r, j') ∧ UnderWay recording j' r := by
  unfold saveStarted
  cases started with
  | error e => exact .inl ⟨_, j, rfl, h.inOrder⟩
  | ok r =>
    rcases save_cases h (hstarted r rfl) with ⟨e, j', hj', h'⟩ | ⟨j', hj', h'⟩
    · exact .inl ⟨e, j', by simp only [hj'], h'.inOrder⟩
    · exact .inr ⟨r, j', by simp only [hj'], h'⟩

theorem startWith_follows {r' : Release} {spec : List Resource} {operation : Operation}
    (hr : Carries last r) (hstart : engine.startWith spec operation r = .ok r') :
    Follows last r' := by
  unfold startWith at hstart
  split at hstart
  · cases hstart
  · rename_i specified hattach
    exact start_follows (hr.attachSpec hattach) hstart

theorem schedule_inOrder (h : UnderWay recording j r) (plan : Plan) (now : Instant) :
    Prepared.InOrder recording (engine.schedule request r plan now j) := by
  unfold schedule
  split
  · exact h.inOrder
  · split
    · exact giveUp_inOrder h (.refl r) _ _
    · exact h

theorem prepareSpec_inOrder {pipeline : Pipeline} {operation : Operation}
    {next : Release → Plan → Journal σ → Prepared × Journal σ} (h : Journal.InOrder recording j)
    (hnext : ∀ r plan j, UnderWay recording j r → Prepared.InOrder recording (next r plan j)) :
    Prepared.InOrder recording (engine.prepareSpec request pipeline operation next j) := by
  unfold prepareSpec
  rcases create_cases h engine.clock request.triple with ⟨e, j', hj', h'⟩ | ⟨r, j', hj', h'⟩
  · rw [hj']
    exact h'
  · rw [hj']
    simp only
    split
    · split
      · exact giveUp_inOrder h' (.refl r) _ _
      · exact h'.inOrder
    · rename_i spec plan _
      rcases saveStarted_cases h' fun _ => startWith_follows (.refl r) with
        ⟨e, j'', hj'', h''⟩ | ⟨r', j'', hj'', h''⟩
      · rw [hj'']
        exact h''
      · rw [hj'']
        exact hnext r' plan j'' h''

theorem prepareDestroy_inOrder (h : Journal.InOrder recording j) (now : Instant) :
    Prepared.InOrder recording (engine.prepareDestroy request now j) := by
  unfold prepareDestroy
  split
  · exact h
  · exact h
  · rcases create_cases h engine.clock request.triple with ⟨e, j', hj', h'⟩ | ⟨r, j', hj', h'⟩
    · rw [hj']
      exact h'
    · rw [hj']
      simp only
      split
      · exact h'.inOrder
      · rename_i plan _
        rcases saveStarted_cases h' fun _ => start_follows (.refl r) with
          ⟨e, j'', hj'', h''⟩ | ⟨r', j'', hj'', h''⟩
        · rw [hj'']
          exact h''
        · rw [hj'']
          exact schedule_inOrder h'' plan now

theorem prepare_inOrder (h : Journal.InOrder recording j) (now : Instant) :
    Prepared.InOrder recording (engine.prepare request now j) := by
  unfold prepare
  split
  · exact prepareSpec_inOrder h fun r plan j hj => schedule_inOrder hj plan now
  · exact prepareSpec_inOrder h fun r plan j hj => hj
  · exact prepareSpec_inOrder h fun r plan j hj => concludePreview_inOrder hj (.refl r) plan []
  · exact prepareDestroy_inOrder h now

/-! ## Whole operations -/

/-- What an execution has at hand. -/
def AtHand (recording : Keeper.Recording σ) (context : Release × Journal σ) : Prop :=
  ∃ last, UnderWay recording context.2 last ∧ Carries last context.1

theorem checkpoint_inOrder (result : ExecutionResult) (context : Release × Journal σ)
    (h : AtHand recording context) :
    AtHand recording (engine.checkpoint request result context).2 := by
  obtain ⟨r, j⟩ := context
  obtain ⟨last, hj, hr⟩ := h
  unfold checkpoint
  cases hcheckpoint : r.checkpoint engine.clock (some result.state) with
  | error e => exact ⟨last, hj, hr⟩
  | ok r' =>
    simp only
    have hfollows := checkpoint_follows hr hj.specified hcheckpoint result.records
    rcases save_cases hj hfollows with ⟨e, j', hj', h'⟩ | ⟨j', hj', h'⟩
    · rw [hj']
      exact ⟨last, h', (hr.checkpoint hcheckpoint).actions _⟩
    · rw [hj']
      exact ⟨_, h', .refl _⟩

theorem complete_inOrder {prepared : Prepared} (h : Prepared.InOrder recording (prepared, j))
    (sandbox : Sandbox) :
    Journal.InOrder recording (engine.complete request prepared sandbox j).2.2 := by
  cases prepared with
  | ended made verdict => exact h
  | reading r plan => exact concludeRead_inOrder h (.refl r) plan _
  | executing r plan execution =>
    have hstart : AtHand recording (r, j) := ⟨r, h, .refl r⟩
    have hend : AtHand recording
        (execution.complete engine.clock (engine.checkpoint request) sandbox (r, j)).2.2 :=
      Execution.complete_context engine.clock checkpoint_inOrder execution sandbox hstart
    obtain ⟨last, hlast, hcarries⟩ := hend
    exact conclude_inOrder hlast hcarries plan _

/-- **An operation** keeps the journal in order. -/
theorem perform_inOrder (h : Journal.InOrder recording j) (sandbox : Sandbox) :
    Journal.InOrder recording (engine.perform request sandbox j).2.2 := by
  unfold perform
  split
  · exact h
  · exact complete_inOrder (prepare_inOrder h ⟨0, 0⟩) sandbox

/-- **Whatever operations are carried out**, one after the other, on any stacks, the records that are
written tell lives as they should be. -/
theorem history_lives (recording : Keeper.Recording σ) {state : Sandbox × Journal σ}
    (hkeeps : recording.Keeps state.2.store state.2.writes) (hlives : Lives state.2.writes)
    (turns : List (Turn (Journal σ))) : Lives (history turns state).2.writes := by
  have hinOrder : ∀ (turns : List (Turn (Journal σ))) (state : Sandbox × Journal σ),
      Journal.InOrder recording state.2 → Journal.InOrder recording (history turns state).2 := by
    intro turns
    induction turns with
    | nil => exact fun state h => h
    | cons turn rest ih => exact fun state h => ih (turn.take state) (perform_inOrder h _)
  exact (hinOrder turns state ⟨hkeeps, hlives⟩).lives

namespace Swap

/-- The resources are created, and what is written is kept in a journal. -/
def createJournaled : Turn (Journal MemoryStore) :=
  { engine := ⟨⟨.whole 300, 4⟩, default⟩,
    request := { triple, task := .apply (generating Run.Swap.recorded) } }

theorem take_createJournaled :
    (createJournaled.take ({}, ⟨{}, []⟩)).2.writes.map (fun r => (r.revision, r.phase)) =
      [(1, .generating), (1, .applying), (1, .applying), (1, .applying), (1, .succeeded)] := by
  have hcreate : Keeper.create default triple (⟨{}, []⟩ : Journal MemoryStore) =
      (.ok (Release.new default triple 1 []),
        ⟨store [Release.new default triple 1 []], [Release.new default triple 1 []]⟩) := by cbv
  simp only [Turn.take, createJournaled, perform, checkConfig, prepare, prepareSpec, hcreate]
  rfl

end Swap

/-- The records of an operation that succeeds. -/
theorem history_lives_create :
    MemoryStore.recording.Keeps ({} : MemoryStore) [] ∧ Lives [] ∧
      Lives (history [Swap.createJournaled] ({}, ⟨{}, []⟩)).2.writes ∧
      (history [Swap.createJournaled] ({}, ⟨{}, []⟩)).2.writes.map (fun r => (r.revision, r.phase)) =
        [(1, .generating), (1, .applying), (1, .applying), (1, .applying), (1, .succeeded)] := by
  have hkeeps : MemoryStore.recording.Keeps ({} : MemoryStore) [] := MemoryStore.keeps_empty
  refine ⟨hkeeps, lives_nil, ?_, Swap.take_createJournaled⟩
  exact history_lives MemoryStore.recording hkeeps lives_nil [Swap.createJournaled]

end Engine

end Rollout
