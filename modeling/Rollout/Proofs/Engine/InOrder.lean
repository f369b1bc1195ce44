import Rollout.Proofs.Engine.Succeeded
import Rollout.Proofs.Execution.InOrder

/-!
# The order of what is recorded

Every record that an operation writes came of the state of an earlier one, or of nothing.  So what is
recorded is in apply order as long as no operation leaves a resource stranded.

* `Release.Descends` : every record came of an earlier one, and keeps its order unless a resource is
  stranded;
* `Engine.perform_descends` : an operation, however it ends;
* `Engine.history_keeps_order` : any operations, one after the other;
* `Engine.history_strands` : there are operations that leave a resource stranded.
-/

set_option autoImplicit false

namespace Rollout

open Resource

theorem Store.createAt_new {σ : Type} [Backing σ] {now : DateTime} {t : Triple} {k : Int} {s : σ}
    {r : Release} (h : (Store.createAt now t k s).1 = .ok r) :
    ∃ base, r = Release.new now t k base := by
  unfold Store.createAt at h
  split at h
  · cases h
  · simp only at h
    split at h
    · cases h
    · cases h
      exact ⟨_, rfl⟩

/-- What is created is a new release. -/
theorem Store.create_new {σ : Type} [Backing σ] {now : DateTime} {t : Triple} {s : σ} {r : Release}
    (h : (Store.create now t s).1 = .ok r) : ∃ k base, r = Release.new now t k base := by
  unfold Store.create at h
  split at h
  · cases h
  · exact ⟨_, Store.createAt_new h⟩

namespace Release

variable {now : DateTime} {t : Triple} {r r' p : Release} {base : List Resource} {writes : List Release}

/-! ## Records -/

/-- The recorded resources are in apply order. -/
def InApplyOrder (r : Release) : Prop := Resource.InApplyOrder r.resources

/-- A release leaves a resource stranded. -/
def Strands (r : Release) : Prop := StrandedFor (r.spec.getD []) r.actions r.resources

/-- A release of a triple that came of a state is in apply order exactly unless it leaves a resource
stranded. -/
structure CameOf (t : Triple) (base : List Resource) (r : Release) : Prop where
  triple : r.triple = t
  keeps : KeepsOrder (r.spec.getD []) base r.actions r.resources

/-- The record of a release came of what the release came of. -/
theorem CameOf.dumped (h : r.CameOf t base) : r.dumped.CameOf t base := by
  refine ⟨h.triple, ?_⟩
  have hspec : r.dumped.spec.getD [] = (r.spec.getD []).map Resource.dumped := by
    unfold Release.dumped
    cases r.spec <;> rfl
  rw [hspec, dumped_resources]
  exact h.keeps.record

/-- A release of a triple whose state is as it was, before anything was done for it. -/
structure Unbegun (t : Triple) (base : List Resource) (r : Release) : Prop where
  triple : r.triple = t
  resources : r.resources = base
  actions : r.actions = []

theorem Unbegun.cameOf (h : r.Unbegun t base) : r.CameOf t base := by
  refine ⟨h.triple, ?_⟩
  rw [h.resources, h.actions]
  exact .refl _ _

/-- A state that was written for a triple, or the one before anything was. -/
def Known (t : Triple) (writes : List Release) (base : List Resource) : Prop :=
  base = [] ∨ ∃ p ∈ writes, p.triple = t ∧ p.resources = base

theorem Known.concat (h : Known t writes base) (r : Release) : Known t (writes ++ [r]) base :=
  h.imp_right fun ⟨p, hp, hbase⟩ => ⟨p, List.mem_append_left _ hp, hbase⟩

/-- A release starts from a state that was written for its triple. -/
theorem StartsFrom.known (h : StartsFrom writes r) : Known r.triple writes r.resources := by
  by_cases hfirst : r.revision = 1
  · left
    rw [resources, h.empty hfirst]
    rfl
  · obtain ⟨p, hp, hstate⟩ := h.previous hfirst
    obtain ⟨hp, htriple, _⟩ := mem_versions.mp (List.mem_of_getLast? hp)
    right
    refine ⟨p, hp, htriple, ?_⟩
    rw [resources, resources, hstate]

/-- **Records each of which came of a state that was written before**, for the same triple. -/
inductive Descends : List Release → Prop
  | nil : Descends []
  | concat {writes : List Release} {t : Triple} {r : Release} {base : List Resource}
      (before : Descends writes) (known : Known t writes base) (came : r.CameOf t base) :
      Descends (writes ++ [r])

/-- **The records of a triple are in apply order exactly unless one of them leaves a resource
stranded.** -/
theorem Descends.inApplyOrder_iff (h : Descends writes) (t : Triple) :
    (∀ r ∈ writes, r.triple = t → r.InApplyOrder) ↔
      ∀ r ∈ writes, r.triple = t → ¬ r.Strands := by
  induction h with
  | nil => simp
  | @concat writes t' r base before known came ih =>
    simp only [List.forall_mem_append, List.forall_mem_singleton]
    constructor
    · rintro ⟨hwrites, hr⟩
      exact ⟨ih.mp hwrites, fun ht => came.keeps.free (hr ht)⟩
    · rintro ⟨hwrites, hr⟩
      have hordered := ih.mpr hwrites
      refine ⟨hordered, fun ht => came.keeps.inOrder ?_ (hr ht)⟩
      rcases known with rfl | ⟨p, hp, htriple, rfl⟩
      · exact inApplyOrder_nil
      · exact hordered p hp (htriple.trans (came.triple.symm.trans ht))

/-! ## Steps of a release -/

/-- A release that has moved on, with the state that was given, or else the one it had. -/
structure Settled (state : Option (List Resource)) (r r' : Release) : Prop where
  triple : r'.triple = r.triple
  spec : r'.spec = r.spec
  actions : r'.actions = r.actions
  resources : r'.resources = state.getD r.resources

theorem move_settled {state : Option (List Resource)} {target : Phase}
    (hr : r.Settled state p) (h : p.move now target = .ok r') : r.Settled state r' := by
  rw [(move_inv h).1]
  exact ⟨hr.triple, hr.spec, hr.actions, hr.resources⟩

theorem settle_settled {state : Option (List Resource)} {required : Bool}
    (h : r.settle state required = .ok r') : r.Settled state r' := by
  unfold settle at h
  split at h
  · split at h
    · cases h
    · cases h
      exact ⟨rfl, rfl, rfl, rfl⟩
  · split at h
    · cases h
      exact ⟨rfl, rfl, rfl, rfl⟩
    · cases h

theorem succeed_settled {state : Option (List Resource)} (h : r.succeed now state = .ok r') :
    r.Settled state r' := by
  unfold succeed at h
  split at h
  · rename_i settled hsettled
    exact move_settled (settle_settled hsettled) h
  · cases h

theorem fail_settled {reason : String} {state : Option (List Resource)}
    (h : r.fail now reason state = .ok r') : r.Settled state r' := by
  unfold fail at h
  split at h
  · cases h
  · split at h
    · rename_i settled hsettled
      have hr := settle_settled hsettled
      exact move_settled (p := { settled with error := some reason })
        ⟨hr.triple, hr.spec, hr.actions, hr.resources⟩ h
    · cases h

/-- A release that keeps its state came of what it came of before. -/
theorem CameOf.unchanged (h : r.CameOf t base) (hr : r.Settled none r') : r'.CameOf t base := by
  refine ⟨hr.triple.trans h.triple, ?_⟩
  rw [hr.spec, hr.actions, hr.resources]
  exact h.keeps

/-- A release with the records and the state of an execution came of what the execution started from. -/
theorem CameOf.executed (h : r.CameOf t base) {result : ExecutionResult}
    (hresult : KeepsOrder (r.spec.getD []) base result.records result.state)
    (hr : ({ r with actions := result.records } : Release).Settled (some result.state) r') :
    r'.CameOf t base := by
  refine ⟨hr.triple.trans h.triple, ?_⟩
  rw [hr.spec, hr.actions, hr.resources]
  exact hresult

end Release

open Release

/-! ## Journals -/

namespace Journal

variable {σ : Type} [Keeper σ] {j : Journal σ} {t : Triple} {r : Release} {base : List Resource}

/-- What is written came of written states, and so will what came of `base`. -/
structure Rests (t : Triple) (base : List Resource) (j : Journal σ) : Prop where
  descends : Descends j.writes
  known : Known t j.writes base

/-- A release that came of the state at hand may be saved. -/
theorem Rests.save (h : Rests t base j) (hr : r.CameOf t base) : Rests t base (Keeper.save r j).2 := by
  simp only [Keeper.save]
  split
  · exact ⟨h.descends.concat h.known hr.dumped, h.known.concat r.dumped⟩
  · exact ⟨h.descends, h.known⟩

theorem create_eq {now : DateTime} {s : σ} (h : Keeper.create now t j.store = (.ok r, s)) :
    Keeper.create now t j = (.ok r, ⟨s, j.writes ++ [r]⟩) := by
  simp only [Keeper.create, h]

theorem writes_of_create {now : DateTime} {j' : Journal σ}
    (h : Keeper.create now t j = (.ok r, j')) :
    (Keeper.create now t j.store).1 = .ok r ∧ j'.writes = j.writes ++ [r] := by
  simp only [Keeper.create] at h
  split at h
  · rename_i created s hcreate
    cases h
    exact ⟨by rw [hcreate], rfl⟩
  · cases h

theorem writes_of_refusal {now : DateTime} {e : Failure} {j' : Journal σ}
    (h : Keeper.create now t j = (.error e, j')) : j'.writes = j.writes := by
  simp only [Keeper.create] at h
  split at h
  · cases h
  · cases h
    rfl

end Journal

namespace Engine

open Journal

/-! ## Ends -/

section

variable {σ : Type} [Keeper σ] {j : Journal σ} {t : Triple} {r : Release} {base : List Resource}
  {engine : Engine} {request : Request (Journal σ)} {plan : Plan}

theorem finish_rests (h : Rests t base j) {finished : Except LifecycleError Release}
    (hfinished : ∀ r, finished = .ok r → r.CameOf t base) (deliver : Release → Delivery) :
    Rests t base (finish finished deliver j).2 := by
  unfold finish
  cases finished with
  | error e => exact h
  | ok r =>
    have hsave := h.save (hfinished r rfl)
    dsimp only
    split <;> rename_i hsaved <;> rwa [hsaved] at hsave

theorem giveUp_rests (h : Rests t base j) (hr : r.CameOf t base) (found : Option Plan)
    (text : String) : Rests t base (engine.giveUp r found text j).2 :=
  finish_rests h (fun _ hfail => hr.unchanged (fail_settled hfail)) _

theorem settle_rests (h : Rests t base j) (hr : r.CameOf t base) {result : ExecutionResult}
    (hresult : KeepsOrder (r.spec.getD []) base result.records result.state) :
    Rests t base (engine.settle r plan result j).2 := by
  unfold settle
  simp only
  split
  · exact finish_rests h (fun _ hsucceed => hr.executed hresult (succeed_settled hsucceed)) _
  · exact finish_rests h (fun _ hfail => hr.executed hresult (fail_settled hfail)) _

theorem record_rests (h : Rests t base j) (hr : r.CameOf t base) {cause : Failure}
    {left : ExecutionResult} (hleft : KeepsOrder (r.spec.getD []) base left.records left.state) :
    Rests t base (engine.record r cause left j).2 := by
  unfold record
  split
  · exact h
  · simp only
    split
    · exact h
    · rename_i r' hfail
      have hsave := h.save (hr.executed hleft (fail_settled hfail))
      split <;> rename_i hsaved <;> rwa [hsaved] at hsave

/-- However an execution ends, what is written of it came of what it started from. -/
theorem conclude_rests (h : Rests t base j) (hr : r.CameOf t base) {ending : Ending}
    (hfinished : ∀ result, ending = .finished result →
      KeepsOrder (r.spec.getD []) base result.records result.state)
    (hleft : ∀ cause left adrift, ending = .interrupted cause (some left) adrift →
      KeepsOrder (r.spec.getD []) base left.records left.state) :
    Rests t base (engine.conclude r plan ending j).2 := by
  unfold conclude
  split
  · exact settle_rests h hr (hfinished _ rfl)
  · exact giveUp_rests h hr _ _
  · exact h
  · exact record_rests h hr (hleft _ _ _ rfl)

theorem concludePreview_rests (h : Rests t base j) (hr : r.CameOf t base) (drift : List DriftReport) :
    Rests t base (engine.concludePreview r plan drift j).2 :=
  finish_rests h (fun _ hsucceed => hr.unchanged (succeed_settled hsucceed)) _

theorem concludeRead_rests (h : Rests t base j) (hr : r.CameOf t base)
    (live : Except Failure (List (String × Option Resource))) :
    Rests t base (engine.concludeRead r plan live j).2 := by
  unfold concludeRead
  split
  · exact concludePreview_rests h hr _
  · exact giveUp_rests h hr _ _
  · exact h

/-! ## Executions -/

/-- What an execution has at hand. -/
structure AtWork (t : Triple) (base : List Resource) (spec : Option (List Resource))
    (context : Release × Journal σ) : Prop where
  spec : context.1.spec = spec
  came : context.1.CameOf t base
  rests : Rests t base context.2

/-- A report of progress keeps it, where the execution keeps the order. -/
theorem checkpoint_atWork {spec : Option (List Resource)} {result : ExecutionResult}
    (hresult : KeepsOrder (spec.getD []) base result.records result.state)
    {context : Release × Journal σ} (h : AtWork t base spec context) :
    AtWork t base spec (engine.checkpoint request result context).2 := by
  obtain ⟨r, j⟩ := context
  obtain ⟨rfl, hr, hj⟩ := h
  unfold checkpoint
  cases hcheckpoint : r.checkpoint engine.clock (some result.state) with
  | error e => exact ⟨rfl, hr, hj⟩
  | ok r' =>
    have hr' : r' = { r with state := some result.state, modifiedTime := engine.clock } := by
      unfold Release.checkpoint at hcheckpoint
      split at hcheckpoint
      · exact (Except.ok.inj hcheckpoint).symm
      · cases hcheckpoint
    subst hr'
    have hreported : ({ r with
        state := some result.state, modifiedTime := engine.clock, actions := result.records } :
          Release).CameOf t base := hr.executed hresult ⟨rfl, rfl, rfl, rfl⟩
    have hsave := hj.save hreported
    dsimp only
    split <;> rename_i hsaved <;> rw [hsaved] at hsave <;> exact ⟨rfl, hreported, hsave⟩

/-- An operation whose plan is to be executed, on backends that answer what they are given. -/
structure Ready (sandbox : Sandbox) (t : Triple) (base : List Resource) (r : Release) (plan : Plan)
    (s : Schedule) : Prop where
  unbegun : r.Unbegun t base
  computed : Plan.compute (r.spec.getD []) base = .ok plan
  scheduled : Schedule.of? plan base = .ok s
  echoes : sandbox.Echoes (r.spec.getD [])

/-- **An execution**, whatever is written of it and however it ends. -/
theorem complete_rests {s : Schedule} {sandbox : Sandbox} (hready : Ready sandbox t base r plan s)
    (h : Rests t base j) (stopped : Bool) (now : Instant) :
    Rests t base (engine.complete request (.executing r plan
      (.init plan base s engine.limits request.interrupts stopped now)) sandbox j).2.2 := by
  have hs := Schedule.lawful_of hready.scheduled
  have hfaith := Schedule.faithful_of_echoes (Plan.compares_of hready.computed)
    (Schedule.of?_inv hready.scheduled).1 hready.echoes engine.limits
  have hkeeps : ∀ {run final : Run} {sandbox' : Sandbox} (cancelled : Bool),
      Execution.Reached s engine.limits sandbox (run, sandbox') →
      final = run ∨ final = run.cancelPending →
      KeepsOrder (r.spec.getD []) base (final.result plan base cancelled).records
        (final.result plan base cancelled).state :=
    fun cancelled hreached hfinal => (Execution.Reached.run hreached).keepsOrder hready.computed
      hready.scheduled hfaith hfinal
  have hstart : AtWork t base r.spec (r, j) := ⟨rfl, hready.unbegun.cameOf, h⟩
  have hcontext := Execution.complete_keeps hs plan base sandbox now engine.clock request.interrupts
    stopped (engine.checkpoint request) (AtWork t base r.spec)
    (fun _ _ _ hreached => checkpoint_atWork (hkeeps false hreached (.inl rfl))) hstart
  have hends : Execution.Ends (.init plan base s engine.limits request.interrupts stopped now)
      sandbox _ _ := Execution.complete_ends hs plan base sandbox now engine.clock
    request.interrupts stopped (engine.checkpoint request) (r, j)
  simp only [complete]
  generalize Execution.complete _ _ _ _ _ = answer at hcontext hends
  obtain ⟨ending, sandbox', r', j'⟩ := answer
  obtain ⟨hspec, hr', hj'⟩ := hcontext
  simp only at hspec hr' hj' hends ⊢
  refine conclude_rests hj' hr' (fun result hresult => ?_) (fun cause left adrift hleft => ?_)
  · subst hresult
    rw [hspec]
    cases hends with
    | finished reached _ => exact hkeeps _ reached (.inr rfl)
  · subst hleft
    rw [hspec]
    cases hends with
    | interrupted _ reached _ => exact hkeeps _ reached (.inr rfl)

/-! ## Preparation -/

/-- How far an operation has got, with what is written of it. -/
def Prepared.Rests (engine : Engine) (request : Request (Journal σ)) (sandbox : Sandbox) :
    Prepared × Journal σ → Prop
  | (.ended _ _, j) => Descends j.writes
  | (.reading r _, j) => ∃ t base, Journal.Rests t base j ∧ r.Unbegun t base
  | (.executing r plan execution, j) => ∃ t base s stopped now,
      Journal.Rests t base j ∧ Ready sandbox t base r plan s ∧
      execution = .init plan base s engine.limits request.interrupts stopped now

theorem schedule_rests {sandbox : Sandbox} (h : Rests t base j) (hr : r.Unbegun t base)
    (hcompute : Plan.compute (r.spec.getD []) base = .ok plan)
    (hechoes : sandbox.Echoes (r.spec.getD [])) (now : Instant) :
    Prepared.Rests engine request sandbox (engine.schedule request r plan now j) := by
  obtain rfl := hr.resources
  unfold schedule
  split
  · exact h.descends
  · split
    · exact (giveUp_rests h hr.cameOf _ _).descends
    · rename_i s hschedule
      exact ⟨t, _, s, _, now, h, ⟨hr, hcompute, hschedule, hechoes⟩, rfl⟩

/-- What was started is saved, or the operation ends. -/
theorem saveStarted_rests (h : Rests t base j) {started : Except LifecycleError Release}
    (hstarted : ∀ r, started = .ok r → r.Unbegun t base) :
    (∃ e j', saveStarted started j = (.error e, j') ∧ Descends j'.writes) ∨
      ∃ r j', saveStarted started j = (.ok r, j') ∧ started = .ok r ∧ Rests t base j' := by
  unfold saveStarted
  cases started with
  | error e => exact .inl ⟨_, j, rfl, h.descends⟩
  | ok r =>
    have hsave := h.save (hstarted r rfl).cameOf
    dsimp only
    split <;> rename_i j' hsaved <;> rw [hsaved] at hsave
    · exact .inl ⟨_, j', rfl, hsave.descends⟩
    · exact .inr ⟨r, j', rfl, rfl, hsave⟩

/-- Nothing is done for a release that is only started. -/
theorem startWith_unbegun (hr : r.Unbegun t base) {spec : List Resource} {operation : Operation}
    {r' : Release} (h : engine.startWith spec operation r = .ok r') :
    r'.spec = some spec ∧ r'.Unbegun t base := by
  unfold startWith Release.attachSpec at h
  split at h
  · cases h
  · rename_i hattach
    split at hattach
    · cases hattach
      rw [Release.start_inv h]
      exact ⟨rfl, hr.triple, hr.resources, hr.actions⟩
    · cases hattach

end

section

variable {σ : Type} [Backing σ] {recording : Keeper.Recording σ} {j : Journal σ} {engine : Engine}
  {request : Request (Journal σ)} {sandbox : Sandbox}

/-- A release that is created starts from a written state, with no spec and nothing done for it. -/
theorem create_rests (hj : Journal.InOrder recording j) (h : Descends j.writes) (now : DateTime)
    (t : Triple) :
    (∃ e j', Keeper.create now t j = (.error e, j') ∧ Descends j'.writes) ∨
      ∃ base r j', Keeper.create now t j = (.ok r, j') ∧ Rests t base j' ∧ r.Unbegun t base ∧
        r.spec = none := by
  cases hcreate : Keeper.create now t j with
  | mk answer j' =>
    cases answer with
    | error e => exact .inl ⟨e, j', rfl, writes_of_refusal hcreate ▸ h⟩
    | ok r =>
      have hknown := (Journal.begins_of_create hj hcreate).starts.known
      obtain ⟨hstore, hwrites⟩ := writes_of_create hcreate
      obtain ⟨k, base, rfl⟩ := Store.create_new hstore
      have hr : (Release.new now t k base).Unbegun t base := ⟨rfl, rfl, rfl⟩
      refine .inr ⟨base, _, j', rfl, ⟨?_, ?_⟩, hr, rfl⟩
      · rw [hwrites]
        exact h.concat hknown hr.cameOf
      · rw [hwrites]
        exact Known.concat hknown _

theorem prepareSpec_rests (hj : Journal.InOrder recording j) (h : Descends j.writes)
    {pipeline : Pipeline} {operation : Operation}
    {next : Release → Plan → Journal σ → Prepared × Journal σ}
    (hnext : ∀ t base r plan j, Rests t base j → r.Unbegun t base →
      pipeline.run = .ok (r.spec.getD []) → Plan.compute (r.spec.getD []) base = .ok plan →
      Prepared.Rests engine request sandbox (next r plan j)) :
    Prepared.Rests engine request sandbox (engine.prepareSpec request pipeline operation next j) := by
  unfold prepareSpec
  rcases create_rests hj h engine.clock request.triple with
    ⟨e, j', hcreate, hj'⟩ | ⟨base, created, j', hcreate, hj', hcreated, -⟩
  · rw [hcreate]
    exact hj'
  · rw [hcreate]
    simp only
    split
    · split
      · exact (giveUp_rests hj' hcreated.cameOf _ _).descends
      · exact hj'.descends
    · rename_i spec plan hgenerate
      rw [hcreated.resources] at hgenerate
      obtain ⟨hrun, hcompute⟩ := generate_inv hgenerate
      rcases saveStarted_rests hj' fun r hr => (startWith_unbegun hcreated hr).2 with
        ⟨e, j'', hsave, hj''⟩ | ⟨r, j'', hsave, hstart, hj''⟩
      · rw [hsave]
        exact hj''
      · rw [hsave]
        obtain ⟨hspec, hr⟩ := startWith_unbegun hcreated hstart
        have hspec : r.spec.getD [] = spec := by rw [hspec, Option.getD_some]
        exact hnext _ base r plan j'' hj'' hr (hspec ▸ hrun) (hspec ▸ hcompute)

theorem prepareDestroy_rests (hj : Journal.InOrder recording j) (h : Descends j.writes)
    (now : Instant) :
    Prepared.Rests engine request sandbox (engine.prepareDestroy request now j) := by
  unfold prepareDestroy
  split
  · exact h
  · exact h
  · rcases create_rests hj h engine.clock request.triple with
      ⟨e, j', hcreate, hj'⟩ | ⟨base, created, j', hcreate, hj', hcreated, hspec⟩
    · rw [hcreate]
      exact hj'
    · rw [hcreate]
      simp only
      split
      · exact hj'.descends
      · rename_i plan hcompute
        rw [hcreated.resources] at hcompute
        have hstarted : ∀ r, created.start engine.clock .destroy = .ok r →
            r.Unbegun request.triple base ∧ r.spec = none := by
          intro r hr
          rw [Release.start_inv hr]
          exact ⟨⟨hcreated.triple, hcreated.resources, hcreated.actions⟩, hspec⟩
        rcases saveStarted_rests hj' fun r hr => (hstarted r hr).1 with
          ⟨e, j'', hsave, hj''⟩ | ⟨r, j'', hsave, hstart, hj''⟩
        · rw [hsave]
          exact hj''
        · rw [hsave]
          obtain ⟨hr, hnone⟩ := hstarted r hstart
          refine schedule_rests hj'' hr ?_ ?_ now
          · rw [hnone]
            exact hcompute
          · rw [hnone]
            intro x hx
            cases hx

theorem prepare_rests (hj : Journal.InOrder recording j) (h : Descends j.writes)
    (hechoes : ∀ spec, request.task.desired = .ok spec → sandbox.Echoes spec) (now : Instant) :
    Prepared.Rests engine request sandbox (engine.prepare request now j) := by
  unfold prepare
  cases htask : request.task with
  | destroy => exact prepareDestroy_rests hj h now
  | apply pipeline =>
    refine prepareSpec_rests hj h fun t base r plan j hrests hr hrun hcompute => ?_
    exact schedule_rests hrests hr hcompute (hechoes _ (by rw [htask]; exact hrun)) now
  | preview pipeline live =>
    cases live with
    | true => exact prepareSpec_rests hj h fun t base r plan j hrests hr _ _ => ⟨t, base, hrests, hr⟩
    | false =>
      refine prepareSpec_rests hj h fun t base r plan j hrests hr _ _ => ?_
      exact (concludePreview_rests hrests hr.cameOf []).descends

/-! ## Whole operations -/

/-- **An operation** writes nothing but what came of written states. -/
theorem perform_descends (hj : Journal.InOrder recording j) (h : Descends j.writes)
    (hechoes : ∀ spec, request.task.desired = .ok spec → sandbox.Echoes spec) :
    Descends (engine.perform request sandbox j).2.2.writes := by
  unfold perform
  split
  · exact h
  · have hprepared : Prepared.Rests engine request sandbox (engine.prepare request ⟨0, 0⟩ j) :=
      prepare_rests hj h hechoes ⟨0, 0⟩
    cases hprepare : engine.prepare request ⟨0, 0⟩ j with
    | mk prepared j' =>
      rw [hprepare] at hprepared
      cases prepared with
      | ended made verdict => exact hprepared
      | reading r plan =>
        obtain ⟨t, base, hrests, hr⟩ := hprepared
        exact (concludeRead_rests hrests hr.cameOf _).descends
      | executing r plan execution =>
        obtain ⟨t, base, s, stopped, now, hrests, hready, rfl⟩ := hprepared
        exact (complete_rests hready hrests stopped now).descends

/-- During an operation backends answer nothing, or the resource that they are given. -/
def Turn.Echoes {σ : Type} (turn : Turn σ) : Prop :=
  ∀ spec, turn.request.task.desired = .ok spec → Sandbox.Echoes spec { answer? := turn.answer? }

theorem history_descends : ∀ (turns : List (Turn (Journal σ))) (state : Sandbox × Journal σ),
    (∀ turn ∈ turns, turn.Echoes) → Journal.InOrder recording state.2 → Descends state.2.writes →
    Descends (history turns state).2.writes
  | [], _, _, _, h => h
  | turn :: rest, state, hturns, hj, h =>
    history_descends rest (turn.take state)
      (fun later hlater => hturns later (List.mem_cons_of_mem _ hlater)) (perform_inOrder hj _)
      (perform_descends hj h (hturns turn List.mem_cons_self))

/-- **Whatever operations are carried out**, one after the other, and whatever fails, is skipped or
cancelled on the way, the records of a triple are in apply order exactly unless one of them leaves a
resource stranded: one whose action did not succeed, and whose recorded version depends on another one
that the desired order does not put before it. -/
theorem history_keeps_order (recording : Keeper.Recording σ) {s : σ} (hkeeps : recording.Keeps s [])
    {turns : List (Turn (Journal σ))} (hturns : ∀ turn ∈ turns, turn.Echoes) (sandbox : Sandbox)
    (t : Triple) :
    let writes := (history turns (sandbox, ⟨s, []⟩)).2.writes
    (∀ r ∈ writes, r.triple = t → r.InApplyOrder) ↔ ∀ r ∈ writes, r.triple = t → ¬ r.Strands := by
  intro writes
  have hinOrder : Journal.InOrder recording (⟨s, []⟩ : Journal σ) := ⟨hkeeps, lives_nil⟩
  have hdescends : Descends writes :=
    history_descends turns _ hturns hinOrder .nil
  exact hdescends.inApplyOrder_iff t

end

/-! ## A dependency that is given up

The resource `w` is to need `v` no longer, and is listed in front of it; but its update fails. -/

namespace Swap

/-- The resources without their dependency. -/
def free : List Resource :=
  [{ id := "w", backend := .kubernetes, attributes := [("x", .int 2)] },
   { id := "v", backend := .kubernetes }]

/-- The dependency is given up, and the update fails. -/
def loosen : Turn (Journal MemoryStore) :=
  { engine := ⟨⟨.whole 300, 4⟩, default⟩,
    request := { triple, task := .apply (generating free) },
    failure? := fun _ id => if id = "w" then some (.general "boom") else none }

/-- The release that is left of it. -/
def loosened : Release where
  triple := triple
  revision := 2
  spec := some free
  state := some Run.Swap.recorded.reverse
  phase := .failed
  createTime := default
  modifiedTime := default
  actions :=
    [⟨"w", .update, .failed, some "update w failed: boom", some default, some default⟩]
  error := some "update w failed: boom"

theorem take_createJournaled_eq : ∃ writes,
    createJournaled.take ({}, ⟨{}, []⟩) = (backends, ⟨store [created], writes⟩) := by
  have hcreate : Keeper.create default triple (⟨{}, []⟩ : Journal MemoryStore) =
      (.ok (Release.new default triple 1 []),
        ⟨store [Release.new default triple 1 []], [Release.new default triple 1 []]⟩) := by cbv
  simp only [Turn.take, createJournaled, perform, checkConfig, prepare, prepareSpec, hcreate]
  exact ⟨_, rfl⟩

theorem take_loosen (writes : List Release) : ∃ sandbox writes',
    loosen.take (backends, ⟨store [created], writes⟩) = (sandbox, ⟨store [created, loosened], writes'⟩) ∧
      writes'.getLast? = some loosened := by
  have hstore : Keeper.create default triple (store [created]) =
      (.ok (Release.new default triple 2 Run.Swap.recorded),
        store [created, Release.new default triple 2 Run.Swap.recorded]) := by cbv
  have hcreate : Keeper.create default triple (⟨store [created], writes⟩ : Journal MemoryStore) =
      (.ok (Release.new default triple 2 Run.Swap.recorded),
        ⟨store [created, Release.new default triple 2 Run.Swap.recorded],
          writes ++ [Release.new default triple 2 Run.Swap.recorded]⟩) := create_eq hstore
  simp only [Turn.take, loosen, perform, checkConfig, prepare, prepareSpec, hcreate]
  exact ⟨_, _, rfl, List.getLast?_concat⟩

/-- What is left of the two operations. -/
theorem history_loosen : ∃ sandbox writes,
    history [createJournaled, loosen] ({}, ⟨{}, []⟩)
        = (sandbox, (⟨store [created, loosened], writes⟩ : Journal MemoryStore)) ∧
      loosened ∈ writes := by
  obtain ⟨writes, hcreate⟩ := take_createJournaled_eq
  obtain ⟨sandbox, writes', hloosen, hlast⟩ := take_loosen writes
  refine ⟨sandbox, writes', ?_, List.mem_of_getLast? hlast⟩
  rw [history, List.foldl_cons, List.foldl_cons, List.foldl_nil, hcreate, hloosen]

theorem echoes_loosen : ∀ turn ∈ [createJournaled, loosen], turn.Echoes := by
  simp only [List.mem_cons, List.not_mem_nil, or_false, forall_eq_or_imp, forall_eq]
  exact ⟨by rintro spec _ x _ r ⟨⟩, by rintro spec _ x _ r ⟨⟩⟩

theorem not_inApplyOrder_loosened : ¬ loosened.InApplyOrder := by
  intro horder
  exact horder [] _ _ rfl { id := "v", backend := .kubernetes } (by simp) (by simp)

end Swap

/-- **There are operations that leave a resource stranded**: the newest release records `w` in front of
`v`, which it depends on, though the two have an apply order. -/
theorem history_strands :
    (∀ turn ∈ [Swap.createJournaled, Swap.loosen], turn.Echoes) ∧ ∃ r g,
      Keeper.latest Swap.triple (history [Swap.createJournaled, Swap.loosen] ({}, ⟨{}, []⟩)).2
          = .ok (some r) ∧
      ¬ r.InApplyOrder ∧ Resource.ids r.resources = ["w", "v"] ∧
      Graph.build true r.resources = .ok g ∧ g.order = ["v", "w"] := by
  refine ⟨Swap.echoes_loosen, Swap.loosened, ?_⟩
  obtain ⟨sandbox, writes, hhistory, -⟩ := Swap.history_loosen
  have hlatest : Keeper.latest Swap.triple (Swap.store [Swap.created, Swap.loosened])
      = .ok (some Swap.loosened) := by cbv
  rw [hhistory]
  exact ⟨_, hlatest, Swap.not_inApplyOrder_loosened, rfl, rfl, by decide⟩

/-- A record of the two operations leaves a resource stranded. -/
theorem history_keeps_order_loosen :
    MemoryStore.recording.Keeps ({} : MemoryStore) [] ∧
    (∀ turn ∈ [Swap.createJournaled, Swap.loosen], turn.Echoes) ∧
    ∃ r ∈ (history [Swap.createJournaled, Swap.loosen] ({}, ⟨{}, []⟩)).2.writes,
      r.triple = Swap.triple ∧ r.Strands := by
  refine ⟨MemoryStore.keeps_empty, Swap.echoes_loosen, ?_⟩
  obtain ⟨sandbox, writes, hhistory, hmem⟩ := Swap.history_loosen
  have hiff := history_keeps_order MemoryStore.recording MemoryStore.keeps_empty Swap.echoes_loosen {}
    Swap.triple
  rw [hhistory] at hiff ⊢
  by_contra hno
  exact Swap.not_inApplyOrder_loosened
    (hiff.mpr (fun r hr ht hstrands => hno ⟨r, hr, ht, hstrands⟩) Swap.loosened hmem rfl)

end Engine

end Rollout
