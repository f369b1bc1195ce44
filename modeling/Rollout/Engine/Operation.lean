import Rollout.Engine.Basic
import Rollout.Engine.Live

/-!
# Carrying out operations

Up to the point where it has to wait for backends, an operation is prepared: a release is created,
the spec generated and planned against the recorded state, and the release saved in the phase of the
operation.  Then the plan is executed, with the state reached so far saved after every wait, and the
release is saved in its last phase.

A failure to generate or to plan, and the failed read of a preview, end in a failed release.  An
execution that is cut short leaves a failed release with the state it reached, and its cause is the
answer.

* `Engine.prepare`, `Engine.conclude` : the parts before and after an execution;
* `Engine.perform` : a whole operation.
-/

set_option autoImplicit false

namespace Rollout.Engine

variable {σ : Type} [Keeper σ]

/-! ## Ends -/

/-- Saves a release in its last phase. -/
def finish (finished : Except LifecycleError Release) (deliver : Release → Delivery) (s : σ) :
    Verdict × σ :=
  match finished with
  | .error e => (.error (.lifecycle e), s)
  | .ok r =>
    match Keeper.save r s with
    | (.error e, s) => (.error e, s)
    | (.ok _, s) => (.ok (deliver r), s)

/-- Fails a release before its plan was executed: its state stays as it was. -/
def giveUp (engine : Engine) (r : Release) (plan : Option Plan) (text : String) (s : σ) :
    Verdict × σ :=
  finish (r.fail engine.clock text none)
    (fun release => { release, plan, error := some text }) s

/-- Ends an operation whose plan was executed. -/
def settle (engine : Engine) (r : Release) (plan : Plan) (result : ExecutionResult) (s : σ) :
    Verdict × σ :=
  let r := { r with actions := result.records }
  if result.succeeded then
    finish (r.succeed engine.clock (some result.state)) (fun release => { release, plan }) s
  else
    let error := result.errorSummary.getD ""
    finish (r.fail engine.clock error (some result.state))
      (fun release => { release, plan, error := some error }) s

/-- Records an operation whose execution was cut short.  A store that fails once more does not hide
the cause. -/
def record (engine : Engine) (r : Release) (cause : Failure) (left : ExecutionResult) (s : σ) :
    Verdict × σ :=
  if r.isTerminal then (.error cause, s)
  else
    let text := "operation interrupted: " ++ cause.label
    match { r with actions := left.records }.fail engine.clock text (some left.state) with
    | .error e => (.error (.lifecycle e), s)
    | .ok r =>
      match Keeper.save r s with
      | (.ok _, s) => (.error cause, s)
      | (.error (.store _), s) => (.error cause, s)
      | (.error e, s) => (.error e, s)

/-- Ends an operation with the end of its execution. -/
def conclude (engine : Engine) (r : Release) (plan : Plan) (ending : Ending) (s : σ) :
    Verdict × σ :=
  match ending with
  | .finished result => engine.settle r plan result s
  | .interrupted (.graph e) _ _ => engine.giveUp r plan e.message s
  | .interrupted cause none _ => (.error cause, s)
  | .interrupted cause (some left) _ => engine.record r cause left s

/-- The actions that nobody waits for any more. -/
def adrift : Ending → List Flight
  | .finished _ => []
  | .interrupted _ _ adrift => adrift

/-- Ends a preview. -/
def concludePreview (engine : Engine) (r : Release) (plan : Plan) (drift : List DriftReport)
    (s : σ) : Verdict × σ :=
  finish (r.succeed engine.clock none) (fun release => { release, plan, drift }) s

/-- Ends a preview with what was read. -/
def concludeRead (engine : Engine) (r : Release) (plan : Plan)
    (live : Except Failure (List (String × Option Resource))) (s : σ) : Verdict × σ :=
  match live with
  | .ok live => engine.concludePreview r plan (detectDrift r.resources live) s
  | .error (.action e) => engine.giveUp r plan e.message s
  | .error e => (.error e, s)

/-! ## Preparation -/

/-- How far an operation gets before it has to wait. -/
inductive Prepared where
  /-- Nothing is left to wait for; what was planned is told as well. -/
  | ended (plan : Option Plan) (verdict : Verdict)
  /-- A plan is to be executed. -/
  | executing (release : Release) (plan : Plan) (execution : Execution)
  /-- The resources of the release's state are to be read. -/
  | reading (release : Release) (plan : Plan)

/-- An operation that has ended, and what was planned for it. -/
def Prepared.ofVerdict (plan : Option Plan) (answer : Verdict × σ) : Prepared × σ :=
  (.ended plan answer.1, answer.2)

/-- The spec that a pipeline generates, with its plan. -/
def generate (pipeline : Pipeline) (baseline : List Resource) :
    Except Failure (List Resource × Plan) :=
  match pipeline.run with
  | .error e => .error e
  | .ok spec =>
    match Plan.compute spec baseline with
    | .error e => .error e
    | .ok plan => .ok (spec, plan)

/-- A release with its spec attached and its operation started. -/
def startWith (engine : Engine) (spec : List Resource) (operation : Operation) (r : Release) :
    Except LifecycleError Release :=
  match r.attachSpec engine.clock spec with
  | .error e => .error e
  | .ok r => r.start engine.clock operation

/-- Saves a release whose operation was started. -/
def saveStarted (started : Except LifecycleError Release) (s : σ) : Except Failure Release × σ :=
  match started with
  | .error e => (.error (.lifecycle e), s)
  | .ok r =>
    match Keeper.save r s with
    | (.error e, s) => (.error e, s)
    | (.ok _, s) => (.ok r, s)

/-- Gets the execution of a plan ready. -/
def schedule (engine : Engine) (request : Request σ) (r : Release) (plan : Plan) (now : Instant)
    (s : σ) : Prepared × σ :=
  match engine.limits.check with
  | .error e => (.ended plan (.error (.limit e)), s)
  | .ok _ =>
    match Schedule.of? plan r.resources with
    | .error e => Prepared.ofVerdict plan (engine.giveUp r plan e.message s)
    | .ok schedule =>
      (.executing r plan (.init plan r.resources schedule engine.limits request.interrupts
        (request.stopped || request.stopWhen s) now), s)

/-- Prepares an operation that needs a spec. -/
def prepareSpec (engine : Engine) (request : Request σ) (pipeline : Pipeline)
    (operation : Operation) (next : Release → Plan → σ → Prepared × σ) (s : σ) : Prepared × σ :=
  match Keeper.create engine.clock request.triple s with
  | (.error e, s) => (.ended none (.error e), s)
  | (.ok r, s) =>
    match generate pipeline r.resources with
    | .error e =>
      if e.isRecorded then Prepared.ofVerdict none (engine.giveUp r none e.message s)
      else (.ended none (.error e), s)
    | .ok (spec, plan) =>
      match saveStarted (engine.startWith spec operation r) s with
      | (.error e, s) => (.ended plan (.error e), s)
      | (.ok r, s) => next r plan s

/-- Prepares to destroy. -/
def prepareDestroy (engine : Engine) (request : Request σ) (now : Instant) (s : σ) : Prepared × σ :=
  match Keeper.latest request.triple s with
  | .error e => (.ended none (.error e), s)
  | .ok none => (.ended none (.error (.notFound (.nothingToDestroy request.triple.label))), s)
  | .ok (some _) =>
    match Keeper.create engine.clock request.triple s with
    | (.error e, s) => (.ended none (.error e), s)
    | (.ok r, s) =>
      match Plan.compute [] r.resources with
      | .error e => (.ended none (.error e), s)
      | .ok plan =>
        match saveStarted (r.start engine.clock .destroy) s with
        | (.error e, s) => (.ended plan (.error e), s)
        | (.ok r, s) => engine.schedule request r plan now s

/-- Prepares an operation. -/
def prepare (engine : Engine) (request : Request σ) (now : Instant) (s : σ) : Prepared × σ :=
  match request.task with
  | .apply pipeline =>
    engine.prepareSpec request pipeline .apply
      (fun r plan s => engine.schedule request r plan now s) s
  | .preview pipeline true =>
    engine.prepareSpec request pipeline .preview (fun r plan s => (.reading r plan, s)) s
  | .preview pipeline false =>
    engine.prepareSpec request pipeline .preview
      (fun r plan s => Prepared.ofVerdict (some plan) (engine.concludePreview r plan [] s)) s
  | .destroy => engine.prepareDestroy request now s

/-- Refuses a malformed workspace. -/
def checkConfig (request : Request σ) : Except ConfigurationError Unit :=
  match request.config with
  | none => .ok ()
  | some w => w.check

/-! ## Whole operations -/

/-- Saves the state that an execution has reached. -/
def checkpoint (engine : Engine) (request : Request σ) (result : ExecutionResult)
    (context : Release × σ) : Reception × Release × σ :=
  match context.1.checkpoint engine.clock (some result.state) with
  | .error e => ({ failure? := some (.lifecycle e) }, context)
  | .ok r =>
    let r := { r with actions := result.records }
    match Keeper.save r context.2 with
    | (.error e, s) => ({ failure? := some e }, r, s)
    | (.ok _, s) => ({ stop := request.stopWhen s }, r, s)

/-- Brings a prepared operation to its end. -/
def complete (engine : Engine) (request : Request σ) (prepared : Prepared) (sandbox : Sandbox)
    (s : σ) : Verdict × Sandbox × σ :=
  match prepared with
  | .ended _ verdict => (verdict, sandbox, s)
  | .executing r plan execution =>
    let (ending, sandbox, r, s) :=
      execution.complete engine.clock (engine.checkpoint request) sandbox (r, s)
    let (verdict, s) := engine.conclude r plan ending s
    (verdict, Flight.land (adrift ending) sandbox, s)
  | .reading r plan =>
    let (live, sandbox) := readLive engine.limits r.resources [] sandbox
    let (verdict, s) := engine.concludeRead r plan live s
    (verdict, sandbox, s)

/-- Carries out an operation on a stack that no other operation works on. -/
def perform (engine : Engine) (request : Request σ) (sandbox : Sandbox) (s : σ) :
    Verdict × Sandbox × σ :=
  match checkConfig request with
  | .error e => (.error (.configuration e), sandbox, s)
  | .ok _ =>
    let (prepared, s) := engine.prepare request ⟨0, 0⟩ s
    engine.complete request prepared sandbox s

end Rollout.Engine
