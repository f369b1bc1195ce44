import Rollout.Engine.Locks
import Rollout.Engine.Operation

/-!
# Operations side by side

Several operations share one store and one sandbox.  Each awaits the lock of its triple when it
starts; time moves to the next operation that wakes up, and when an operation ends, the next one
that awaits its lock begins at that moment.

* `Fleet.wakeNext` : one operation wakes up;
* `Engine.performAll` : all operations, until the last one has ended.
-/

set_option autoImplicit false

namespace Rollout

/-- A read of a preview under way, with what was read before and what is still to be read. -/
structure Reading where
  read : LiveRead
  ends : Instant
  rest : List Resource
  live : List (String × Option Resource)
deriving Repr

/-- How far an operation has come. -/
inductive Stage where
  /-- It has not come yet. -/
  | called
  /-- It awaits the lock of its triple. -/
  | waiting
  | executing (release : Release) (plan : Plan) (execution : Execution)
  | reading (release : Release) (plan : Plan) (reading : Reading)
  | ended (verdict : Verdict)

namespace Stage

/-- When an operation wakes up next. -/
def wake? : Stage → Option Instant
  | .called | .waiting | .ended _ => none
  | .executing _ _ e => some (e.wake?.getD e.now)
  | .reading _ _ r => some r.ends

/-- How often an operation wakes up at most. -/
def remaining : Stage → Nat
  | .called | .waiting | .ended _ => 0
  | .executing _ _ e => e.schedule.size + 1
  | .reading _ _ r => r.rest.length + 1

/-- How an operation ended. -/
def verdict? : Stage → Option Verdict
  | .ended verdict => some verdict
  | _ => none

end Stage

/-- Operations that share a store and a sandbox. -/
structure Fleet (σ : Type) where
  requests : List (Request σ)
  stages : List Stage
  locks : Locks := {}
  sandbox : Sandbox
  store : σ

namespace Fleet

variable {σ : Type} [Keeper σ]

/-- Starts the next read of a preview, or ends the preview. -/
def startRead (engine : Engine) (r : Release) (plan : Plan)
    (live : List (String × Option Resource)) (rest : List Resource) (now : Instant)
    (sandbox : Sandbox) (s : σ) : Stage × Sandbox × σ :=
  match rest with
  | [] =>
    let (verdict, s) := engine.concludeRead r plan (.ok live) s
    (.ended verdict, sandbox, s)
  | next :: rest =>
    let (read, sandbox) := LiveRead.launch engine.limits next sandbox
    (.reading r plan ⟨read, now.after read.takes, rest, live⟩, sandbox, s)

/-- The stage that a prepared operation is in. -/
def stageOf (engine : Engine) (prepared : Engine.Prepared) (now : Instant) (sandbox : Sandbox)
    (s : σ) : Stage × Sandbox × σ :=
  match prepared with
  | .ended _ verdict => (.ended verdict, sandbox, s)
  | .executing r plan e =>
    let (e, sandbox) := e.launch engine.clock sandbox
    (.executing r plan e, sandbox, s)
  | .reading r plan => startRead engine r plan [] r.resources now sandbox s

/-- What an operation does when it wakes up. -/
def advance (engine : Engine) (request : Request σ) (stage : Stage) (sandbox : Sandbox) (s : σ) :
    Stage × Sandbox × σ :=
  match stage with
  | .called | .waiting | .ended _ => (stage, sandbox, s)
  | .executing r plan e =>
    match e.advance engine.clock (engine.checkpoint request) sandbox (r, s) with
    | (.inl e, sandbox, r, s) => (.executing r plan e, sandbox, s)
    | (.inr ending, sandbox, r, s) =>
      let (verdict, s) := engine.conclude r plan ending s
      (.ended verdict, Flight.land (Engine.adrift ending) sandbox, s)
  | .reading r plan reading =>
    match reading.read.finish sandbox with
    | .error e =>
      let (verdict, s) := engine.concludeRead r plan (.error e) s
      (.ended verdict, sandbox, s)
    | .ok found =>
      startRead engine r plan (Assoc.put reading.read.resource.id found reading.live) reading.rest
        reading.ends sandbox s

/-- Operations that have not come yet. -/
def start (requests : List (Request σ)) (sandbox : Sandbox) (store : σ) : Fleet σ :=
  { requests, stages := requests.map fun _ => .called, sandbox, store }

/-- Puts an operation into a stage. -/
def setStage (i : Nat) (stage : Stage) (f : Fleet σ) : Fleet σ :=
  { f with stages := f.stages.set i stage }

/-- The operation at a position awaits the lock of its triple. -/
def enter (t : Triple) (i : Nat) (f : Fleet σ) : Fleet σ :=
  { f.setStage i .waiting with locks := f.locks.enter t i }

/-- The operation at a position comes into a stage, and leaves its lock if it has ended. -/
def proceed (i : Nat) (stage : Stage) (sandbox : Sandbox) (store : σ) (f : Fleet σ) : Fleet σ :=
  let f := { f.setStage i stage with sandbox, store }
  match stage.verdict? with
  | some _ => { f with locks := f.locks.leave i }
  | none => f

/-- The operation at a position takes its lock. -/
def take (i : Nat) (f : Fleet σ) : Fleet σ := { f with locks := f.locks.take i }

/-- Begins the operation at a position, which is the next one to take its lock. -/
def begin (engine : Engine) (now : Instant) (f : Fleet σ) (i : Nat) : Fleet σ :=
  match f.requests[i]? with
  | none => f
  | some request =>
    let (prepared, store) := engine.prepare request now f.store
    let (stage, sandbox, store) := stageOf engine prepared now f.sandbox store
    (f.take i).proceed i stage sandbox store

/-- Begins the next operation on a triple, and if that one ends at once, the one after it, at most
so many times. -/
def handOver (engine : Engine) (now : Instant) (t : Triple) : Nat → Fleet σ → Fleet σ
  | 0, f => f
  | times + 1, f =>
    match f.locks.next? t with
    | none => f
    | some i => handOver engine now t times (f.begin engine now i)

/-- The operation at a position comes, and begins if the lock of its triple is free. -/
def join (engine : Engine) (f : Fleet σ) (i : Nat) : Fleet σ :=
  match f.requests[i]? with
  | none => f
  | some request =>
    match Engine.checkConfig request with
    | .error e => f.setStage i (.ended (.error (.configuration e)))
    | .ok _ => handOver engine ⟨0, 0⟩ request.triple 1 (f.enter request.triple i)

/-- The earlier of two operations that wake up, given with their moments; of two that wake up
together the first one. -/
def earlier (a b : Option (Nat × Instant)) : Option (Nat × Instant) :=
  match a, b with
  | some x, some y => if y.2.before x.2 then some y else some x
  | some x, none => some x
  | none, b => b

/-- The next operation that wakes up. -/
def next? (f : Fleet σ) : Option (Nat × Instant) :=
  f.stages.zipIdx.foldl
    (fun found (stage, i) => earlier found (stage.wake?.map fun wake => (i, wake))) none

/-- One operation wakes up. -/
def wakeNext (engine : Engine) (f : Fleet σ) : Fleet σ :=
  match f.next? with
  | none => f
  | some (i, wake) =>
    match f.requests[i]?, f.stages[i]? with
    | some request, some stage =>
      let (stage, sandbox, store) := advance engine request stage f.sandbox f.store
      handOver engine wake request.triple f.requests.length (f.proceed i stage sandbox store)
    | _, _ => f

/-- How many operations have not ended. -/
def pending (f : Fleet σ) : Nat := (f.stages.filter fun stage => stage.verdict?.isNone).length

/-- Lets operations wake up, at most so many times, until one more has ended. -/
def untilOneEnds (engine : Engine) (before : Nat) : Nat → Fleet σ → Fleet σ
  | 0, f => f
  | times + 1, f =>
    let f := f.wakeNext engine
    if f.pending < before then f else untilOneEnds engine before times f

/-- Lets operations wake up until so many more have ended.  An operation that is under way wakes up
only so many times, so one ends after as many times as all of them together have left. -/
def untilAllEnd (engine : Engine) : Nat → Fleet σ → Fleet σ
  | 0, f => f
  | callers + 1, f =>
    if f.pending = 0 then f
    else
      let times := f.stages.foldl (fun total stage => total + stage.remaining) 0
      untilAllEnd engine callers (untilOneEnds engine f.pending times f)

end Fleet

/-- Carries out several operations side by side. -/
def Engine.performAll {σ : Type} [Keeper σ] (engine : Engine) (requests : List (Request σ))
    (sandbox : Sandbox) (store : σ) : Fleet σ :=
  Fleet.untilAllEnd engine requests.length
    ((List.range requests.length).foldl (Fleet.join engine) (.start requests sandbox store))

end Rollout
