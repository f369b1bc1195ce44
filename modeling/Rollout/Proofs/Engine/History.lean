import Mathlib.Data.List.Permutation
import Rollout.Proofs.Engine.Performed
import Rollout.Proofs.Execution.Replan

/-!
# Histories

An engine carries out one operation after the other, on backends that may come to fail, or to work
again, in between.

* `Engine.Turn` : one operation, and what the backends are like while it is carried out;
* `Engine.history` : the backends and the store after several operations;
* `Engine.history_finishes` : the release of an operation is finished, unless it has to be left open;
* `Engine.history_leaves_open` : there are operations that leave their release open;
* `Engine.Endless.take_create` : a resource with an infinite number is created.
-/

set_option autoImplicit false

namespace Rollout.Engine

variable {σ : Type} [Keeper σ]

/-- One operation, and what the backends are like while it is carried out. -/
structure Turn (σ : Type) where
  engine : Engine
  request : Request σ
  delay : Call → String → Nat := fun _ _ => 0
  failure? : Call → String → Option Failure := fun _ _ => none
  answer? : String → Option (Option Resource) := fun _ => none

namespace Turn

/-- The backends during an operation. -/
def ready (turn : Turn σ) (s : Sandbox) : Sandbox :=
  { s with delay := turn.delay, failure? := turn.failure?, answer? := turn.answer? }

/-- Carries out an operation. -/
def take (turn : Turn σ) (state : Sandbox × σ) : Sandbox × σ :=
  (turn.engine.perform turn.request (turn.ready state.1) state.2).2

/-- An operation in which whatever fails, fails in an ordinary way, and which is cancelled at most
once.  Backends answer resources that have an identifier. -/
structure Ordinary (turn : Turn σ) : Prop where
  task : turn.request.task.Ordinary
  failures : ∀ call id e, turn.failure? call id = some e → e.IsOrdinary
  named : ∀ id r, turn.answer? id = some (some r) → r.id ≠ ""
  cancel : turn.request.interrupts.cancelAt.length ≤ 1

end Turn

/-- The backends and the store after several operations. -/
def history (turns : List (Turn σ)) (state : Sandbox × σ) : Sandbox × σ :=
  turns.foldl (fun state turn => turn.take state) state

variable {st : Keeper.Reliable σ} {engine : Engine} {request : Request σ} {sandbox : Sandbox}
  {s : σ} {turn : Turn σ} {turns : List (Turn σ)} {state : Sandbox × σ}

theorem Performed.good (h : Performed st engine request sandbox s state) : st.Good state.2 := by
  cases h with
  | refused good _ => exact good
  | unexecuted unexecuted => exact unexecuted.1
  | executed _ _ _ _ _ _ closed _ => exact closed.1

theorem Turn.take_spec (hturn : turn.Ordinary) (hgood : st.Good state.2) :
    Performed st turn.engine turn.request (turn.ready state.1) state.2 (turn.take state) :=
  perform_spec hgood hturn.task ⟨hturn.failures, hturn.named⟩ hturn.cancel

/-- A store that works goes on working. -/
theorem good_history : ∀ (turns : List (Turn σ)) (state : Sandbox × σ),
    (∀ turn ∈ turns, turn.Ordinary) → st.Good state.2 → st.Good (history turns state).2
  | [], _, _, hgood => hgood
  | turn :: rest, state, hturns, hgood =>
    good_history rest (turn.take state) (fun turn' h => hturns turn' (List.mem_cons_of_mem _ h))
      (turn.take_spec (hturns turn (by simp)) hgood).good

/-- **An operation that is carried out after any others creates at most one release, which is
finished unless it has to be left open**; and it keeps the state it started with unless a plan was
executed. -/
theorem history_finishes (hgood : st.Good s) (hturns : ∀ turn ∈ turns, turn.Ordinary)
    (hturn : turn.Ordinary) (sandbox : Sandbox) :
    let before := history turns (sandbox, s)
    let after := turn.take before
    let baseline := Release.lastState (st.kept before.2 turn.request.triple)
    st.kept after.2 = st.kept before.2 ∨
      ∃ r, st.kept after.2 = (st.kept before.2).with r ∧ r.triple = turn.request.triple ∧
        (r.isTerminal = true ↔ ¬ turn.engine.LeavesOpen turn.request baseline) ∧
        ((∀ x plan execution, (turn.engine.prepare turn.request ⟨0, 0⟩ before.2).1
            ≠ .executing x plan execution) → r.state = some baseline) := by
  intro before after baseline
  have hbefore : st.Good before.2 := good_history turns (sandbox, s) hturns hgood
  have hperformed : Performed st turn.engine turn.request (turn.ready before.1) before.2 after :=
    turn.take_spec hturn hbefore
  generalize after = after at hperformed
  cases hperformed with
  | refused _ kept => exact .inl kept
  | unexecuted unexecuted =>
    obtain ⟨_, r, hkept, htriple, hterminal, hstate⟩ := unexecuted
    exact .inr ⟨r, hkept, htriple, hterminal, fun _ => hstate⟩
  | executed executing _ _ _ _ _ closed finishes =>
    obtain ⟨_, r, hkept, htriple, hterminal, _⟩ := closed
    obtain ⟨x, plan, execution, hexecuting⟩ := executing
    exact .inr ⟨r.dumped, hkept, htriple, iff_of_true hterminal finishes,
      fun hnot => absurd hexecuting (hnot x plan execution)⟩

/-! ## A swap that fails

The swap of `Run.Swap`, carried out: the resources are created, the swap fails, and what it leaves is
to be destroyed. -/

namespace Swap

/-- The stack that is swapped. -/
def triple : Triple := ⟨"project", "dev", "stack"⟩

/-- A pipeline that generates resources. -/
def generating (resources : List Resource) : Pipeline :=
  ⟨[⟨"resources", fun _ => .ok resources⟩], []⟩

/-- An operation on the stack. -/
def operation (task : Task) : Turn MemoryStore :=
  { engine := ⟨⟨.whole 300, 4⟩, default⟩, request := { triple, task } }

/-- The resources are created. -/
def create : Turn MemoryStore := operation (.apply (generating Run.Swap.recorded))

/-- The swap, in which the update fails. -/
def swap : Turn MemoryStore :=
  { operation (.apply (generating Run.Swap.desired)) with
    failure? := fun _ id => if id = "w" then some (.general "boom") else none }

/-- What the swap leaves is to be destroyed. -/
def destroy : Turn MemoryStore := operation .destroy

/-- A store with the releases of the stack. -/
def store (releases : List Release) : MemoryStore :=
  ⟨[(triple, { releases := releases.map fun r => (r.revision, r), allocated := releases.length })]⟩

/-- The release that created the resources. -/
def created : Release where
  triple := triple
  revision := 1
  spec := some Run.Swap.recorded
  state := some Run.Swap.recorded
  phase := .succeeded
  createTime := default
  modifiedTime := default
  actions :=
    ["v", "w"].map fun id => ⟨id, .create, .succeeded, none, some default, some default⟩

/-- The state that the swap leaves. -/
def left : List Resource :=
  [{ id := "w", backend := .kubernetes, attributes := [("x", .int 1)], dependsOn := ["v"] },
   { id := "v", backend := .kubernetes, dependsOn := ["w"] }]

/-- The release of the swap. -/
def swapped : Release where
  triple := triple
  revision := 2
  spec := some Run.Swap.desired
  state := some left
  phase := .failed
  createTime := default
  modifiedTime := default
  actions :=
    [⟨"w", .update, .failed, some "update w failed: boom", some default, some default⟩]
  error := some "update w failed: boom"

/-- The backends once the resources have been created. -/
def backends : Sandbox :=
  { objects := Run.Swap.recorded.map fun r => (r.id, r), calls := [(.apply, "v"), (.apply, "w")] }

theorem take_create : create.take ({}, {}) = (backends, store [created]) := by
  have hcreate : Keeper.create default triple ({} : MemoryStore) =
      (.ok (Release.new default triple 1 []), store [Release.new default triple 1 []]) := by cbv
  simp only [Turn.take, create, operation, perform, checkConfig, prepare, prepareSpec, hcreate]
  rfl

theorem take_swap : swap.take (backends, store [created]) =
    ({ swap.ready backends with calls := backends.calls ++ [(.apply, "w")] },
      store [created, swapped]) := by
  have hcreate : Keeper.create default triple (store [created]) =
      (.ok (Release.new default triple 2 Run.Swap.recorded),
        store [created, Release.new default triple 2 Run.Swap.recorded]) := by cbv
  simp only [Turn.take, swap, operation, perform, checkConfig, prepare, prepareSpec, hcreate]
  rfl

theorem take_destroy (s : Sandbox) : destroy.take (s, store [created, swapped]) =
    (destroy.ready s, store [created, swapped, Release.new default triple 3 left]) := by
  have hlatest : Keeper.latest triple (store [created, swapped]) = .ok (some swapped) := by cbv
  have hcreate : Keeper.create default triple (store [created, swapped]) =
      (.ok (Release.new default triple 3 left),
        store [created, swapped, Release.new default triple 3 left]) := by cbv
  simp only [Turn.take, destroy, operation, perform, checkConfig, prepare, prepareDestroy, hlatest,
    hcreate]
  rfl

theorem ordinary_generating (resources : List Resource) : (generating resources).Ordinary where
  generators g hg rs e h := by
    rw [List.mem_singleton.mp hg] at h
    cases h
  patchers q hq := by cases hq

theorem ordinary_create : create.Ordinary where
  task := ordinary_generating _
  failures _ _ _ h := by cases h
  named _ _ h := by cases h
  cancel := Nat.zero_le 1

theorem ordinary_swap : swap.Ordinary where
  task := ordinary_generating _
  failures _ id e h text := by
    simp only [swap, Option.ite_none_right_eq_some, Option.some.injEq] at h
    rw [← h.2]
    exact Failure.noConfusion
  named _ _ h := by cases h
  cancel := Nat.zero_le 1

theorem ordinary_destroy : destroy.Ordinary where
  task := trivial
  failures _ _ _ h := by cases h
  named _ _ h := by cases h
  cancel := Nat.zero_le 1

end Swap

/-- **There are operations that leave their release open**: what is left of the swap cannot be
planned, and its destroy stops where it is planned. -/
theorem history_leaves_open :
    MemoryStore.reliable.Good {} ∧ (∀ turn ∈ [Swap.create, Swap.swap], turn.Ordinary) ∧
      Swap.destroy.Ordinary ∧
      ∃ r, MemoryStore.reliable.kept
          (Swap.destroy.take (history [Swap.create, Swap.swap] ({}, {}))).2 Swap.triple =
          [Swap.created, Swap.swapped, r] ∧ r.isTerminal = false := by
  refine ⟨MemoryStore.good_empty, ?_, Swap.ordinary_destroy, Release.new default Swap.triple 3
    Swap.left, ?_, rfl⟩
  · simp only [List.mem_cons, List.not_mem_nil, or_false, forall_eq_or_imp, forall_eq]
    exact ⟨Swap.ordinary_create, Swap.ordinary_swap⟩
  · simp only [history, List.foldl_cons, List.foldl_nil, Swap.take_create, Swap.take_swap,
      Swap.take_destroy]
    rfl

/-- The swap finishes its own release, as failed. -/
theorem history_finishes_swap :
    ∃ r, MemoryStore.reliable.kept (Swap.swap.take (history [Swap.create] ({}, {}))).2 =
        (MemoryStore.reliable.kept (history [Swap.create] ({}, ({} : MemoryStore))).2).with r ∧
      r.isTerminal = true := by
  have hturns : ∀ turn ∈ [Swap.create], turn.Ordinary := by
    simpa using Swap.ordinary_create
  rcases history_finishes MemoryStore.good_empty hturns Swap.ordinary_swap {} with
    hkept | ⟨r, hkept, -, hterminal, -⟩
  · -- the swap does create a release
    have := congrFun hkept Swap.triple
    simp only [history, List.foldl_cons, List.foldl_nil, Swap.take_create, Swap.take_swap] at this
    cases this
  · refine ⟨r, hkept, hterminal.mpr ?_⟩
    rintro (⟨spec, hrun, -, -, hmem⟩ | ⟨-, e, hcheck⟩)
    · cases hrun
      revert hmem
      decide
    · cases hcheck

/-! ## A number that is not finite -/

namespace Endless

/-- A resource with an infinite number. -/
def resource : Resource :=
  { id := "a", backend := .kubernetes, attributes := [("x", .double (.infinite false))] }

/-- Its record has null in place of the number. -/
def recorded : Resource := { resource with attributes := [("x", .null)] }

/-- The resource is created. -/
def create : Turn MemoryStore := Swap.operation (.apply (Swap.generating [resource]))

/-- The record of the release that creates it. -/
def created : Release where
  triple := Swap.triple
  revision := 1
  spec := some [recorded]
  state := some [recorded]
  phase := .succeeded
  createTime := default
  modifiedTime := default
  actions := [⟨"a", .create, .succeeded, none, some default, some default⟩]

/-- The backends once it has been created. -/
def backends : Sandbox := { objects := [("a", resource)], calls := [(.apply, "a")] }

theorem take_create : create.take ({}, {}) = (backends, Swap.store [created]) := by
  have hcreate : Keeper.create default Swap.triple ({} : MemoryStore) =
      (.ok (Release.new default Swap.triple 1 []),
        Swap.store [Release.new default Swap.triple 1 []]) := by cbv
  simp only [Turn.take, create, Swap.operation, perform, checkConfig, prepare, prepareSpec, hcreate]
  rfl

theorem ordinary_create : create.Ordinary where
  task := Swap.ordinary_generating _
  failures _ _ _ h := by cases h
  named _ _ h := by cases h
  cancel := Nat.zero_le 1

end Endless

end Rollout.Engine
