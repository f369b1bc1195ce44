import Rollout.Proofs.Engine.History
import Rollout.Proofs.Execution.Ordering

/-!
# Applications whose actions cannot be ordered

A plan is executed only if its actions can be ordered.  If not, the backends are not called, and the
release is failed with the state it started with.

* `Engine.perform_unordered` : an application whose actions cannot be ordered;
* `Engine.unordered_by_replacement` : when that happens, and what comes of it.
-/

set_option autoImplicit false

namespace Rollout.Engine

open Relation

section

variable {σ : Type} [Keeper σ] {st : Keeper.Reliable σ} {engine : Engine} {request : Request σ}
  {before : Kept} {r : Release} {s : σ} {plan : Plan} {desired last : List Resource}
  {pipeline : Pipeline} {sandbox : Sandbox} {e : GraphError}

/-- **An application whose actions cannot be ordered** leaves the backends alone, and its release is
failed with the state it started with. -/
theorem perform_unordered (hready : st.Ready request.triple s) (hconfig : checkConfig request = .ok ())
    (htask : request.task = .apply pipeline) (hlimits : engine.limits.check = .ok ())
    (hrun : pipeline.run = .ok desired)
    (hlast : Release.lastState (st.kept s request.triple) = last)
    (hcompute : Plan.compute desired last = .ok plan)
    (hrefused : Schedule.of? plan last = .error e) (sandbox : Sandbox) :
    ∃ r s', engine.perform request sandbox s =
        (.ok { release := r, plan, error := some e.message }, sandbox, s') ∧
      r.phase = .failed ∧ r.state = some last ∧ r.triple = request.triple ∧
      st.Good s' ∧ st.kept s' = (st.kept s).with r.dumped := by
  subst hlast
  obtain ⟨created, s₁, hcreate, hcreated, hphase, _⟩ := create_spec request hready engine.clock
  obtain ⟨⟨_, hrun', _, _, hnamed⟩, _⟩ := plans_of_compute hrun hcompute
  obtain rfl := Except.ok.inj (hrun.symm.trans hrun')
  obtain ⟨started, s₂, hsaved, hstarted, _⟩ := hcreated.startWith hphase hnamed engine .apply
  obtain ⟨failed, s₃, hgiveUp, hfailed, _, _, hstate, htriple, hgood', hkept⟩ :=
    giveUp_delivers hstarted.holds engine (some plan) e.message
  refine ⟨failed, s₃, ?_, hfailed, hstate.trans hstarted.state, htriple.trans hstarted.triple,
    hgood', hkept⟩
  have hgenerate : generate pipeline created.resources = .ok (desired, plan) := by
    simp only [generate, hrun, hcreated.resources, hcompute]
  have hschedule : engine.schedule request started plan ⟨0, 0⟩ s₂ =
      Prepared.ofVerdict plan (engine.giveUp started (some plan) e.message s₂) := by
    simp only [schedule, hlimits, hstarted.resources, hrefused]
  have hprepare : engine.prepare request ⟨0, 0⟩ s =
      (.ended plan (.ok { release := failed, plan, error := some e.message }), s₃) := by
    simp only [prepare, htask, prepareSpec, hcreate, hgenerate, hsaved, hschedule, hgiveUp,
      Prepared.ofVerdict]
  simp only [perform, hconfig, hprepare, complete]

/-- **The actions of a plan cannot be ordered exactly if one of them waits for itself**, directly or
through others, which takes a resource that moves to another backend.  The application that would
execute them calls no backend, and its release is failed with the state it started with. -/
theorem unordered_by_replacement {σ : Type} [Keeper σ] (st : Keeper.Reliable σ)
    (hcompute : Plan.compute desired last = .ok plan) :
    ((∃ stuck, Schedule.of? plan last = .error (.cycle stuck)) ↔
      ∃ i, TransGen (plan.Waits last) i i) ∧
    ((∀ d ∈ desired, ∀ r ∈ last, d.id = r.id → d.backend = r.backend) →
      ∃ schedule, Schedule.of? plan last = .ok schedule) ∧
    ∀ e, Schedule.of? plan last = .error e →
      ∀ (engine : Engine) (request : Request σ) (pipeline : Pipeline) (sandbox : Sandbox) (s : σ),
        st.Ready request.triple s → checkConfig request = .ok () →
        request.task = .apply pipeline →
        engine.limits.check = .ok () → pipeline.run = .ok desired →
        Release.lastState (st.kept s request.triple) = last →
        ∃ r s', engine.perform request sandbox s =
            (.ok { release := r, plan, error := some e.message }, sandbox, s') ∧
          r.phase = .failed ∧ r.state = some last ∧ r.triple = request.triple ∧
          st.kept s' = (st.kept s).with r.dumped := by
  refine ⟨Schedule.exists_cycle_iff, fun hstay => ?_, ?_⟩
  · refine Schedule.exists_iff.mpr (Plan.acyclic_of_not_retyped hcompute ?_)
    rintro id ⟨d, hd, r, hr, hdid, hrid, hne⟩
    exact hne (hstay d hd r hr (hdid.trans hrid.symm))
  · intro e hrefused engine request pipeline sandbox s hready hconfig htask hlimits hrun hlast
    obtain ⟨r, s', hperform, hphase, hstate, htriple, _, hkept⟩ :=
      perform_unordered hready hconfig htask hlimits hrun hlast hcompute hrefused sandbox
    exact ⟨r, s', hperform, hphase, hstate, htriple, hkept⟩

end

/-! ## A knot

A volume on a disk moves to an array, which is new.  The array needs the disk, which itself moves to
another backend: the old disk is not deleted before the volume has left it, the new one not created
before the old one is gone, the array not before the new disk, and the volume does not move before
there is an array. -/

namespace Knot

/-- The recorded resources. -/
def recorded : List Resource :=
  [{ id := "disk", backend := .kubernetes },
   { id := "volume", backend := .kubernetes, dependsOn := ["disk"] }]

/-- The desired resources. -/
def desired : List Resource :=
  [{ id := "disk", backend := .terraform },
   { id := "array", backend := .kubernetes, dependsOn := ["disk"] },
   { id := "volume", backend := .kubernetes, attributes := [("copies", .int 2)],
     dependsOn := ["array"] }]

/-- The resources are created. -/
def create : Turn MemoryStore := Swap.operation (.apply (Swap.generating recorded))

/-- The volume is to move. -/
def move : Turn MemoryStore := Swap.operation (.apply (Swap.generating desired))

/-- The backends and the store once the resources have been created. -/
def created : Sandbox × MemoryStore := history [create] ({}, {})

theorem ordinary_create : create.Ordinary where
  task := Swap.ordinary_generating _
  failures _ _ _ h := by cases h
  named _ _ h := by cases h
  cancel := Nat.zero_le 1

theorem good_created : MemoryStore.reliable.Good created.2 :=
  good_history [create] _ (List.forall_mem_singleton.mpr ordinary_create) MemoryStore.good_empty

theorem lastState_created :
    Release.lastState (MemoryStore.reliable.kept created.2 Swap.triple) = recorded := by
  have hcreate : Keeper.create default Swap.triple ({} : MemoryStore) =
      (.ok (Release.new default Swap.triple 1 []),
        Swap.store [Release.new default Swap.triple 1 []]) := by cbv
  simp only [created, history, List.foldl_cons, List.foldl_nil, Turn.take, create, Swap.operation,
    perform, checkConfig, prepare, prepareSpec, hcreate]
  rfl

end Knot

/-- The volume cannot move: its update waits for itself, and the backends are left alone. -/
theorem unordered_by_replacement_knot :
    ∃ plan e, Plan.compute Knot.desired Knot.recorded = .ok plan ∧
      (∃ i, TransGen (plan.Waits Knot.recorded) i i) ∧
      ∃ r s', Knot.move.engine.perform Knot.move.request Knot.created.1 Knot.created.2 =
          (.ok { release := r, plan, error := some (GraphError.message e) }, Knot.created.1, s') ∧
        r.phase = .failed ∧ r.state = some Knot.recorded := by
  obtain ⟨plan, hcompute⟩ : ∃ plan, Plan.compute Knot.desired Knot.recorded = .ok plan := ⟨_, rfl⟩
  obtain ⟨stuck, hstuck⟩ : ∃ stuck, Schedule.of? plan Knot.recorded = .error (.cycle stuck) := by
    obtain rfl := Except.ok.inj hcompute
    exact ⟨_, rfl⟩
  obtain ⟨hcycle, -, happly⟩ := unordered_by_replacement MemoryStore.reliable hcompute
  obtain ⟨r, s', hperform, hphase, hstate, -, -⟩ :=
    happly _ hstuck Knot.move.engine Knot.move.request _ Knot.created.1 Knot.created.2
      (MemoryStore.ready_of_good Knot.good_created) rfl rfl rfl rfl Knot.lastState_created
  exact ⟨plan, _, hcompute, hcycle.mp ⟨stuck, hstuck⟩, r, s', hperform, hphase, hstate⟩

end Rollout.Engine
