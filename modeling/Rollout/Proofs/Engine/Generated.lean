import Rollout.Generation.Patch
import Rollout.Proofs.Engine.Performed

/-!
# Operations whose pipeline fails

A pipeline produces all of its resources or none.  Whatever it fails with is recorded: the operation
plans nothing, calls no backend and fails its release with the text of the failure.

* `Engine.perform_ungenerated` : an operation whose pipeline fails;
* `Pipeline.run_all_or_nothing` : what a pipeline ends with, what ran, and what comes of a failure.
-/

set_option autoImplicit false

namespace Rollout

/-- A task that runs a pipeline. -/
def Task.Runs (task : Task) (p : Pipeline) : Prop :=
  task = .apply p ∨ ∃ live, task = .preview p live

section

variable {σ : Type} [Keeper σ] {st : Keeper.Reliable σ} {request : Request σ} {s : σ} {p : Pipeline}
  {e : Failure}

/-- **An operation whose pipeline fails** leaves the backends alone, and its release is failed with the
text of the failure and the state it started with. -/
theorem Engine.perform_ungenerated (hready : st.Ready request.triple s)
    (hconfig : checkConfig request = .ok ())
    (hruns : request.task.Runs p) (hrun : p.run = .error e) (hrecorded : e.isRecorded = true)
    (engine : Engine) (sandbox : Sandbox) :
    ∃ r s', engine.perform request sandbox s =
        (.ok { release := r, error := some e.message }, sandbox, s') ∧
      r.phase = .failed ∧ r.error = some e.message ∧
      r.state = some (Release.lastState (st.kept s request.triple)) ∧ r.triple = request.triple ∧
      st.Good s' ∧ st.kept s' = (st.kept s).with r := by
  obtain ⟨created, s₁, hcreate, hstarted, _, hspec⟩ := create_spec request hready engine.clock
  obtain ⟨r, s₂, hgiveUp, hphase, herror, hspec', hstate, htriple, hgood', hkept⟩ :=
    giveUp_delivers hstarted.holds engine none e.message
  have hfinite : r.Finite := by
    refine ⟨by simp [hspec', hspec], ?_⟩
    rw [Release.resources, hstate, hstarted.state]
    exact Keeper.Reliable.finite_lastState hgood' hkept request.triple
  rw [hfinite.dumped_eq] at hkept
  refine ⟨r, s₂, ?_, hphase, herror, hstate.trans hstarted.state, htriple.trans hstarted.triple,
    hgood', hkept⟩
  have hprepareSpec : ∀ operation next, engine.prepareSpec request p operation next s =
      (.ended none (.ok { release := r, error := some e.message }), s₂) := fun operation next => by
    simp only [prepareSpec, hcreate, generate, hrun, hrecorded, if_true, hgiveUp, Prepared.ofVerdict]
  have hprepare : engine.prepare request ⟨0, 0⟩ s =
      (.ended none (.ok { release := r, error := some e.message }), s₂) := by
    obtain htask | ⟨live, htask⟩ := hruns
    · simp only [prepare, htask, hprepareSpec]
    · cases live <;> simp only [prepare, htask, hprepareSpec]
  simp only [perform, hconfig, hprepare, complete]

/-- **A pipeline produces all or nothing.**  It produces a spec exactly if all of its generators and
then all of its patchers succeed.  Otherwise it reports the failure of the first generator that
fails, and no patcher runs, or that of the first patcher that fails.  What it reports is recorded:
the operation that runs the pipeline calls no backend, and fails its release with that text. -/
theorem Pipeline.run_all_or_nothing {p : Pipeline} (hordinary : p.Ordinary) :
    (∀ spec, p.run = .ok spec ↔
      ∃ resources b, Passes Generator.generate p.generators [] p.offers resources ∧
        Passes Patcher.patch p.patchers (.ofResources resources) p.benches b ∧
        b.resources = spec) ∧
    (∀ e, p.run = .error e ↔
      (∃ g cause, Halts Generator.generate p.generators [] p.offers g cause ∧ p.benches = [] ∧
        g.Reports cause e) ∨
      ∃ resources q cause, Passes Generator.generate p.generators [] p.offers resources ∧
        Halts Patcher.patch p.patchers (.ofResources resources) p.benches q cause ∧
        q.Reports cause e) ∧
    ∀ e, p.run = .error e → e.isRecorded = true ∧
      ∀ {σ : Type} [Keeper σ] (st : Keeper.Reliable σ) (engine : Engine) (request : Request σ)
        (sandbox : Sandbox) (s : σ),
        st.Ready request.triple s → Engine.checkConfig request = .ok () → request.task.Runs p →
        ∃ r s', engine.perform request sandbox s =
            (.ok { release := r, error := some e.message }, sandbox, s') ∧
          r.phase = .failed ∧ r.error = some e.message ∧
          r.state = some (Release.lastState (st.kept s request.triple)) ∧
          r.triple = request.triple ∧ st.Good s' ∧ st.kept s' = (st.kept s).with r := by
  refine ⟨fun spec => run_eq_ok_iff, fun e => hordinary.run_eq_error_iff, fun e hrun => ?_⟩
  have hrecorded := hordinary.isRecorded hrun
  exact ⟨hrecorded, fun st engine request sandbox s hready hconfig hruns =>
    Engine.perform_ungenerated hready hconfig hruns hrun hrecorded engine sandbox⟩

end

/-! ## A shop without a database

The service of a shop is generated.  Its database is not, since nothing says which engine it has. -/

namespace Shop

/-- The service of the shop. -/
def service : Resource := { id := "apps/v1:Deployment:shop:web", backend := .kubernetes }

/-- Generates the service. -/
def generateService : Generator := ⟨"Service", fun resources => .ok (resources ++ [service])⟩

/-- Misses the engine of the database. -/
def generateDatabase : Generator := ⟨"Database", fun _ => .error (.foreign "KeyError" "'engine'")⟩

/-- The shop, whose resources are to name a kubeconfig. -/
def pipeline : Pipeline where
  generators := [generateService, generateDatabase]
  patchers := [(Patch.kubeConfig "prod.yaml").toPatcher]

/-- The shop is to be applied. -/
def request : Request MemoryStore := { triple := ⟨"shop", "prod", "main"⟩, task := .apply pipeline }

theorem ordinary_pipeline : pipeline.Ordinary where
  generators := by
    intro g hg resources e he
    simp only [pipeline, List.mem_cons, List.not_mem_nil, or_false] at hg
    obtain rfl | rfl := hg <;> cases he
    exact nofun
  patchers := by
    intro q hq b e he
    obtain rfl := List.mem_singleton.mp hq
    cases he

end Shop

/-- The database is not generated, no patcher runs, and the release of the shop is failed. -/
theorem Pipeline.run_all_or_nothing_shop :
    Shop.pipeline.run = .error (.generation (.generator "Database" "'engine'")) ∧
      Shop.pipeline.offers = [[], [Shop.service]] ∧ Shop.pipeline.benches = [] ∧
      ∃ r s', Engine.perform ⟨⟨.whole 300, 4⟩, default⟩ Shop.request {} ({} : MemoryStore) =
          (.ok { release := r, error := some "generator Database failed: 'engine'" }, {}, s') ∧
        r.phase = .failed ∧ r.state = some [] := by
  obtain ⟨-, hfails, hfailed⟩ := run_all_or_nothing Shop.ordinary_pipeline
  have hhalts : Halts Generator.generate Shop.pipeline.generators [] Shop.pipeline.offers
      Shop.generateDatabase (.foreign "KeyError" "'engine'") :=
    ⟨[Shop.generateService], [], [[]], [Shop.service], rfl, .cons rfl (.nil _), rfl, rfl⟩
  have hrun := (hfails _).mpr (.inl ⟨_, _, hhalts, rfl, .other nofun nofun⟩)
  obtain ⟨r, s', hperform, hphase, -, hstate, -⟩ := (hfailed _ hrun).2 MemoryStore.reliable
    ⟨⟨.whole 300, 4⟩, default⟩ Shop.request {} {}
    (MemoryStore.ready_of_good MemoryStore.good_empty) rfl (.inl rfl)
  exact ⟨hrun, rfl, rfl, r, s', hperform, hphase, hstate⟩

end Rollout
