import Rollout.Engine.Basic
import Rollout.Generation.Pipeline

/-!
# How a pipeline ends

Generators run one after the other up to the first one that fails, and patchers do so if no generator
failed.  What the one that failed is reported as depends on whether it is a generator or a patcher.

* `Passes`, `Halts` : steps that are taken in a row, to their end or up to one that fails;
* `Pipeline.run_eq_ok_iff`, `Pipeline.run_eq_error_iff` : what a pipeline ends with, and what ran;
* `Pipeline.Ordinary.isRecorded` : whatever goes wrong is recorded on the release.
-/

set_option autoImplicit false

namespace Rollout

/-! ## Steps in a row -/

section

variable {α σ : Type} {step : α → σ → Except Failure σ} {failed : α → Failure → Failure}
  {items rest : List α} {a : α} {s last : σ} {given : List σ} {e : Failure}

/-- Steps in a row, none of which fails: they lead from one value to another, and `given` is what each
of them was given. -/
inductive Passes (step : α → σ → Except Failure σ) : List α → σ → List σ → σ → Prop
  | nil (s : σ) : Passes step [] s [] s
  | cons {a : α} {items : List α} {s next last : σ} {given : List σ} (first : step a s = .ok next)
      (rest : Passes step items next given last) : Passes step (a :: items) s (s :: given) last

/-- Steps in a row up to one that fails: `given` is what it and those before it were given. -/
def Halts (step : α → σ → Except Failure σ) (items : List α) (s : σ) (given : List σ) (a : α)
    (e : Failure) : Prop :=
  ∃ before after passed last, items = before ++ a :: after ∧ Passes step before s passed last ∧
    step a last = .error e ∧ given = passed ++ [last]

/-- Takes steps in a row, and reports the failure of the first one that fails. -/
def stepAll (step : α → σ → Except Failure σ) (failed : α → Failure → Failure) :
    List α → σ → Except Failure σ
  | [], s => .ok s
  | a :: items, s =>
    match step a s with
    | .error e => .error (failed a e)
    | .ok next => stepAll step failed items next

/-- What steps in a row are given, as far as they are taken. -/
def givenTo (step : α → σ → Except Failure σ) : List α → σ → List σ
  | [], _ => []
  | a :: items, s =>
    match step a s with
    | .error _ => [s]
    | .ok next => s :: givenTo step items next

theorem Halts.here (h : step a s = .error e) (items : List α) :
    Halts step (a :: items) s [s] a e :=
  ⟨[], items, [], s, rfl, .nil s, h, rfl⟩

theorem Halts.cons {b : α} {next : σ} (first : step b s = .ok next)
    (h : Halts step items next given a e) : Halts step (b :: items) s (s :: given) a e := by
  obtain ⟨before, after, passed, last, rfl, hpasses, hfails, rfl⟩ := h
  exact ⟨b :: before, after, s :: passed, last, rfl, .cons first hpasses, hfails, rfl⟩

/-- Steps in a row are taken to their end, or up to one that fails. -/
theorem stepAll_cases (step : α → σ → Except Failure σ) (failed : α → Failure → Failure) :
    ∀ (items : List α) (s : σ),
      (∃ last, Passes step items s (givenTo step items s) last ∧
        stepAll step failed items s = .ok last) ∨
      ∃ a e, Halts step items s (givenTo step items s) a e ∧
        stepAll step failed items s = .error (failed a e)
  | [], s => .inl ⟨s, .nil s, rfl⟩
  | a :: items, s => by
    unfold givenTo stepAll
    cases hstep : step a s with
    | error e => exact .inr ⟨a, e, .here hstep items, rfl⟩
    | ok next =>
      rcases stepAll_cases step failed items next with ⟨last, hpasses, hall⟩ | ⟨b, e, hhalts, hall⟩
      · exact .inl ⟨last, .cons hstep hpasses, hall⟩
      · exact .inr ⟨b, e, .cons hstep hhalts, hall⟩

/-- Steps that pass are followed by those behind them. -/
theorem Passes.append (h : Passes step items s given last) (failed : α → Failure → Failure)
    (rest : List α) :
    stepAll step failed (items ++ rest) s = stepAll step failed rest last ∧
      givenTo step (items ++ rest) s = given ++ givenTo step rest last := by
  induction h with
  | nil s => exact ⟨rfl, rfl⟩
  | cons hfirst _ ih =>
    simp only [List.cons_append, stepAll, givenTo, hfirst, ih.1, ih.2, and_self]

theorem Passes.stepAll (h : Passes step items s given last) (failed : α → Failure → Failure) :
    stepAll step failed items s = .ok last ∧ givenTo step items s = given := by
  have happend := h.append failed []
  rwa [List.append_nil, givenTo, List.append_nil] at happend

theorem Halts.stepAll (h : Halts step items s given a e) (failed : α → Failure → Failure) :
    stepAll step failed items s = .error (failed a e) ∧ givenTo step items s = given := by
  obtain ⟨before, after, passed, last, rfl, hpasses, hfails, rfl⟩ := h
  have happend := hpasses.append failed (a :: after)
  simpa only [Rollout.stepAll, givenTo, hfails] using happend

/-- The step that fails is one of those in the row. -/
theorem Halts.mem (h : Halts step items s given a e) : a ∈ items ∧ ∃ last, step a last = .error e := by
  obtain ⟨before, after, _, last, rfl, _, hfails, _⟩ := h
  exact ⟨List.mem_append_right _ List.mem_cons_self, last, hfails⟩

/-- **Steps in a row succeed exactly if each of them does.** -/
theorem stepAll_eq_ok_iff : stepAll step failed items s = .ok last ↔
    Passes step items s (givenTo step items s) last := by
  refine ⟨fun h => ?_, fun h => (h.stepAll failed).1⟩
  rcases stepAll_cases step failed items s with ⟨_, hpasses, hall⟩ | ⟨_, _, _, hall⟩
  · rw [hall] at h
    cases h
    exact hpasses
  · rw [hall] at h
    cases h

/-- **Steps in a row fail exactly if one of them does**, and with the failure of the first one. -/
theorem stepAll_eq_error_iff : stepAll step failed items s = .error e ↔
    ∃ a cause, Halts step items s (givenTo step items s) a cause ∧ failed a cause = e := by
  constructor
  · intro h
    rcases stepAll_cases step failed items s with ⟨_, _, hall⟩ | ⟨a, cause, hhalts, hall⟩
    · rw [hall] at h
      cases h
    · rw [hall] at h
      exact ⟨a, cause, hhalts, Except.error.inj h⟩
  · rintro ⟨a, cause, hhalts, rfl⟩
    exact (hhalts.stepAll failed).1

end

/-! ## Reports -/

/-- What the failure of a generator is reported as: as it is, if it is a failure to generate or a
secret that could not be resolved, else as a failure to generate with the name of the generator. -/
inductive Generator.Reports (g : Generator) : Failure → Failure → Prop
  | generation (e : GenerationError) : Reports g (.generation e) (.generation e)
  | secret (e : SecretError) : Reports g (.secret e) (.secret e)
  | other {e : Failure} (noGeneration : ∀ c, e ≠ .generation c) (noSecret : ∀ c, e ≠ .secret c) :
      Reports g e (.generation (.generator g.name e.message))

/-- What the failure of a patcher is reported as: as it is, if it is a failure to patch, else as one
with the name of the patcher. -/
inductive Patcher.Reports (q : Patcher) : Failure → Failure → Prop
  | patch (e : PatchError) : Reports q (.patch e) (.patch e)
  | other {e : Failure} (noPatch : ∀ c, e ≠ .patch c) :
      Reports q e (.patch (.patcher q.name e.message))

theorem Generator.failed_eq_iff {g : Generator} {cause e : Failure} (h : cause.IsOrdinary) :
    g.failed cause = e ↔ g.Reports cause e := by
  constructor
  · rintro rfl
    cases cause with
    | generation e => exact .generation e
    | secret e => exact .secret e
    | cancelled text => exact absurd rfl (h text)
    | _ => exact .other nofun nofun
  · intro hreports
    cases hreports with
    | generation e => rfl
    | secret e => rfl
    | other hgeneration hsecret =>
      cases cause with
      | generation e => exact absurd rfl (hgeneration e)
      | secret e => exact absurd rfl (hsecret e)
      | cancelled text => exact absurd rfl (h text)
      | _ => rfl

theorem Patcher.failed_eq_iff {q : Patcher} {cause e : Failure} (h : cause.IsOrdinary) :
    q.failed cause = e ↔ q.Reports cause e := by
  constructor
  · rintro rfl
    cases cause with
    | patch e => exact .patch e
    | cancelled text => exact absurd rfl (h text)
    | _ => exact .other nofun
  · intro hreports
    cases hreports with
    | patch e => rfl
    | other hpatch =>
      cases cause with
      | patch e => exact absurd rfl (hpatch e)
      | cancelled text => exact absurd rfl (h text)
      | _ => rfl

/-- What generators are reported to fail with is recorded. -/
theorem Generator.Reports.isRecorded {g : Generator} {cause e : Failure} (h : g.Reports cause e) :
    e.isRecorded = true := by
  cases h <;> rfl

/-- What patchers are reported to fail with is recorded. -/
theorem Patcher.Reports.isRecorded {q : Patcher} {cause e : Failure} (h : q.Reports cause e) :
    e.isRecorded = true := by
  cases h <;> rfl

/-! ## Pipelines -/

/-- A pipeline whose generators and patchers fail only in ordinary ways. -/
structure Pipeline.Ordinary (p : Pipeline) : Prop where
  generators : ∀ g ∈ p.generators, ∀ resources e, g.generate resources = .error e → e.IsOrdinary
  patchers : ∀ q ∈ p.patchers, ∀ b e, q.patch b = .error e → e.IsOrdinary

namespace Pipeline

variable {p : Pipeline} {e : Failure}

theorem generateAll_eq : ∀ (generators : List Generator) (resources : List Resource),
    generateAll generators resources = stepAll Generator.generate Generator.failed generators resources
  | [], _ => rfl
  | g :: rest, resources => by
    unfold generateAll stepAll
    cases g.generate resources with
    | error e => rfl
    | ok next => exact generateAll_eq rest next

theorem patchAll_eq : ∀ (patchers : List Patcher) (b : Workbench),
    patchAll patchers b = stepAll Patcher.patch Patcher.failed patchers b
  | [], _ => rfl
  | q :: rest, b => by
    unfold patchAll stepAll
    cases q.patch b with
    | error e => rfl
    | ok next => exact patchAll_eq rest next

theorem met_eq : ∀ (patchers : List Patcher) (b : Workbench),
    met patchers b = givenTo Patcher.patch patchers b
  | [], _ => rfl
  | q :: rest, b => by
    unfold met givenTo
    cases q.patch b with
    | error e => rfl
    | ok next => exact congrArg (b :: ·) (met_eq rest next)

/-- The resources that each generator of a pipeline was given, as far as generators ran. -/
def offers (p : Pipeline) : List (List Resource) := givenTo Generator.generate p.generators []

/-- What becomes of a pipeline whose generators all succeed is up to its patchers. -/
theorem run_of_generated {resources : List Resource} {given : List (List Resource)}
    (h : Passes Generator.generate p.generators [] given resources) :
    p.run = (stepAll Patcher.patch Patcher.failed p.patchers (.ofResources resources)).map
        Workbench.resources ∧
      p.benches = givenTo Patcher.patch p.patchers (.ofResources resources) := by
  have hgenerated := (h.stepAll Generator.failed).1
  simp only [run, benches, generateAll_eq, patchAll_eq, met_eq, hgenerated, and_true]
  cases stepAll Patcher.patch Patcher.failed p.patchers (.ofResources resources) <;> rfl

/-- A generator that fails ends the run before any patcher. -/
theorem run_of_halts {g : Generator} {cause : Failure} {given : List (List Resource)}
    (h : Halts Generator.generate p.generators [] given g cause) :
    p.run = .error (g.failed cause) ∧ p.benches = [] := by
  have hgenerated := (h.stepAll Generator.failed).1
  simp only [run, benches, generateAll_eq, hgenerated, and_self]

/-- **A pipeline produces a spec exactly if no generator and no patcher fails.** -/
theorem run_eq_ok_iff {spec : List Resource} : p.run = .ok spec ↔
    ∃ resources b, Passes Generator.generate p.generators [] p.offers resources ∧
      Passes Patcher.patch p.patchers (.ofResources resources) p.benches b ∧ b.resources = spec := by
  constructor
  · intro h
    rcases stepAll_cases Generator.generate Generator.failed p.generators [] with
      ⟨resources, hgenerated, _⟩ | ⟨g, cause, hhalts, _⟩
    · obtain ⟨hrun, hbenches⟩ := run_of_generated hgenerated
      rw [hrun] at h
      cases hpatched : stepAll Patcher.patch Patcher.failed p.patchers (.ofResources resources) with
      | error e =>
        rw [hpatched] at h
        cases h
      | ok b =>
        rw [hpatched] at h
        rw [stepAll_eq_ok_iff, ← hbenches] at hpatched
        exact ⟨resources, b, hgenerated, hpatched, Except.ok.inj h⟩
    · rw [(run_of_halts hhalts).1] at h
      cases h
  · rintro ⟨resources, b, hgenerated, hpatched, rfl⟩
    rw [(run_of_generated hgenerated).1, (hpatched.stepAll Patcher.failed).1]
    rfl

/-- **A pipeline fails exactly if a generator does**, and then no patcher runs, **or a patcher**. -/
theorem run_eq_error_iff : p.run = .error e ↔
    (∃ g cause, Halts Generator.generate p.generators [] p.offers g cause ∧ p.benches = [] ∧
      g.failed cause = e) ∨
    ∃ resources q cause, Passes Generator.generate p.generators [] p.offers resources ∧
      Halts Patcher.patch p.patchers (.ofResources resources) p.benches q cause ∧
      q.failed cause = e := by
  constructor
  · intro h
    rcases stepAll_cases Generator.generate Generator.failed p.generators [] with
      ⟨resources, hgenerated, _⟩ | ⟨g, cause, hhalts, _⟩
    · obtain ⟨hrun, hbenches⟩ := run_of_generated hgenerated
      rw [hrun] at h
      cases hpatched : stepAll Patcher.patch Patcher.failed p.patchers (.ofResources resources) with
      | ok b =>
        rw [hpatched] at h
        cases h
      | error e' =>
        rw [hpatched] at h
        cases h
        obtain ⟨q, cause, hhalts, hfailed⟩ := stepAll_eq_error_iff.mp hpatched
        rw [← hbenches] at hhalts
        exact .inr ⟨resources, q, cause, hgenerated, hhalts, hfailed⟩
    · obtain ⟨hrun, hbenches⟩ := run_of_halts hhalts
      rw [hrun] at h
      exact .inl ⟨g, cause, hhalts, hbenches, Except.error.inj h⟩
  · rintro (⟨g, cause, hhalts, -, rfl⟩ | ⟨resources, q, cause, hgenerated, hhalts, rfl⟩)
    · exact (run_of_halts hhalts).1
    · rw [(run_of_generated hgenerated).1, (hhalts.stepAll Patcher.failed).1]
      rfl

/-- **What a pipeline that fails in ordinary ways reports**: the failure of the first generator that
fails, or, if none does, of the first patcher that fails. -/
theorem Ordinary.run_eq_error_iff (h : p.Ordinary) : p.run = .error e ↔
    (∃ g cause, Halts Generator.generate p.generators [] p.offers g cause ∧ p.benches = [] ∧
      g.Reports cause e) ∨
    ∃ resources q cause, Passes Generator.generate p.generators [] p.offers resources ∧
      Halts Patcher.patch p.patchers (.ofResources resources) p.benches q cause ∧
      q.Reports cause e := by
  rw [Pipeline.run_eq_error_iff]
  refine or_congr (exists₂_congr fun g cause => and_congr_right fun hhalts =>
    and_congr_right fun _ => ?_) (exists_congr fun resources => exists₂_congr fun q cause =>
    and_congr_right fun _ => and_congr_right fun hhalts => ?_)
  · obtain ⟨hg, last, hfails⟩ := hhalts.mem
    exact Generator.failed_eq_iff (h.generators g hg last cause hfails)
  · obtain ⟨hq, last, hfails⟩ := hhalts.mem
    exact Patcher.failed_eq_iff (h.patchers q hq last cause hfails)

/-- **The ordinary failures of a pipeline are recorded.** -/
theorem Ordinary.isRecorded (h : p.Ordinary) (he : p.run = .error e) : e.isRecorded = true := by
  rcases h.run_eq_error_iff.mp he with ⟨g, cause, _, _, hreports⟩ | ⟨_, q, cause, _, _, hreports⟩
  · exact hreports.isRecorded
  · exact hreports.isRecorded

end Pipeline

end Rollout
