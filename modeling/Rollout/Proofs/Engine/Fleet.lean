import Mathlib.Data.List.Perm.Subperm
import Mathlib.Logic.Function.Basic
import Mathlib.Logic.Relation
import Rollout.Engine.Parallel
import Rollout.Proofs.Engine.Locks

/-!
# Operations side by side

Operations come, begin, go on, end and are cancelled in any order.  What is done in between is left
open here: only the stages of the operations and the locks matter.

* `Locks.Agrees` : the callers are the operations that have come and not ended;
* `Fleet.Step`, `Fleet.Reached` : what operations side by side can come to;
* `Fleet.Reached.orderly` : the locks are always those of the operations;
* `Fleet.Orderly.eq_of_works`, `Fleet.Orderly.canBegin_iff`, `Fleet.Served.exists_works` : who
  works, who may begin, and for whom an operation waits.
-/

set_option autoImplicit false

namespace Rollout

open Relation

/-! ## Stages and locks -/

namespace Stage

/-- Whether an operation in this stage holds its lock, awaits it, or does neither. -/
def holds? : Stage → Option Bool
  | .called | .ended _ => none
  | .waiting => some false
  | .executing _ _ _ | .reading _ _ _ => some true

/-- A stage of an operation that has begun: it holds its lock, or it has ended. -/
def HasBegun (stage : Stage) : Prop := stage.holds? = some true ∨ ∃ verdict, stage = .ended verdict

end Stage

/-- **The callers are the operations that hold or await a lock**, where the triple of each operation
and whether it holds or awaits its lock are given. -/
structure Locks.Agrees (triple? : Nat → Option Triple) (holds? : Nat → Option Bool) (l : Locks) :
    Prop where
  sound : l.Sound
  calls : ∀ i t holds, triple? i = some t ∧ holds? i = some holds ↔
    ∃ c ∈ l.callers, c.number = i ∧ c.triple = t ∧ c.holds = holds

namespace Locks.Agrees

open Function

variable {triple? : Nat → Option Triple} {holds? : Nat → Option Bool} {l : Locks} {c : Caller}
  {i : Nat} {t : Triple}

theorem of_mem (h : l.Agrees triple? holds?) (hc : c ∈ l.callers) :
    triple? c.number = some c.triple ∧ holds? c.number = some c.holds :=
  (h.calls c.number c.triple c.holds).mpr ⟨c, hc, rfl, rfl, rfl⟩

theorem enter (h : l.Agrees triple? holds?) (ht : triple? i = some t) (hi : holds? i = none) :
    (l.enter t i).Agrees triple? (update holds? i (some false)) := by
  have hfresh : ∀ c ∈ l.callers, c.number ≠ i := by
    rintro c hc rfl
    rw [(h.of_mem hc).2] at hi
    cases hi
  refine ⟨h.sound.enter hfresh t, fun j s holds => ?_⟩
  have hmem : ∀ c, c ∈ (l.enter t i).callers ↔
      c ∈ l.callers ∨ c = ⟨i, t, (Assoc.lookup t l.current).getD l.made, false⟩ := by
    simp [Locks.enter]
  simp only [hmem]
  by_cases hj : j = i
  · subst hj
    rw [update_self, ht]
    constructor
    · rintro ⟨hs, hholds⟩
      exact ⟨_, .inr rfl, rfl, Option.some.inj hs, Option.some.inj hholds⟩
    · rintro ⟨c, hc | rfl, hnumber, hs, hholds⟩
      · exact absurd hnumber (hfresh c hc)
      · exact ⟨congrArg some hs, congrArg some hholds⟩
  · rw [update_of_ne hj, h.calls]
    constructor
    · rintro ⟨c, hc, hrest⟩
      exact ⟨c, .inl hc, hrest⟩
    · rintro ⟨c, hc | rfl, hnumber, hrest⟩
      · exact ⟨c, hc, hnumber, hrest⟩
      · exact absurd hnumber.symm hj

theorem take (h : l.Agrees triple? holds?) (hc : c ∈ l.callers) (hfree : l.isHeld c.lock = false) :
    (l.take c.number).Agrees triple? (update holds? c.number (some true)) := by
  refine ⟨h.sound.take hc hfree, fun j s holds => ?_⟩
  simp only [mem_callers_take_iff]
  by_cases hj : j = c.number
  · subst hj
    rw [update_self, (h.of_mem hc).1]
    constructor
    · rintro ⟨hs, hholds⟩
      refine ⟨_, ⟨c, hc, rfl⟩, Caller.afterTake_number,
        Caller.afterTake_triple.trans (Option.some.inj hs), ?_⟩
      rw [← Option.some.inj hholds]
      exact Caller.afterTake_holds_iff.mpr (.inl rfl)
    · rintro ⟨_, ⟨d, hd, rfl⟩, hnumber, hs, hholds⟩
      rw [Caller.afterTake_number] at hnumber
      obtain rfl := h.sound.eq_of_number_eq hd hc hnumber
      rw [Caller.afterTake_triple] at hs
      rw [Caller.afterTake_holds_iff.mpr (.inl rfl)] at hholds
      exact ⟨congrArg some hs, congrArg some hholds⟩
  · have hkept : ∀ d : Caller, d.number = j → d.afterTake c.number = d :=
      fun d hd => if_neg fun heq => hj (hd.symm.trans heq)
    rw [update_of_ne hj, h.calls]
    constructor
    · rintro ⟨d, hd, hnumber, hrest⟩
      exact ⟨d, ⟨d, hd, hkept d hnumber⟩, hnumber, hrest⟩
    · rintro ⟨_, ⟨d, hd, rfl⟩, hnumber, hrest⟩
      rw [Caller.afterTake_number] at hnumber
      rw [hkept d hnumber] at hrest
      exact ⟨d, hd, hnumber, hrest⟩

theorem leave (h : l.Agrees triple? holds?) (hc : c ∈ l.callers) :
    (l.leave c.number).Agrees triple? (update holds? c.number none) := by
  refine ⟨h.sound.leave hc, fun j s holds => ?_⟩
  simp only [h.sound.mem_callers_leave_iff hc]
  by_cases hj : j = c.number
  · subst hj
    rw [update_self]
    constructor
    · rintro ⟨_, hholds⟩
      cases hholds
    · rintro ⟨d, ⟨hd, hne⟩, hnumber, _⟩
      exact absurd (h.sound.eq_of_number_eq hd hc hnumber) hne
  · rw [update_of_ne hj, h.calls]
    constructor
    · rintro ⟨d, hd, hnumber, hrest⟩
      refine ⟨d, ⟨hd, ?_⟩, hnumber, hrest⟩
      rintro rfl
      exact hj hnumber.symm
    · rintro ⟨d, ⟨hd, _⟩, hrest⟩
      exact ⟨d, hd, hrest⟩

end Locks.Agrees

namespace Fleet

section

variable {σ : Type}

/-- The triple of an operation. -/
def triple? (f : Fleet σ) (i : Nat) : Option Triple := (f.requests[i]?).map Request.triple

/-- Whether an operation holds its lock, awaits it, or does neither. -/
def holds? (f : Fleet σ) (i : Nat) : Option Bool := (f.stages[i]?).bind Stage.holds?

/-- An operation works on a triple: it has taken the lock and not left it. -/
def Works (t : Triple) (i : Nat) (f : Fleet σ) : Prop :=
  f.triple? i = some t ∧ f.holds? i = some true

/-- An operation awaits the lock of a triple. -/
def Waits (t : Triple) (i : Nat) (f : Fleet σ) : Prop :=
  f.triple? i = some t ∧ f.holds? i = some false

/-- An operation on a triple has come and not ended. -/
def InProgress (t : Triple) (i : Nat) (f : Fleet σ) : Prop := f.Works t i ∨ f.Waits t i

/-- An operation may take the lock that it was given: it awaits the lock, and nobody holds it. -/
def CanBegin (i : Nat) (f : Fleet σ) : Prop :=
  ∃ c ∈ f.locks.callers, c.number = i ∧ c.holds = false ∧ f.locks.isHeld c.lock = false

/-- What happens from one moment at which all operations wait for something to the next: an
operation comes and is refused or awaits its lock; one that awaits its lock takes it, if it is free,
and works until it waits for something or ends; one that works goes on in the same way; and one that
awaits its lock gives up. -/
inductive Step : Fleet σ → Fleet σ → Prop
  | refuse {f : Fleet σ} {i : Nat} {request : Request σ} {e : ConfigurationError}
      (requested : f.requests[i]? = some request) (called : f.stages[i]? = some .called)
      (config : Engine.checkConfig request = .error e) :
      Step f (f.setStage i (.ended (.error (.configuration e))))
  | enter {f : Fleet σ} {i : Nat} {request : Request σ}
      (requested : f.requests[i]? = some request) (called : f.stages[i]? = some .called)
      (config : Engine.checkConfig request = .ok ()) : Step f (f.enter request.triple i)
  | begin {f : Fleet σ} {i : Nat} {stage : Stage} (can : f.CanBegin i) (begun : stage.HasBegun)
      (sandbox : Sandbox) (store : σ) : Step f ((f.take i).proceed i stage sandbox store)
  | work {f : Fleet σ} {t : Triple} {i : Nat} {stage : Stage} (works : f.Works t i)
      (begun : stage.HasBegun) (sandbox : Sandbox) (store : σ) :
      Step f (f.proceed i stage sandbox store)
  | cancel {f : Fleet σ} {t : Triple} {i : Nat} (waits : f.Waits t i) (verdict : Verdict) :
      Step f (f.proceed i (.ended verdict) f.sandbox f.store)

/-- What operations that are carried out side by side can come to. -/
def Reached (requests : List (Request σ)) (f : Fleet σ) : Prop :=
  ∃ sandbox store, ReflTransGen Step (start requests sandbox store) f

/-- The locks are those of the operations. -/
def Orderly (f : Fleet σ) : Prop := f.locks.Agrees f.triple? f.holds?

variable {f f' : Fleet σ} {i j : Nat} {t : Triple} {stage old : Stage} {sandbox : Sandbox}
  {store : σ} {requests : List (Request σ)}

/-! ## A step -/

theorem holds_setStage (h : f.stages[i]? = some old) (stage : Stage) :
    (f.setStage i stage).holds? = Function.update f.holds? i stage.holds? := by
  funext j
  unfold holds? setStage
  rw [List.getElem?_set]
  by_cases hj : i = j
  · subst hj
    simp [(List.getElem?_eq_some_iff.mp h).1]
  · rw [if_neg hj, Function.update_of_ne (Ne.symm hj)]

theorem exists_stage {holds : Bool} (h : f.holds? i = some holds) :
    ∃ old, f.stages[i]? = some old := by
  obtain ⟨old, hold, _⟩ := Option.bind_eq_some_iff.mp h
  exact ⟨old, hold⟩

theorem holds_of_hasBegun (h : stage.HasBegun) (hended : stage.verdict? = none) :
    stage.holds? = some true := by
  rcases h with h | ⟨verdict, rfl⟩
  · exact h
  · cases hended

/-- An operation that holds its lock goes on holding it, or leaves it. -/
theorem proceed_agrees {holds? : Nat → Option Bool} {c : Caller}
    (h : f.locks.Agrees f.triple? holds?) (hc : c ∈ f.locks.callers) (hnumber : c.number = i)
    (hstages : ∀ stage, (f.setStage i stage).holds? = Function.update holds? i stage.holds?)
    (hstage : stage.verdict? = none → holds? i = stage.holds?) (sandbox : Sandbox) (store : σ) :
    (f.proceed i stage sandbox store).Orderly := by
  subst hnumber
  unfold Orderly proceed
  cases hverdict : stage.verdict? with
  | none =>
    have hsame := hstages stage
    rw [← hstage hverdict, Function.update_eq_self] at hsame
    exact hsame ▸ h
  | some verdict =>
    have hleft : stage.holds? = none := by
      cases stage <;> first | rfl | cases hverdict
    have hnone := hstages stage
    rw [hleft] at hnone
    exact hnone ▸ h.leave hc

theorem Orderly.begin (h : f.Orderly) (hcan : f.CanBegin i) (hbegun : stage.HasBegun)
    (sandbox : Sandbox) (store : σ) : ((f.take i).proceed i stage sandbox store).Orderly := by
  obtain ⟨c, hc, rfl, _, hfree⟩ := hcan
  obtain ⟨old, hold⟩ := exists_stage (h.of_mem hc).2
  refine proceed_agrees (c := c.afterTake c.number) (h.take hc hfree)
    (Locks.mem_callers_take_iff.mpr ⟨c, hc, rfl⟩) Caller.afterTake_number (fun stage => ?_)
    (fun hended => ?_) sandbox store
  · rw [Function.update_idem]
    exact holds_setStage hold stage
  · rw [Function.update_self, holds_of_hasBegun hbegun hended]

theorem Orderly.work (h : f.Orderly) (hworks : f.Works t i) (hbegun : stage.HasBegun)
    (sandbox : Sandbox) (store : σ) : (f.proceed i stage sandbox store).Orderly := by
  obtain ⟨c, hc, hnumber, _, _⟩ := (h.calls i t true).mp hworks
  obtain ⟨old, hold⟩ := exists_stage hworks.2
  refine proceed_agrees h hc hnumber (holds_setStage hold) (fun hended => ?_) sandbox store
  rw [hworks.2, holds_of_hasBegun hbegun hended]

theorem Orderly.cancel (h : f.Orderly) (hwaits : f.Waits t i) (verdict : Verdict) :
    (f.proceed i (.ended verdict) f.sandbox f.store).Orderly := by
  obtain ⟨c, hc, hnumber, _, _⟩ := (h.calls i t false).mp hwaits
  obtain ⟨old, hold⟩ := exists_stage hwaits.2
  exact proceed_agrees h hc hnumber (holds_setStage hold) (fun hended => by cases hended) _ _

/-- **A step keeps the locks in order.** -/
theorem Orderly.step (h : f.Orderly) (hstep : Step f f') : f'.Orderly := by
  cases hstep with
  | @refuse i _ e _ called _ =>
    have hnone : f.holds? i = none := by rw [holds?, called]; rfl
    have hended : Stage.holds? (.ended (.error (.configuration e))) = f.holds? i := hnone.symm
    change f.locks.Agrees f.triple? (f.setStage i _).holds?
    rw [holds_setStage called, hended, Function.update_eq_self]
    exact h
  | @enter i request requested called _ =>
    have hnone : f.holds? i = none := by rw [holds?, called]; rfl
    have htriple : f.triple? i = some request.triple := by rw [triple?, requested]; rfl
    change (f.locks.enter request.triple i).Agrees f.triple? (f.setStage i .waiting).holds?
    rw [holds_setStage called]
    exact Locks.Agrees.enter h htriple hnone
  | begin can begun sandbox store => exact h.begin can begun sandbox store
  | work works begun sandbox store => exact h.work works begun sandbox store
  | cancel waits verdict => exact h.cancel waits verdict

theorem Orderly.steps (h : f.Orderly) (hsteps : ReflTransGen Step f f') : f'.Orderly := by
  induction hsteps with
  | refl => exact h
  | tail _ hstep ih => exact ih.step hstep

theorem orderly_start (requests : List (Request σ)) (sandbox : Sandbox) (store : σ) :
    (start requests sandbox store).Orderly := by
  refine ⟨Locks.sound_empty, fun i t holds => iff_of_false ?_ ?_⟩
  · rintro ⟨_, hholds⟩
    obtain ⟨stage, hstage, hholds⟩ := Option.bind_eq_some_iff.mp hholds
    obtain ⟨_, _, rfl⟩ := List.mem_map.mp (List.mem_of_getElem? hstage)
    cases hholds
  · rintro ⟨c, hc, _⟩
    cases hc

/-- **The locks are in order at any time.** -/
theorem Reached.orderly (h : Reached requests f) : f.Orderly := by
  obtain ⟨sandbox, store, hsteps⟩ := h
  exact (orderly_start requests sandbox store).steps hsteps

/-! ## What is kept in order -/

namespace Orderly

/-- At most one operation works on a triple. -/
theorem eq_of_works (h : f.Orderly) (hi : f.Works t i) (hj : f.Works t j) : i = j := by
  obtain ⟨c, hc, rfl, hct, hcholds⟩ := (h.calls i t true).mp hi
  obtain ⟨d, hd, rfl, hdt, hdholds⟩ := (h.calls j t true).mp hj
  have hlock := h.sound.lock_eq hc hd (hct.trans hdt.symm)
  rw [h.sound.exclusive c hc d hd hcholds hdholds hlock]

/-- An operation that awaits a lock may take it unless one on the same triple works. -/
theorem canBegin_iff (h : f.Orderly) (hwaits : f.Waits t i) :
    f.CanBegin i ↔ ∀ j, ¬ f.Works t j := by
  obtain ⟨c, hc, rfl, rfl, hcholds⟩ := (h.calls i t false).mp hwaits
  constructor
  · rintro ⟨c', hc', hnumber, _, hfree⟩ j hworks
    obtain rfl := h.sound.eq_of_number_eq hc' hc hnumber
    obtain ⟨d, hd, _, hdt, hdholds⟩ := (h.calls j _ true).mp hworks
    rw [Locks.isHeld_iff.mpr ⟨d, hd, h.sound.lock_eq hd hc' hdt, hdholds⟩] at hfree
    cases hfree
  · intro hnone
    refine ⟨c, hc, rfl, hcholds, Bool.eq_false_iff.mpr fun hheld => ?_⟩
    obtain ⟨d, hd, hlock, hdholds⟩ := Locks.isHeld_iff.mp hheld
    exact hnone d.number
      ((h.calls _ _ true).mpr ⟨d, hd, rfl, h.sound.triple_eq hd hc hlock, hdholds⟩)

theorem exists_inProgress_iff (h : f.Orderly) :
    (∃ i, f.InProgress t i) ↔ f.locks.callersOf t ≠ [] := by
  rw [Locks.callersOf_ne_nil_iff]
  constructor
  · rintro ⟨i, hworks | hwaits⟩
    · obtain ⟨c, hc, _, ht, _⟩ := (h.calls i t true).mp hworks
      exact ⟨c, hc, ht⟩
    · obtain ⟨c, hc, _, ht, _⟩ := (h.calls i t false).mp hwaits
      exact ⟨c, hc, ht⟩
  · rintro ⟨c, hc, rfl⟩
    refine ⟨c.number, ?_⟩
    cases hholds : c.holds with
    | true => exact .inl ((h.calls _ _ true).mpr ⟨c, hc, rfl, rfl, hholds⟩)
    | false => exact .inr ((h.calls _ _ false).mpr ⟨c, hc, rfl, rfl, hholds⟩)

/-- At most all operations hold or await the lock of one triple. -/
theorem length_callersOf_le (h : f.Orderly) : (f.locks.callersOf t).length ≤ f.requests.length := by
  have hnodup : ((f.locks.callersOf t).map Caller.number).Nodup :=
    h.sound.nodup.sublist (List.filter_sublist.map _)
  have hsubset : (f.locks.callersOf t).map Caller.number ⊆ List.range f.requests.length := by
    intro i hi
    obtain ⟨c, hc, rfl⟩ := List.mem_map.mp hi
    obtain ⟨request, hrequest, _⟩ :=
      Option.map_eq_some_iff.mp (h.of_mem (Locks.mem_callersOf_iff.mp hc).1).1
    exact List.mem_range.mpr (List.getElem?_eq_some_iff.mp hrequest).1
  have hle := (hnodup.subperm hsubset).length_le
  rwa [List.length_map, List.length_range] at hle

end Orderly

/-- The locks are those of the operations, and nobody awaits a lock that is free. -/
structure Served (f : Fleet σ) : Prop where
  orderly : f.Orderly
  serves : ∀ t, f.locks.Serves t

theorem served_start (requests : List (Request σ)) (sandbox : Sandbox) (store : σ) :
    (start requests sandbox store).Served :=
  ⟨orderly_start requests sandbox store, fun _ hne => absurd rfl hne⟩

/-- Then an operation waits only for one on its triple that works. -/
theorem Served.exists_works (h : f.Served) (hwaits : f.Waits t i) : ∃ j, f.Works t j := by
  obtain ⟨d, hd, hholds⟩ := h.serves t (h.orderly.exists_inProgress_iff.mp ⟨i, .inr hwaits⟩)
  obtain ⟨hd, ht⟩ := Locks.mem_callersOf_iff.mp hd
  exact ⟨d.number, (h.orderly.calls _ _ true).mpr ⟨d, hd, rfl, ht, hholds⟩⟩

end

end Fleet

end Rollout
