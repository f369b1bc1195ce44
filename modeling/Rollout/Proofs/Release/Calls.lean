import Rollout.Release.Call
import Rollout.Proofs.Release.Lives

/-!
# Sequences of calls

A call that refuses halfway could leave behind what it had written before.  No call does: each one is
made as a whole or not at all, and `perform_cases` says when.  A sequence of calls goes on after a
refusal, and its turns tell what became of the release.

* `Edit.run_succeed`, `Edit.run_fail` : the calls that write before they move are made at once;
* `Call.perform_cases` : a call is permitted and has its effect, or it is refused;
* `Release.turns` : the turns of a sequence of calls;
* `Turn.Regular` : what one turn keeps;
* `Release.turns_regular` : what a sequence of calls keeps.
-/

set_option autoImplicit false

namespace Rollout.Release

variable {now : DateTime} {r : Release}

/-- The answer of a call that is made as a whole or not at all. -/
def atOnce (r : Release) :
    Except LifecycleError Release → Except LifecycleError Unit × Release
  | .ok after => (.ok (), after)
  | .error e => (.error e, r)

/-! ## The parts of a call -/

namespace Edit

theorem run_get (f : Release → Edit Unit) : (get >>= f).run.run r = (f r).run.run r := rfl

theorem run_modify (f : Release → Release) : (modify f : Edit Unit).run.run r = (.ok (), f r) := rfl

theorem run_throw (e : LifecycleError) : (throw e : Edit Unit).run.run r = (.error e, r) := rfl

theorem run_bind (a : Edit Unit) (f : Unit → Edit Unit) :
    (a >>= f).run.run r =
      match a.run.run r with
      | (.ok (), r) => (f ()).run.run r
      | (.error e, r) => (.error e, r) := by
  rw [ExceptT.run_bind, StateT.run_bind]
  rcases a.run.run r with ⟨_ | _, after⟩
  · rfl
  · rfl

theorem run_move (target : Phase) :
    (move now target).run.run r = atOnce r (r.move now target) := by
  by_cases h : r.phase.canMove target = true
  · simp only [move, stamp, Release.move, run_get, if_pos h, run_bind, run_modify, atOnce]
  · simp only [move, Release.move, run_get, if_neg h, run_bind, run_throw, atOnce]

theorem run_attachSpec (spec : List Resource) :
    (attachSpec now spec).run.run r = atOnce r (r.attachSpec now spec) := by
  by_cases h : r.phase = .generating
  · simp only [attachSpec, stamp, Release.attachSpec, run_get, if_pos h, run_bind, run_modify, atOnce]
  · simp only [attachSpec, Release.attachSpec, run_get, if_neg h, run_bind, run_throw, atOnce]

theorem run_start (operation : Operation) :
    (start now operation).run.run r = atOnce r (r.start now operation) := by
  by_cases h : operation.needsSpec = true ∧ r.spec = none
  · simp only [start, Release.start, run_get, if_pos h, run_bind, run_throw, atOnce]
  · simp only [start, Release.start, run_get, if_neg h, run_move]

theorem run_checkpoint (state : Option (List Resource)) :
    (checkpoint now state).run.run r = atOnce r (r.checkpoint now state) := by
  by_cases h : r.phase.isMutating = true
  · simp only [checkpoint, stamp, Release.checkpoint, run_get, if_pos h, run_bind, run_modify, atOnce]
  · simp only [checkpoint, Release.checkpoint, run_get, if_neg h, run_bind, run_throw, atOnce]

theorem run_settle (state : Option (List Resource)) (required : Bool) :
    (settle state required).run.run r = atOnce r (r.settle state required) := by
  cases state with
  | none =>
    cases required with
    | true => rfl
    | false => rfl
  | some state =>
    by_cases h : r.phase.isMutating = true
    · simp only [settle, Release.settle, run_get, if_pos h, run_modify, atOnce]
    · simp only [settle, Release.settle, run_get, if_neg h, run_bind, run_throw, atOnce]

/-- A release that changes its state can finish, so the state it has recorded is not left behind. -/
theorem run_succeed (state : Option (List Resource)) :
    (succeed now state).run.run r = atOnce r (r.succeed now state) := by
  rw [succeed, run_get, run_bind, run_settle, Release.succeed]
  cases hsettle : r.settle state r.phase.isMutating with
  | error e => rfl
  | ok after =>
    simp only [atOnce, run_move]
    obtain ⟨_, rfl, rfl | hmutating⟩ := settle_inv hsettle
    · rfl
    · have hmove : r.phase.canMove .succeeded = true := by
        cases hphase : r.phase <;> simp_all [Phase.isMutating, Phase.canMove]
      simp only [Release.move, if_pos hmove]

/-- A release that is not finished can fail, so neither the state nor the reason is left behind. -/
theorem run_fail (reason : String) (state : Option (List Resource)) :
    (fail now reason state).run.run r = atOnce r (r.fail now reason state) := by
  rw [fail, run_get, Release.fail]
  by_cases hterminal : r.isTerminal = true
  · simp only [if_pos hterminal, run_bind, run_throw, atOnce]
  · simp only [if_neg hterminal, run_bind, run_settle]
    cases hsettle : r.settle state false with
    | error e => rfl
    | ok after =>
      simp only [atOnce, run_modify, run_move]
      obtain ⟨_, rfl, -⟩ := settle_inv hsettle
      have hmove : r.phase.canMove .failed = true := by
        cases hphase : r.phase <;> simp_all [isTerminal, Phase.isTerminal, Phase.canMove]
      simp only [Release.move, if_pos hmove]

end Edit

/-! ## One call -/

namespace Call

/-- Whether the lifecycle permits a call on a release. -/
def Permitted (r : Release) : Call → Prop
  | move target => Phase.Allowed r.phase target
  | attachSpec _ => r.phase = .generating
  | start operation => r.phase = .generating ∧ (operation.needsSpec = true → r.spec ≠ none)
  | checkpoint _ => r.phase.isMutating = true
  | succeed none => r.phase = .previewing
  | succeed (some _) => r.phase.isMutating = true
  | fail _ none => r.isTerminal = false
  | fail _ (some _) => r.phase.isMutating = true

/-- What a permitted call makes of a release. -/
def effect (now : DateTime) (r : Release) : Call → Release
  | move target => { r with phase := target, modifiedTime := now }
  | attachSpec spec => { r with spec := some spec, modifiedTime := now }
  | start operation => { r with phase := operation.phase, modifiedTime := now }
  | checkpoint state => { r with state, modifiedTime := now }
  | succeed state => { r with state := state <|> r.state, phase := .succeeded, modifiedTime := now }
  | fail reason state =>
    { r with state := state <|> r.state, error := some reason, phase := .failed, modifiedTime := now }

/-- A call that is made as a whole or not at all. -/
def attempt (now : DateTime) (r : Release) : Call → Except LifecycleError Release
  | move target => r.move now target
  | attachSpec spec => r.attachSpec now spec
  | start operation => r.start now operation
  | checkpoint state => r.checkpoint now state
  | succeed state => r.succeed now state
  | fail reason state => r.fail now reason state

/-- **Every call is made as a whole or not at all.** -/
theorem perform_eq (call : Call) : call.perform now r = atOnce r (call.attempt now r) := by
  cases call with
  | move target => exact Edit.run_move target
  | attachSpec spec => exact Edit.run_attachSpec spec
  | start operation => exact Edit.run_start operation
  | checkpoint state => exact Edit.run_checkpoint state
  | succeed state => exact Edit.run_succeed state
  | fail reason state => exact Edit.run_fail reason state

/-- An attempt succeeds with the effect when it is permitted, and is refused otherwise. -/
def Meets (permitted : Prop) (effect : Release) (answer : Except LifecycleError Release) : Prop :=
  (permitted ∧ answer = .ok effect) ∨ (¬ permitted ∧ ∃ e, answer = .error e)

theorem meets_ite {permitted : Prop} [Decidable permitted] {effect : Release} {e : LifecycleError} :
    Meets permitted effect (if permitted then .ok effect else .error e) := by
  by_cases h : permitted
  · exact .inl ⟨h, if_pos h⟩
  · exact .inr ⟨h, e, if_neg h⟩

theorem allowed_phase_iff {p : Phase} {operation : Operation} :
    Phase.Allowed p operation.phase ↔ p = .generating := by
  rw [← Phase.canMove_iff]
  cases p <;> cases operation <;> decide

theorem allowed_succeeded_iff {p : Phase} :
    Phase.Allowed p .succeeded ↔ p = .previewing ∨ p.isMutating = true := by
  rw [← Phase.canMove_iff]
  cases p <;> decide

theorem allowed_failed_iff {p : Phase} : Phase.Allowed p .failed ↔ p.isTerminal = false := by
  rw [← Phase.canMove_iff]
  cases p <;> decide

theorem move_meets (target : Phase) :
    Meets (Phase.Allowed r.phase target) { r with phase := target, modifiedTime := now }
      (r.move now target) := by
  rw [← Phase.canMove_iff]
  exact meets_ite

theorem start_meets (operation : Operation) :
    Meets ((start operation).Permitted r) ((start operation).effect now r) (r.start now operation) := by
  by_cases hnone : operation.needsSpec = true ∧ r.spec = none
  · exact .inr ⟨fun hp => hp.2 hnone.1 hnone.2, _, if_pos hnone⟩
  · rw [Release.start, if_neg hnone]
    have hiff : (start operation).Permitted r ↔ Phase.Allowed r.phase operation.phase := by
      rw [allowed_phase_iff]
      exact and_iff_left fun hneeds hspec => hnone ⟨hneeds, hspec⟩
    rw [hiff]
    exact move_meets operation.phase

theorem succeed_meets (state : Option (List Resource)) :
    Meets ((succeed state).Permitted r) ((succeed state).effect now r) (r.succeed now state) := by
  by_cases hmutating : r.phase.isMutating = true
  · cases state with
    | none =>
      have hphase : r.phase ≠ .previewing := fun hphase => by
        rw [hphase] at hmutating
        cases hmutating
      refine .inr ⟨hphase, .stateRequired r.label r.phase, ?_⟩
      simp only [Release.succeed, settle, if_pos hmutating]
    | some state =>
      have hmove : ({ r with state := some state } : Release).phase.canMove .succeeded = true :=
        Phase.canMove_iff.mpr (allowed_succeeded_iff.mpr (.inr hmutating))
      refine .inl ⟨hmutating, ?_⟩
      simp only [Release.succeed, settle, if_pos hmutating]
      exact if_pos hmove
  · cases state with
    | none =>
      have hiff : (succeed none).Permitted r ↔ Phase.Allowed r.phase .succeeded := by
        rw [allowed_succeeded_iff, or_iff_left hmutating]
        rfl
      simp only [Release.succeed, settle, if_neg hmutating]
      rw [hiff]
      exact move_meets .succeeded
    | some state =>
      refine .inr ⟨hmutating, .stateFixed r.label r.phase, ?_⟩
      simp only [Release.succeed, settle, if_neg hmutating]

theorem fail_meets (reason : String) (state : Option (List Resource)) :
    Meets ((fail reason state).Permitted r) ((fail reason state).effect now r)
      (r.fail now reason state) := by
  by_cases hterminal : r.isTerminal = true
  · refine .inr ⟨?_, .finished r.label r.phase, if_pos hterminal⟩
    cases state with
    | none => exact Bool.not_eq_false _ ▸ hterminal
    | some state =>
      intro hmutating
      have hfailed := (allowed_succeeded_iff.mpr (.inr hmutating)).unfinished
      exact absurd (hterminal.symm.trans hfailed) (by decide)
  · have hunfinished : r.isTerminal = false := Bool.eq_false_iff.mpr hterminal
    have hmove : r.phase.canMove .failed = true :=
      Phase.canMove_iff.mpr (allowed_failed_iff.mpr hunfinished)
    rw [Release.fail, if_neg hterminal]
    cases state with
    | none => exact .inl ⟨hunfinished, if_pos hmove⟩
    | some state =>
      by_cases hmutating : r.phase.isMutating = true
      · refine .inl ⟨hmutating, ?_⟩
        simp only [settle, if_pos hmutating]
        exact if_pos hmove
      · refine .inr ⟨hmutating, .stateFixed r.label r.phase, ?_⟩
        simp only [settle, if_neg hmutating]

theorem attempt_meets (now : DateTime) (r : Release) (call : Call) :
    Meets (call.Permitted r) (call.effect now r) (call.attempt now r) := by
  cases call with
  | move target => exact move_meets target
  | attachSpec spec =>
    change Meets (r.phase = .generating) _ _
    exact meets_ite
  | start operation => exact start_meets operation
  | checkpoint state =>
    change Meets (r.phase.isMutating = true) _ _
    exact meets_ite
  | succeed state => exact succeed_meets state
  | fail reason state => exact fail_meets reason state

/-- **A call is permitted and has its effect, or it is refused and has none.** -/
theorem perform_cases (now : DateTime) (call : Call) (r : Release) :
    (call.Permitted r ∧ call.perform now r = (.ok (), call.effect now r)) ∨
      (¬ call.Permitted r ∧ ∃ e, call.perform now r = (.error e, r)) := by
  rw [perform_eq]
  rcases attempt_meets now r call with ⟨hp, hok⟩ | ⟨hp, e, herror⟩
  · exact .inl ⟨hp, by rw [hok]; rfl⟩
  · exact .inr ⟨hp, e, by rw [herror]; rfl⟩

theorem Permitted.unfinished {call : Call} (h : call.Permitted r) : r.isTerminal = false := by
  have hmutating (hm : r.phase.isMutating = true) : r.isTerminal = false :=
    (allowed_succeeded_iff.mpr (.inr hm)).unfinished
  cases call with
  | move target => exact Phase.Allowed.unfinished h
  | attachSpec spec => exact congrArg Phase.isTerminal h
  | start operation => exact congrArg Phase.isTerminal h.1
  | checkpoint state => exact hmutating h
  | succeed state =>
    cases state with
    | none => exact congrArg Phase.isTerminal h
    | some state => exact hmutating h
  | fail reason state =>
    cases state with
    | none => exact h
    | some state => exact hmutating h

/-- A permitted call moves along the table of phases, or stays in its phase. -/
theorem Permitted.phase {call : Call} (h : call.Permitted r) :
    (call.effect now r).phase = r.phase ∨ Phase.Allowed r.phase (call.effect now r).phase := by
  cases call with
  | move target => exact .inr h
  | attachSpec spec => exact .inl rfl
  | start operation => exact .inr (allowed_phase_iff.mpr h.1)
  | checkpoint state => exact .inl rfl
  | succeed state =>
    refine .inr (allowed_succeeded_iff.mpr ?_)
    cases state with
    | none => exact .inl h
    | some state => exact .inr h
  | fail reason state => exact .inr (allowed_failed_iff.mpr h.unfinished)

/-- A permitted call leaves the state alone unless the release changes it. -/
theorem Permitted.state {call : Call} (h : call.Permitted r) :
    (call.effect now r).state = r.state ∨ r.phase.isMutating = true := by
  cases call with
  | move target => exact .inl rfl
  | attachSpec spec => exact .inl rfl
  | start operation => exact .inl rfl
  | checkpoint state => exact .inr h
  | succeed state =>
    cases state with
    | none => exact .inl rfl
    | some state => exact .inr h
  | fail reason state =>
    cases state with
    | none => exact .inl rfl
    | some state => exact .inr h

/-- A permitted call leaves the spec alone unless it attaches one. -/
theorem Permitted.spec {call : Call} (h : call.Permitted r) :
    (call.effect now r).spec = r.spec ∨
      r.phase = .generating ∧
        ∃ spec, call = .attachSpec spec ∧ (call.effect now r).spec = some spec := by
  cases call with
  | attachSpec spec => exact .inr ⟨h, spec, rfl, rfl⟩
  | move target => exact .inl rfl
  | start operation => exact .inl rfl
  | checkpoint state => exact .inl rfl
  | succeed state => exact .inl rfl
  | fail reason state => exact .inl rfl

/-- A release that changes its state finishes with one that the call gives. -/
theorem Permitted.recorded {state : Option (List Resource)} (h : (succeed state).Permitted r)
    (hmutating : r.phase.isMutating = true) :
    ∃ given, state = some given ∧ ((succeed state).effect now r).state = some given := by
  cases state with
  | none =>
    rw [show r.phase = .previewing from h] at hmutating
    cases hmutating
  | some given => exact ⟨given, rfl, rfl⟩

end Call

/-! ## Sequences of calls -/

/-- One call of a sequence: the release before it, its answer, and the release after it. -/
structure Turn where
  before : Release
  call : Call
  answer : Except LifecycleError Unit
  after : Release

/-- The turns of a sequence of calls, each made at its time.  A refusal does not end the sequence. -/
def turns : List (DateTime × Call) → Release → List Turn
  | [], _ => []
  | (now, call) :: rest, r =>
    let (answer, after) := call.perform now r
    ⟨r, call, answer, after⟩ :: turns rest after

namespace Turn

/-- Whether the call of a turn was refused. -/
def Refused (turn : Turn) : Prop := ∃ e, turn.answer = .error e

/-- What a turn keeps. -/
structure Regular (turn : Turn) : Prop where
  /-- A call is refused unless the lifecycle permits it. -/
  refused : turn.Refused ↔ ¬ turn.call.Permitted turn.before
  /-- A refused call leaves the whole release as it was. -/
  atomic : turn.Refused → turn.after = turn.before
  made : ¬ turn.Refused → ∃ now, turn.after = turn.call.effect now turn.before
  phase : turn.after.phase = turn.before.phase ∨ Phase.Allowed turn.before.phase turn.after.phase
  state : turn.after.state ≠ turn.before.state → turn.before.phase.isMutating = true
  spec : turn.after.spec ≠ turn.before.spec →
    turn.before.phase = .generating ∧
      ∃ spec, turn.call = .attachSpec spec ∧ turn.after.spec = some spec
  /-- A release that changes its state cannot succeed without recording one. -/
  recorded : ∀ state, turn.call = .succeed state → ¬ turn.Refused →
    turn.before.phase.isMutating = true →
      ∃ given, state = some given ∧ turn.after.state = some given

/-- Whether a turn enters the previewing or the applying phase by starting its operation. -/
def EntersWithSpec (turn : Turn) : Prop :=
  ¬ turn.Refused ∧ ∃ operation, turn.call = .start operation ∧
    (turn.after.phase = .previewing ∨ turn.after.phase = .applying)

/-- **What one turn keeps.** -/
theorem regular_perform (now : DateTime) (call : Call) (r : Release) :
    Regular ⟨r, call, (call.perform now r).1, (call.perform now r).2⟩ := by
  rcases call.perform_cases now r with ⟨hp, hperform⟩ | ⟨hp, e, hperform⟩
  · rw [hperform]
    have hmade : ¬ Refused ⟨r, call, .ok (), call.effect now r⟩ := fun ⟨e, he⟩ => by cases he
    exact
      { refused := ⟨fun h => absurd h hmade, fun h => absurd hp h⟩
        atomic := fun h => absurd h hmade
        made := fun _ => ⟨now, rfl⟩
        phase := hp.phase
        state := fun hne => hp.state.resolve_left hne
        spec := fun hne => hp.spec.resolve_left hne
        recorded := fun state hcall _ hmutating => by
          cases hcall
          exact hp.recorded hmutating }
  · rw [hperform]
    have hrefused : Refused ⟨r, call, .error e, r⟩ := ⟨e, rfl⟩
    exact
      { refused := ⟨fun _ => hp, fun _ => hrefused⟩
        atomic := fun _ => rfl
        made := fun h => absurd hrefused h
        phase := .inl rfl
        state := fun hne => absurd rfl hne
        spec := fun hne => absurd rfl hne
        recorded := fun _ _ h => absurd hrefused h }

end Turn

theorem regular_turns (calls : List (DateTime × Call)) (r : Release) :
    ∀ turn ∈ turns calls r, turn.Regular := by
  induction calls generalizing r with
  | nil => simp [turns]
  | cons made rest ih =>
    obtain ⟨now, call⟩ := made
    rintro turn (_ | ⟨_, hturn⟩)
    · exact Turn.regular_perform now call r
    · exact ih _ turn hturn

/-- What every regular turn keeps, a sequence of calls keeps. -/
theorem turns_keep (p : Release → Prop)
    (hkeeps : ∀ turn : Turn, turn.Regular → p turn.before → p turn.after)
    (calls : List (DateTime × Call)) (r : Release) (hr : p r) :
    ∀ turn ∈ turns calls r, p turn.before := by
  induction calls generalizing r with
  | nil => simp [turns]
  | cons made rest ih =>
    obtain ⟨now, call⟩ := made
    rintro turn (_ | ⟨_, hturn⟩)
    · exact hr
    · exact ih _ (hkeeps _ (Turn.regular_perform now call r) hr) turn hturn

variable {turn : Turn}

/-- The turns after one of them are those of a sequence of calls on the release it left. -/
theorem exists_turns_later {earlier later : List Turn} (calls : List (DateTime × Call)) (r : Release)
    (h : turns calls r = earlier ++ turn :: later) : ∃ rest, later = turns rest turn.after := by
  induction calls generalizing r earlier with
  | nil => simp [turns] at h
  | cons made rest ih =>
    obtain ⟨now, call⟩ := made
    cases earlier with
    | nil =>
      obtain ⟨rfl, rfl⟩ := List.cons.inj h
      exact ⟨rest, rfl⟩
    | cons first earlier => exact ih _ (List.cons.inj h).2

namespace Turn

theorem Regular.keeps_spec (h : turn.Regular) (hspec : turn.before.spec ≠ none) :
    turn.after.spec ≠ none := by
  by_cases hsame : turn.after.spec = turn.before.spec
  · rwa [hsame]
  · obtain ⟨_, spec, _, hattached⟩ := h.spec hsame
    simp [hattached]

/-- An operation that works from a spec is not started without one. -/
theorem Regular.enters (h : turn.Regular) (henters : turn.EntersWithSpec) :
    turn.after.spec ≠ none := by
  obtain ⟨hmade, operation, hcall, hphase⟩ := henters
  obtain ⟨now, hafter⟩ := h.made hmade
  have hpermitted : turn.call.Permitted turn.before := not_not.mp fun hp => hmade (h.refused.mpr hp)
  rw [hcall] at hafter hpermitted
  have hneeds : operation.needsSpec = true := by
    rw [hafter] at hphase
    cases operation with
    | preview | apply => rfl
    | destroy => exact absurd hphase (by simp [Call.effect, Operation.phase])
  rw [hafter]
  exact hpermitted.2 hneeds

/-- A finished release refuses every call. -/
theorem Regular.frozen (h : turn.Regular) (hterminal : turn.before.isTerminal = true) :
    turn.Refused ∧ turn.after = turn.before := by
  have hrefused : turn.Refused := h.refused.mpr fun hpermitted =>
    absurd (hterminal.symm.trans hpermitted.unfinished) (by decide)
  exact ⟨hrefused, h.atomic hrefused⟩

end Turn

/-- **The calls of the lifecycle are atomic, and a finished release is frozen.**  From a new release on,
every turn of a sequence of calls is regular; once previewing or applying was entered by starting the
operation there is a spec for good; and once the release is finished every call is refused and leaves it
as it is. -/
theorem turns_regular (now : DateTime) (t : Triple) (revision : Int) (baseline : List Resource)
    (calls : List (DateTime × Call)) :
    (∀ turn ∈ turns calls (new now t revision baseline), turn.Regular) ∧
    ∀ earlier turn later, turns calls (new now t revision baseline) = earlier ++ turn :: later →
      (turn.EntersWithSpec → turn.after.spec ≠ none ∧ ∀ x ∈ later, x.after.spec ≠ none) ∧
      (turn.after.isTerminal = true → ∀ x ∈ later, x.Refused ∧ x.after = turn.after) := by
  refine ⟨regular_turns calls _, fun earlier turn later hturns => ?_⟩
  have hturn : turn.Regular :=
    regular_turns calls (new now t revision baseline) turn (by simp [hturns])
  obtain ⟨rest, rfl⟩ := exists_turns_later calls _ hturns
  have hregular : ∀ x ∈ turns rest turn.after, x.Regular := regular_turns rest turn.after
  refine ⟨fun henters => ?_, fun hterminal x hx => ?_⟩
  · have hspec := hturn.enters henters
    have hbefore := turns_keep (·.spec ≠ none) (fun _ h => h.keeps_spec) rest _ hspec
    exact ⟨hspec, fun x hx => (hregular x hx).keeps_spec (hbefore x hx)⟩
  · have hfrozen (y : Turn) (hy : y.Regular) (h : y.before = turn.after) :
        y.Refused ∧ y.after = turn.after := by
      obtain ⟨hrefused, hafter⟩ := hy.frozen (h ▸ hterminal)
      exact ⟨hrefused, hafter.trans h⟩
    have hbefore := turns_keep (· = turn.after) (fun y hy h => (hfrozen y hy h).2) rest _ rfl
    exact hfrozen x (hregular x hx) (hbefore x hx)

end Rollout.Release
