import Rollout.Proofs.Execution.Accounted

/-!
# What an action waits for before it is started

An action is started only after everything that it waits for, directly or through other actions, has
succeeded; and nothing else keeps it from being started.  A create or update waits for the creates
and updates of the resources it depends on.  A resource that needs no action has nothing to wait for
and passes nothing on, so it takes an unbroken chain of actions for one to wait for another one at a
distance.

* `Run.Sound.succeeded_of_begun`, `Run.Inv.skipped_of_transGen` : what waiting comes to;
* `Run.gates_iff` : an action is kept from starting by those that it waits for, and by no others;
* `Plan.waits_of_needsApplied` : an unbroken chain of creates and updates;
* `Execution.applies_gated` : what such a chain guarantees in every execution;
* `Execution.broken_chain` : a chain that is broken by a resource without an action guarantees
  nothing.
-/

set_option autoImplicit false

namespace Rollout

open Relation

namespace Run

variable {s : Schedule} {limit : Int} {outcome : Nat → Outcome} {run run' : Run} {i j : Nat}

/-! ## What waiting comes to -/

/-- **Once an action has been started, all it waits for has succeeded**, directly or through
others. -/
theorem Sound.succeeded_of_begun (h : Sound s outcome run)
    (hpath : TransGen (Walk.Edge s.waits) i j) {st : Status} (hi : run.status? i = some st)
    (hbegun : st.IsBegun) : run.status? j = some .succeeded := by
  induction hpath with
  | single e => exact h.granted i st hi hbegun _ e
  | tail _ e ih => exact h.granted _ _ ih (.inr (.inl rfl)) _ e

/-- An action that may be started waits for nothing that has not succeeded. -/
theorem Sound.succeeded_of_ready (h : Sound s outcome run) (hready : isReady s run i = true)
    (hpath : TransGen (Walk.Edge s.waits) i j) : run.status? j = some .succeeded := by
  obtain ⟨_, hwaits⟩ := isReady_iff.mp hready
  obtain ⟨k, e, hrest⟩ := TransGen.head'_iff.mp hpath
  have hk := hwaits k e
  rcases reflTransGen_iff_eq_or_transGen.mp hrest with rfl | hrest
  · exact hk
  · exact h.succeeded_of_begun hrest hk (.inr (.inl rfl))

/-- **What waits for an action that failed or was skipped is skipped.** -/
theorem Inv.skipped_of_transGen (hs : s.Lawful) (h : Inv s outcome run)
    (hpath : TransGen (Walk.Edge s.waits) i j) {st : Status} (hj : run.status? j = some st)
    (hlost : st.IsLost) : run.status? i = some .skipped := by
  rcases hlost with rfl | rfl
  · exact (h.skipped_iff hs).mpr ⟨j, hpath, hj⟩
  · obtain ⟨k, hrest, hk⟩ := (h.skipped_iff hs).mp hj
    exact (h.skipped_iff hs).mpr ⟨k, hpath.trans hrest, hk⟩

/-- An action that was skipped is left alone. -/
theorem Step.kept_skipped (h : Inv s outcome run) (hstep : Step s limit outcome run run')
    (hi : run.status? i = some .skipped) : run'.status? i = some .skipped := by
  cases hstep with
  | @start now k ready room =>
    obtain ⟨hpending, _⟩ := isReady_iff.mp ready
    have hne : i ≠ k := by
      rintro rfl
      rw [hi] at hpending
      cases hpending
    rw [status?_start now (lt_of_status? hpending), if_neg hne]
    exact hi
  | @settle now k running =>
    have hne : i ≠ k := by
      rintro rfl
      have hrunning := (h.mem_running i).mp running
      rw [hi] at hrunning
      cases hrunning
    rcases (h.toSound.status?_settle running now (outcome k)).2 i hne with heq | ⟨hpending, _⟩
    · rw [heq, hi]
    · rw [hi] at hpending
      cases hpending

theorem Reached.kept_skipped (hs : s.Lawful) (h : Reached s limit outcome run)
    (hpath : ReflTransGen (Step s limit outcome) run run') (hi : run.status? i = some .skipped) :
    run'.status? i = some .skipped := by
  induction hpath with
  | refl => exact hi
  | tail hpath hstep ih =>
    have hinv := Reached.inv hs (ReflTransGen.trans h hpath)
    exact hstep.kept_skipped hinv ih

/-! ## What does not keep an action from starting -/

theorem Sound.status?_settle_succeeded (h : Sound s outcome run) (hi : i ∈ run.running)
    (now : DateTime) (returned : Option Resource) (k : Nat) :
    (run.settle s now (i, .succeeded returned)).status? k
      = if k = i then some .succeeded else run.status? k := by
  have hlt := lt_of_status? ((h.mem_running i).mp hi)
  obtain ⟨c, hc⟩ := s.exists_action (h.size ▸ hlt)
  rw [settle_succeeded hc]
  exact status?_record { run with running := run.running.erase i }
    (f := fun r => { r with status := .succeeded, finishedAt := some now }) (fun _ => rfl) hlt k

/-- Where nothing is running, an action that may be started and succeeds can be carried out, without
anything else being touched. -/
theorem Reached.carry_out (hs : s.Lawful) (hlimit : 0 < limit) (h : Reached s limit outcome run)
    (hidle : run.running = []) (hready : isReady s run i = true) {returned : Option Resource}
    (hsucceeds : outcome i = .succeeded returned) :
    ∃ run', Reached s limit outcome run' ∧ run'.running = [] ∧
      ∀ k, run'.status? k = if k = i then some .succeeded else run.status? k := by
  obtain ⟨hpending, _⟩ := isReady_iff.mp hready
  have hstarted := (h.inv hs).start hready default
  have hroom : (run.running.length : Int) < limit := by
    rw [hidle]
    exact hlimit
  have hrunning : (run.start default i).running = [i] := by
    rw [Run.start, hidle, List.nil_append]
  have hmem : i ∈ (run.start default i).running := by
    rw [hrunning]
    exact List.mem_singleton_self i
  refine ⟨_, (h.tail (.start default hready hroom)).tail (.settle default hmem), ?_, ?_⟩
  · rw [settle_running, hrunning, List.erase_cons_head]
  · intro k
    rw [hsucceeds, hstarted.toSound.status?_settle_succeeded hmem,
      status?_start default (lt_of_status? hpending)]
    split <;> rfl

/-- Of the actions visited, those that one action waits for were carried out, and no others were
started. -/
structure CarriedOut (s : Schedule) (i : Nat) (visited : List Nat) (run : Run) : Prop where
  idle : run.running = []
  succeeded : ∀ k < s.size, k ∈ visited → TransGen (Walk.Edge s.waits) i k →
    run.status? k = some .succeeded
  pending : ∀ k < s.size, ¬ (k ∈ visited ∧ TransGen (Walk.Edge s.waits) i k) →
    run.status? k = some .pending

theorem init_carriedOut (s : Schedule) (i : Nat) : CarriedOut s i [] (init s) := by
  constructor
  case idle => rfl
  case succeeded =>
    intro k _ hk
    cases hk
  case pending =>
    intro k hk _
    have hlt : k < (init s).records.length := by
      rw [length_init]
      exact hk
    obtain ⟨st, hst⟩ := status?_isSome hlt
    rw [hst, status?_init hst]

/-- The next action in the order of the schedule is carried out, if it is one to wait for. -/
theorem CarriedOut.snoc (hs : s.Lawful) (hlimit : 0 < limit)
    (hsucceeds : ∀ k, ∃ returned, outcome k = .succeeded returned) {visited rest : List Nat} {k : Nat}
    (horder : s.order = visited ++ k :: rest) (hreached : Reached s limit outcome run)
    (h : CarriedOut s i visited run) :
    ∃ run', Reached s limit outcome run' ∧ CarriedOut s i (visited ++ [k]) run' := by
  by_cases hpath : TransGen (Walk.Edge s.waits) i k
  · have hksize : k < s.size := hs.orders.mem_iff.mp (by simp [horder])
    have hnot : k ∉ visited := by
      have hnodup := hs.orders.nodup
      rw [horder] at hnodup
      intro hmem
      exact (List.nodup_append.mp hnodup).2.2 k hmem k List.mem_cons_self rfl
    -- what the action waits for was carried out before it
    have hready : isReady s run k = true := by
      refine isReady_iff.mpr ⟨h.pending k hksize fun hk => hnot hk.1, ?_⟩
      intro j hj
      have hjsize := (hs.below k j hj).2
      exact h.succeeded j hjsize (hs.orders.behind visited k rest horder j hj hjsize)
        (hpath.tail hj)
    obtain ⟨returned, hreturned⟩ := hsucceeds k
    obtain ⟨run', hreached', hidle', hafter⟩ :=
      hreached.carry_out hs hlimit h.idle hready hreturned
    refine ⟨run', hreached', hidle', ?_, ?_⟩
    · intro l hl hmem hil
      rw [hafter l]
      split
      · rfl
      · rename_i hlk
        have hvisited := (List.mem_append.mp hmem).resolve_right fun h => hlk (List.mem_singleton.mp h)
        exact h.succeeded l hl hvisited hil
    · intro l hl hnone
      rw [hafter l, if_neg]
      · exact h.pending l hl fun hboth => hnone ⟨List.mem_append_left _ hboth.1, hboth.2⟩
      · rintro rfl
        exact hnone ⟨List.mem_append_right _ (List.mem_singleton_self l), hpath⟩
  · refine ⟨run, hreached, h.idle, ?_, ?_⟩
    · intro l hl hmem hil
      rcases List.mem_append.mp hmem with hmem | hmem
      · exact h.succeeded l hl hmem hil
      · rw [List.mem_singleton.mp hmem] at hil
        exact absurd hil hpath
    · intro l hl hnone
      exact h.pending l hl fun hboth => hnone ⟨List.mem_append_left _ hboth.1, hboth.2⟩

/-- Where every action succeeds, those that one action waits for can be carried out, and no others.
They are taken in the order of the schedule. -/
theorem exists_carriedOut (hs : s.Lawful) (hlimit : 0 < limit) (i : Nat)
    (hsucceeds : ∀ k, ∃ returned, outcome k = .succeeded returned) :
    ∀ visited rest, s.order = visited ++ rest →
      ∃ run, Reached s limit outcome run ∧ CarriedOut s i visited run := by
  intro visited
  induction visited using List.reverseRecOn with
  | nil =>
    intro rest _
    exact ⟨init s, .refl, init_carriedOut s i⟩
  | append_singleton visited k ih =>
    intro rest horder
    have horder' : s.order = visited ++ k :: rest := by
      rw [horder, List.append_assoc, List.singleton_append]
    obtain ⟨run, hreached, hcarried⟩ := ih (k :: rest) horder'
    exact hcarried.snoc hs hlimit hsucceeds horder' hreached

/-- **An action is kept from starting by those that it waits for**, directly or through others, **and
by no others**: any other one may still be pending, or running itself, when it is started. -/
theorem gates_iff (hs : s.Lawful) (hlimit : 0 < limit) (hi : i < s.size) :
    (∀ outcome run, Reached s limit outcome run → ∀ st, run.status? i = some st → st.IsBegun →
      run.status? j = some .succeeded) ↔ TransGen (Walk.Edge s.waits) i j := by
  constructor
  · intro hgates
    by_contra hpath
    obtain ⟨run, hreached, hcarried⟩ := exists_carriedOut hs hlimit i
      (fun _ => ⟨none, rfl⟩) s.order [] (by simp)
    have hself : ¬ TransGen (Walk.Edge s.waits) i i := hs.orders.acyclic hs.below i
    have hpending : run.status? i = some .pending := hcarried.pending i hi fun h => hself h.2
    have hready : isReady s run i = true := by
      refine isReady_iff.mpr ⟨hpending, fun k hk => ?_⟩
      have hksize := (hs.below i k hk).2
      exact hcarried.succeeded k hksize (hs.orders.mem_iff.mpr hksize) (.single hk)
    have hroom : (run.running.length : Int) < limit := by
      rw [hcarried.idle]
      exact hlimit
    have hnow := status?_start default (lt_of_status? hpending)
    have hgranted := hgates _ _ (hreached.tail (.start default hready hroom)) .running
      (by rw [hnow, if_pos rfl]) (.inl rfl)
    rw [hnow] at hgranted
    split at hgranted
    · cases hgranted
    · have hjsize : j < s.size := by
        rw [← (hreached.inv hs).size]
        exact lt_of_status? hgranted
      rw [hcarried.pending j hjsize fun h => hpath h.2] at hgranted
      cases hgranted
  · intro hpath outcome run hreached st hst hbegun
    exact (hreached.inv hs).toSound.succeeded_of_begun hpath hst hbegun

end Run

/-! ## Chains of actions -/

namespace Plan

variable {p : Plan} {desired baseline : List Resource} {a b : String} {i j : Nat} {c d : Change}

/-- A resource is created or updated. -/
def Applies (p : Plan) (id : String) : Prop :=
  ∃ c ∈ p.actions, (c.action = .create ∨ c.action = .update) ∧ c.id = id

/-- A resource depends on one that is created or updated. -/
def NeedsApplied (p : Plan) (desired : List Resource) (a b : String) : Prop :=
  Resource.Needs desired a b ∧ p.Applies b

theorem exists_desired (h : c.action = .create ∨ c.action = .update) :
    ∃ d, c.desired? = some d := by
  refine ⟨c.resource, Change.desired?_eq_some_iff.mpr ⟨?_, rfl⟩⟩
  rcases h with h | h <;> rw [h] <;> decide

/-- A create or update waits for those of the resources it depends on. -/
theorem waits_of_needs (hplan : p.Compares desired baseline) (hsingle : p.Single)
    (hdesired : (Resource.ids desired).Nodup)
    (hi : p.actions[i]? = some c) (hc : c.action = .create ∨ c.action = .update)
    (hj : p.actions[j]? = some d) (hd : d.action = .create ∨ d.action = .update)
    (hneeds : Resource.Needs desired c.id d.id) : p.Waits baseline i j := by
  obtain ⟨wanted, hwanted⟩ := exists_desired hc
  obtain ⟨other, hother⟩ := exists_desired hd
  obtain ⟨hcmem, _⟩ := mem_actions_iff.mp (List.mem_of_getElem? hi)
  obtain ⟨hmem, hid⟩ := hplan.of_desired hcmem hwanted
  obtain ⟨r, hr, hrid, hdep, _⟩ := hneeds
  have hsame : r = wanted := Resource.eq_of_id_eq hdesired hr hmem (hrid.trans hid)
  rw [hsame] at hdep
  exact hsingle.waits_iff.mpr ⟨c, d, hi, hj, waitsFor_of_needs hwanted hother hdep⟩

/-- **A chain of resources that are created or updated is a chain of actions that wait.** -/
theorem waits_of_needsApplied (hplan : p.Compares desired baseline) (hsingle : p.Single)
    (hdesired : (Resource.ids desired).Nodup) (hpath : TransGen (p.NeedsApplied desired) a b)
    (hj : p.actions[j]? = some d) (hd : d.action = .create ∨ d.action = .update)
    (hb : d.id = b) (hi : p.actions[i]? = some c) (hc : c.action = .create ∨ c.action = .update)
    (ha : c.id = a) : TransGen (p.Waits baseline) i j := by
  induction hpath using TransGen.head_induction_on generalizing i c with
  | single e =>
    obtain ⟨hneeds, _⟩ := e
    rw [← ha, ← hb] at hneeds
    exact .single (waits_of_needs hplan hsingle hdesired hi hc hj hd hneeds)
  | head e _ ih =>
    obtain ⟨hneeds, c', hc', haction, hid⟩ := e
    obtain ⟨k, hk⟩ := List.mem_iff_getElem?.mp hc'
    rw [← ha, ← hid] at hneeds
    exact .head (waits_of_needs hplan hsingle hdesired hi hc hk haction hneeds) (ih hk haction hid)

end Plan

/-! ### A broken chain

Of three resources, `r` depends on `m` and `m` on `d`.  Both `d` and `r` are to be updated, and `m`
stays as it is. -/

namespace Broken

/-- The resource at the end of the chain. -/
def d (x : Int) : Resource := { id := "d", backend := .kubernetes, attributes := [("x", .int x)] }

/-- The resource in the middle, which stays as it is. -/
def m : Resource := { id := "m", backend := .kubernetes, dependsOn := ["d"] }

/-- The resource at the beginning of the chain. -/
def r (x : Int) : Resource :=
  { id := "r", backend := .kubernetes, attributes := [("x", .int x)], dependsOn := ["m"] }

/-- The resources before the updates. -/
def recorded : List Resource := [d 1, m, r 1]

/-- The resources after the updates. -/
def desired : List Resource := [d 2, m, r 2]

/-- The update of `d`. -/
def updateD : Change :=
  { id := "d", sides := .update (d 1) (d 2), differences := [("x", ⟨.int 1, .int 2⟩)] }

/-- The update of `r`. -/
def updateR : Change :=
  { id := "r", sides := .update (r 1) (r 2), differences := [("x", ⟨.int 1, .int 2⟩)] }

/-- The plan of the updates. -/
def plan : Plan := ⟨[updateD, { id := "m", sides := .noChange m m }, updateR]⟩

/-- The schedule of the updates. -/
def schedule : Schedule := ⟨[updateD, updateR], [[], []], [0, 1]⟩

/-- The update of `d` fails, that of `r` succeeds. -/
def outcome (i : Nat) : Outcome := if i = 0 then .failed "boom" else .succeeded none

/-- The update of `d` has failed. -/
def failed : Run := ((Run.init schedule).start default 0).settle schedule default (0, outcome 0)

/-- After that, `r` was updated. -/
def final : Run := (failed.start default 1).settle schedule default (1, outcome 1)

theorem reached_failed : Run.Reached schedule 1 outcome failed :=
  .tail (.single (.start default rfl (by decide))) (.settle default (List.mem_singleton_self 0))

theorem reached_final : Run.Reached schedule 1 outcome final :=
  (reached_failed.tail (.start default rfl (by decide))).tail
    (.settle default (List.mem_singleton_self 1))

theorem needs : TransGen (Resource.Needs desired) "r" "d" := by
  refine .head (b := "m") ⟨r 2, ?_, rfl, ?_, ?_⟩ (.single ⟨m, ?_, rfl, ?_, ?_⟩) <;> decide

/-- The plan that creates all three resources, where none is recorded: now the chain is unbroken. -/
def creates : Plan :=
  ⟨[{ id := "d", sides := .create (d 2) }, { id := "m", sides := .create m },
    { id := "r", sides := .create (r 2) }]⟩

/-- The schedule of the creates. -/
def inTurn : Schedule := ⟨creates.changes, [[], [0], [1]], [0, 1, 2]⟩

/-- The creation of `d` has failed. -/
def halted : Run := ((Run.init inTurn).start default 0).settle inTurn default (0, outcome 0)

theorem reached_halted : Run.Reached inTurn 1 outcome halted :=
  .tail (.single (.start default rfl (by decide))) (.settle default (List.mem_singleton_self 0))

theorem needsApplied : TransGen (creates.NeedsApplied desired) "r" "d" := by
  refine .head (b := "m") ⟨⟨r 2, ?_, rfl, ?_, ?_⟩, ?_⟩ (.single ⟨⟨m, ?_, rfl, ?_, ?_⟩, ?_⟩)
  case refine_4 => exact ⟨{ id := "m", sides := .create m }, by decide, .inl rfl, rfl⟩
  case refine_8 => exact ⟨{ id := "d", sides := .create (d 2) }, by decide, .inl rfl, rfl⟩
  all_goals decide

end Broken

namespace Execution

variable {plan : Plan} {desired baseline : List Resource} {s : Schedule} {i j : Nat} {c d : Change}

/-- Whichever way an execution ends, the records it leaves are those of a run that was given up when
nothing was running. -/
theorem Ends.exists_given_up {e : Execution} {start sandbox : Sandbox} {ending : Ending}
    {result : ExecutionResult} (h : Ends e start ending sandbox)
    (hresult : ending = .finished result ∨
      ∃ cause adrift, ending = .interrupted cause (some result) adrift) :
    ∃ run, Reached e.schedule e.limits start (run, sandbox) ∧ run.running = [] ∧
      result.records = run.cancelPending.records := by
  cases h with
  | finished reached idle =>
    rcases hresult with hresult | ⟨_, _, hresult⟩ <;> cases hresult
    exact ⟨_, reached, idle, rfl⟩
  | interrupted cause reached idle =>
    rcases hresult with hresult | ⟨_, _, hresult⟩ <;> cases hresult
    exact ⟨_, reached, idle, rfl⟩
  | dropped cause _ _ _ => rcases hresult with hresult | ⟨_, _, hresult⟩ <;> cases hresult

/-- The records of a run that was given up show what its actions waited for. -/
theorem gated_cancelPending {limit : Int} {outcome : Nat → Outcome} {run : Run} (hs : s.Lawful)
    (hreached : Run.Reached s limit outcome run) (hidle : run.running = [])
    (hwaits : TransGen (Walk.Edge s.waits) i j) {x y : ActionRecord}
    (hx : run.cancelPending.records[i]? = some x) (hy : run.cancelPending.records[j]? = some y) :
    (x.startedAt.isSome = true → y.status = .succeeded) ∧
      (y.status.IsLost → x.status = .skipped ∧ x.startedAt = none) := by
  have hinv := hreached.inv hs
  constructor
  · intro hstarted
    have hbegun : ∃ st, run.status? i = some st ∧ st.IsBegun := by
      rcases Run.ended_of_started hs hreached hidle hx hstarted with ⟨hst, _⟩ | ⟨hst, _⟩
      · have hstatus := (Run.status_cancelPending_iff hx (by decide) (by decide)).mp hst
        exact ⟨_, hstatus, .inr (.inl rfl)⟩
      · have hstatus := (Run.status_cancelPending_iff hx (by decide) (by decide)).mp hst
        exact ⟨_, hstatus, .inr (.inr rfl)⟩
    obtain ⟨st, hst, hbegun⟩ := hbegun
    exact (Run.status_cancelPending_iff hy (by decide) (by decide)).mpr
      (hinv.toSound.succeeded_of_begun hwaits hst hbegun)
  · intro hlost
    have hj : run.status? j = some y.status := by
      refine (Run.status_cancelPending_iff hy ?_ ?_).mp rfl
      · exact hlost.ne_pending
      · rcases hlost with hst | hst <;> rw [hst] <;> decide
    have hskipped := hinv.skipped_of_transGen hs hwaits hj hlost
    have hi := (Run.status_cancelPending_iff hx (by decide) (by decide)).mpr hskipped
    refine ⟨hi, (Run.unstarted_cancelPending_iff hs hreached hx).mpr ?_⟩
    rw [hi]
    rintro (h | h | h) <;> cases h

/-- **A create or update that reaches another one by resources which are themselves created or
updated** is started only after the other one has succeeded, and never once that has failed or was
skipped; the records of every execution show it. -/
theorem applies_gated (hcompute : Plan.compute desired baseline = .ok plan)
    (hschedule : Schedule.of? plan baseline = .ok s)
    (hi : plan.actions[i]? = some c) (hc : c.action = .create ∨ c.action = .update)
    (hj : plan.actions[j]? = some d) (hd : d.action = .create ∨ d.action = .update)
    (hpath : TransGen (plan.NeedsApplied desired) c.id d.id) :
    (∀ limit outcome run, Run.Reached s limit outcome run →
      (Run.isReady s run i = true → run.status? j = some .succeeded) ∧
      (∀ st, run.status? i = some st → st.IsBegun → run.status? j = some .succeeded) ∧
      ∀ st, run.status? j = some st → st.IsLost →
        ∀ run', ReflTransGen (Run.Step s limit outcome) run run' →
          run'.status? i = some .skipped) ∧
    ∀ (σ : Type) (report : ExecutionResult → σ → Reception × σ) (context : σ) (limits : Limits)
      (interrupts : Interrupts) (stopped : Bool) (now : Instant) (clock : DateTime)
      (start : Sandbox) (ending : Ending) (result : ExecutionResult),
      ((init plan baseline s limits interrupts stopped now).complete clock report start context).1
        = ending →
      (ending = .finished result ∨
        ∃ cause adrift, ending = .interrupted cause (some result) adrift) →
      ∀ x y, result.records[i]? = some x → result.records[j]? = some y →
        (x.startedAt.isSome = true → y.status = .succeeded) ∧
        (y.status.IsLost → x.status = .skipped ∧ x.startedAt = none) := by
  have hs := Schedule.lawful_of hschedule
  have hplan := Plan.compares_of hcompute
  obtain ⟨_, _, hwanted, _, _, _⟩ := Plan.compute_inv hcompute
  have hdesired := (Graph.Accepted.of_build hwanted).nodup
  have hwaits : TransGen (Walk.Edge s.waits) i j := by
    rw [Schedule.edge_eq hschedule]
    exact Plan.waits_of_needsApplied hplan (Plan.single_of hcompute) hdesired hpath hj hd rfl hi hc rfl
  constructor
  · intro limit outcome run hreached
    have hinv := hreached.inv hs
    refine ⟨fun hready => hinv.toSound.succeeded_of_ready hready hwaits,
      fun st hst hbegun => hinv.toSound.succeeded_of_begun hwaits hst hbegun, ?_⟩
    intro st hst hlost run' hpath'
    exact hreached.kept_skipped hs hpath' (hinv.skipped_of_transGen hs hwaits hst hlost)
  · intro σ report context limits interrupts stopped now clock start ending result hending hresult
    have hends : Ends (init plan baseline s limits interrupts stopped now) start ending _ :=
      hending ▸ complete_ends hs plan baseline start now clock interrupts stopped report context
    obtain ⟨run, hreached, hidle, hrecords⟩ := hends.exists_given_up hresult
    rw [hrecords]
    intro x y hx hy
    exact gated_cancelPending hs (Reached.run hreached) hidle hwaits hx hy

/-- Where all three resources are created, the creation of `r` is skipped for that of `d`. -/
theorem applies_gated_creates :
    Plan.compute Broken.desired [] = .ok Broken.creates ∧
      Schedule.of? Broken.creates [] = .ok Broken.inTurn ∧
      TransGen (Broken.creates.NeedsApplied Broken.desired) "r" "d" ∧
      Broken.halted.status? 0 = some .failed ∧ Broken.halted.status? 2 = some .skipped := by
  have hcompute : Plan.compute Broken.desired [] = .ok Broken.creates := rfl
  have hschedule : Schedule.of? Broken.creates [] = .ok Broken.inTurn := rfl
  have hgated := applies_gated (i := 2) (j := 0) hcompute hschedule rfl (.inl rfl) rfl (.inl rfl)
    Broken.needsApplied
  obtain ⟨_, _, hskipped⟩ := hgated.1 1 Broken.outcome Broken.halted Broken.reached_halted
  exact ⟨hcompute, hschedule, Broken.needsApplied, rfl, hskipped .failed rfl (.inl rfl) _ .refl⟩

/-- **A chain that is broken by a resource without an action guarantees nothing**: `r` depends on `m`
and `m` on `d`, and `r` is updated although the update of `d` has failed. -/
theorem broken_chain :
    (∃ g, Graph.build true Broken.desired = .ok g) ∧
      (∃ g, Graph.build false Broken.recorded = .ok g) ∧
      Plan.compute Broken.desired Broken.recorded = .ok Broken.plan ∧
      Schedule.of? Broken.plan Broken.recorded = .ok Broken.schedule ∧
      Broken.schedule.actions = [Broken.updateD, Broken.updateR] ∧
      TransGen (Resource.Needs Broken.desired) Broken.updateR.id Broken.updateD.id ∧
      Run.Reached Broken.schedule 1 Broken.outcome Broken.failed ∧
      Broken.failed.statuses = [.failed, .pending] ∧
      Run.isReady Broken.schedule Broken.failed 1 = true ∧
      Run.Reached Broken.schedule 1 Broken.outcome Broken.final ∧
      Broken.final.statuses = [.failed, .succeeded] :=
  ⟨⟨_, rfl⟩, ⟨_, rfl⟩, rfl, rfl, rfl, Broken.needs, Broken.reached_failed, rfl, rfl,
    Broken.reached_final, rfl⟩

end Execution

end Rollout
