import Rollout.Proofs.Execution.Ended
import Rollout.Proofs.Execution.State

/-!
# Planning from what an execution leaves

What is left of an execution is what the next plan starts from, so it has to have a graph.  It holds
recorded and desired versions side by side.  A desired version that was confirmed needs desired
versions only, since its action waited for them; but a resource that needed no action is recorded in
its desired version from the start, whatever became of the resources that it newly needs.

* `Plan.Granted` : no action succeeds before those it waits for;
* `Run.Reached.left` : so it is, whenever an execution is given up;
* `Plan.accepted_resultingState_iff` : what is left has a graph, unless a resource that needed no
  action needs one that was left in its recorded version and, in that version, needs it in turn.
-/

set_option autoImplicit false

namespace Rollout

open Relation

/-! ## Closed paths -/

/-- What every edge of a closed path preserves, given that the path leads back, holds all along it. -/
theorem lift_cycle {α : Type} {R Q : α → α → Prop} {P : α → Prop}
    (h : ∀ a b, R a b → ReflTransGen R b a → P a → P b ∧ Q a b) {x y : α} (hxy : TransGen R x y)
    (hyx : ReflTransGen R y x) (hx : P x) : P y ∧ TransGen Q x y := by
  induction hxy with
  | single e =>
    obtain ⟨hy, hq⟩ := h _ _ e hyx hx
    exact ⟨hy, .single hq⟩
  | tail hxz e ih =>
    obtain ⟨hz, hq⟩ := ih (hyx.head e)
    obtain ⟨hy, hq'⟩ := h _ _ e (hyx.trans hxz.to_reflTransGen) hz
    exact ⟨hy, hq.tail hq'⟩

namespace Plan

/-- No action succeeded before those it waits for. -/
def Granted (s : Schedule) (statuses : List Status) : Prop :=
  ∀ i, ∀ j ∈ s.waits i, statuses[i]? = some .succeeded → statuses[j]? = some .succeeded

/-- A resource that needed no action needs one that was left in its recorded version. -/
def Bridge (p : Plan) (baseline : List Resource) (statuses : List Status) (v w : String) : Prop :=
  ∃ c ∈ p.changes, ∃ current desired, c.sides = .noChange current desired ∧ c.id = v ∧
    w ∈ desired.dependsOn ∧ w ∈ Resource.ids baseline ∧
    ∀ d ∈ p.changes, d.id = w → ¬ p.Done statuses d

variable {p : Plan} {s : Schedule} {desired baseline : List Resource} {statuses : List Status}
  {applied : List (Nat × Resource)}

/-- The desired version of a resource is left. -/
def IsNew (p : Plan) (statuses : List Status) (id : String) : Prop :=
  ∃ c ∈ p.changes, p.Done statuses c ∧ ∃ d, c.desired? = some d ∧ d.id = id

/-- The recorded version of a resource is left. -/
def IsOld (p : Plan) (baseline : List Resource) (statuses : List Status) (id : String) : Prop :=
  id ∈ Resource.ids baseline ∧ ∀ c ∈ p.changes, c.id = id → ¬ p.Done statuses c

/-- A create or update waits for the creates and updates of what it needs. -/
theorem waitsFor_of_needs {c d : Change} {wanted other : Resource} (hc : c.desired? = some wanted)
    (hd : d.desired? = some other) (hneeds : d.id ∈ wanted.dependsOn) :
    c.waitsFor baseline d = true := by
  unfold Change.waitsFor
  cases hcs : c.sides <;> cases hds : d.sides <;>
    simp_all [Change.desired?, Sides.desired?]

/-- **What a confirmed create or update needs is confirmed as well**, or needed no action. -/
theorem isNew_of_needed (hcompute : compute desired baseline = .ok p)
    (hschedule : Schedule.of? p baseline = .ok s) (hgranted : Granted s statuses) {c : Change}
    {d : Resource} (hc : c ∈ p.changes) (haction : c.action ≠ .noChange)
    (hconf : p.confirmed statuses c = true) (hd : c.desired? = some d) {id : String}
    (hid : id ∈ d.dependsOn) : p.IsNew statuses id := by
  have hplan := compares_of hcompute
  obtain ⟨wanted, recorded, hwanted, _, _, _⟩ := compute_inv hcompute
  have hpresent := (Graph.Accepted.of_build hwanted).present rfl d (hplan.of_desired hc hd).1 id hid
  obtain ⟨d', hd', rfl⟩ := Resource.mem_ids.mp hpresent
  obtain ⟨c', hc', hdesired⟩ := hplan.applied d' hd'
  refine ⟨c', hc', ?_, d', hdesired, rfl⟩
  by_cases haction' : c'.action = .noChange
  · exact .inl haction'
  · obtain ⟨i, hi⟩ := List.mem_iff_getElem?.mp (mem_actions_iff.mpr ⟨hc, haction⟩)
    obtain ⟨j, hj⟩ := List.mem_iff_getElem?.mp (mem_actions_iff.mpr ⟨hc', haction'⟩)
    have hid' := hplan.id_of_desired hc' hdesired
    have hwaits : j ∈ s.waits i := (Schedule.mem_waits_iff hschedule).mpr
      ((single_of hcompute).waits_iff.mpr ⟨c, c', hi, hj, waitsFor_of_needs hd hdesired (hid' ▸ hid)⟩)
    exact .inr ((confirmed_iff hplan.nodup hj).mpr
      (hgranted i j hwaits ((confirmed_iff hplan.nodup hi).mp hconf)))

theorem IsNew.not_isOld (hplan : p.Compares desired baseline) {id : String}
    (h : p.IsNew statuses id) : ¬ p.IsOld baseline statuses id := by
  obtain ⟨c, hc, hdone, d, hd, rfl⟩ := h
  exact fun hold => hold.2 c hc (hplan.id_of_desired hc hd) hdone

section

variable (hcompute : compute desired baseline = .ok p) (hschedule : Schedule.of? p baseline = .ok s)
  (hgranted : Granted s statuses) (hfaith : p.Faithful applied)

include hcompute hfaith

theorem isNew_or_isOld {id : String}
    (h : id ∈ Resource.ids (p.resultingState baseline statuses applied)) :
    p.IsNew statuses id ∨ p.IsOld baseline statuses id := by
  obtain ⟨_, _, _, hrecorded, _, _⟩ := compute_inv hcompute
  obtain ⟨r, hr, rfl⟩ := Resource.mem_ids.mp h
  rcases (mem_resultingState_iff (compares_of hcompute) (Graph.Accepted.of_build hrecorded).nodup
    hfaith).mp hr with ⟨c, hc, hdone, hd⟩ | ⟨hr, hall⟩
  · exact .inl ⟨c, hc, hdone, r, hd, rfl⟩
  · exact .inr ⟨Resource.mem_ids_of_mem hr, hall⟩

/-- A resource left in its desired version needs what it needs in the desired collection. -/
theorem needs_of_isNew {a b : String} (ha : p.IsNew statuses a)
    (h : Resource.Needs (p.resultingState baseline statuses applied) a b) :
    ∃ c ∈ p.changes, p.Done statuses c ∧ ∃ d, c.desired? = some d ∧ d.id = a ∧
      b ∈ d.dependsOn := by
  obtain ⟨_, _, _, hrecorded, _, _⟩ := compute_inv hcompute
  obtain ⟨r, hr, rfl, hb, _⟩ := h
  rcases (mem_resultingState_iff (compares_of hcompute) (Graph.Accepted.of_build hrecorded).nodup
    hfaith).mp hr with ⟨c, hc, hdone, hd⟩ | ⟨hr, hall⟩
  · exact ⟨c, hc, hdone, r, hd, rfl, hb⟩
  · exact absurd ⟨Resource.mem_ids_of_mem hr, hall⟩ (ha.not_isOld (compares_of hcompute))

/-- A resource left in its recorded version needs what it needs in the recorded collection. -/
theorem needs_of_isOld {a b : String} (ha : p.IsOld baseline statuses a)
    (hb : p.IsOld baseline statuses b)
    (h : Resource.Needs (p.resultingState baseline statuses applied) a b) :
    Resource.Needs baseline a b := by
  obtain ⟨_, _, _, hrecorded, _, _⟩ := compute_inv hcompute
  obtain ⟨r, hr, rfl, hneeds, _⟩ := h
  rcases (mem_resultingState_iff (compares_of hcompute) (Graph.Accepted.of_build hrecorded).nodup
    hfaith).mp hr with ⟨c, hc, hdone, hd⟩ | ⟨hr, _⟩
  · have hnew : p.IsNew statuses r.id := ⟨c, hc, hdone, r, hd, rfl⟩
    exact absurd ha (hnew.not_isOld (compares_of hcompute))
  · exact ⟨r, hr, rfl, hneeds, hb.1⟩

include hschedule hgranted

/-- Where a resource left in its desired version needs one left in its recorded version, it needed
no action. -/
theorem bridge_of_needs {a b : String} (ha : p.IsNew statuses a)
    (hb : p.IsOld baseline statuses b)
    (h : Resource.Needs (p.resultingState baseline statuses applied) a b) :
    p.Bridge baseline statuses a b := by
  have hplan := compares_of hcompute
  obtain ⟨c, hc, hdone, d, hd, rfl, hneeds⟩ := needs_of_isNew hcompute hfaith ha h
  by_cases haction : c.action = .noChange
  · obtain ⟨current, hsides⟩ := Change.sides_of_noChange haction hd
    exact ⟨c, hc, current, d, hsides, hplan.id_of_desired hc hd, hneeds, hb.1, hb.2⟩
  · have hconf : p.confirmed statuses c = true := hdone.resolve_left haction
    have hnew := isNew_of_needed hcompute hschedule hgranted hc haction hconf hd hneeds
    exact absurd hb (hnew.not_isOld hplan)

/-- A closed path without a bridge stays within the desired versions, and is one of the desired
collection. -/
theorem desired_of_cycle
    (hno : ∀ v w, p.Bridge baseline statuses v w →
      ¬ TransGen (Resource.Needs (p.resultingState baseline statuses applied)) w v)
    {x y : String} (hx : p.IsNew statuses x)
    (hxy : TransGen (Resource.Needs (p.resultingState baseline statuses applied)) x y)
    (hyx : ReflTransGen (Resource.Needs (p.resultingState baseline statuses applied)) y x) :
    p.IsNew statuses y ∧ TransGen (Resource.Needs desired) x y := by
  have hplan := compares_of hcompute
  refine lift_cycle (fun a b e hba ha => ?_) hxy hyx hx
  have hb : p.IsNew statuses b := by
    rcases isNew_or_isOld hcompute hfaith e.mem.2 with hb | hb
    · exact hb
    · refine absurd ?_ (hno a b (bridge_of_needs hcompute hschedule hgranted hfaith ha hb e))
      rcases Relation.reflTransGen_iff_eq_or_transGen.mp hba with rfl | hba
      · exact absurd hb (ha.not_isOld hplan)
      · exact hba
  refine ⟨hb, ?_⟩
  obtain ⟨c, hc, _, d, hd, rfl, hneeds⟩ := needs_of_isNew hcompute hfaith ha e
  obtain ⟨c', hc', _, d', hd', rfl⟩ := hb
  exact ⟨d, (hplan.of_desired hc hd).1, rfl, hneeds,
    Resource.mem_ids_of_mem (hplan.of_desired hc' hd').1⟩

/-- **What is left has a graph**, unless a resource that needed no action needs one left in its
recorded version, which needs it in turn. -/
theorem accepted_resultingState_iff :
    Resource.Accepted false (p.resultingState baseline statuses applied) ↔
      ¬ ∃ v w, p.Bridge baseline statuses v w ∧
        TransGen (Resource.Needs (p.resultingState baseline statuses applied)) w v := by
  have hplan := compares_of hcompute
  obtain ⟨_, _, hwanted, hrecorded, _, _⟩ := compute_inv hcompute
  have hdesired := Graph.Accepted.of_build hwanted
  have hbase := Graph.Accepted.of_build hrecorded
  have hmem := @mem_resultingState_iff p desired baseline statuses applied
  constructor
  · rintro hacc ⟨v, w, ⟨c, hc, current, d, hsides, rfl, hneeds, hw, hall⟩, hpath⟩
    have hd : c.desired? = some d := by simp [Change.desired?, hsides, Sides.desired?]
    have hdone : p.Done statuses c := .inl (Change.action_eq_noChange_iff.mpr ⟨current, d, hsides⟩)
    refine hacc.acyclic c.id (.head ⟨d, ?_, (hplan.id_of_desired hc hd).symm, hneeds, ?_⟩ hpath)
    · exact (hmem hplan hbase.nodup hfaith).mpr (.inl ⟨c, hc, hdone, hd⟩)
    · obtain ⟨r, hr, rfl⟩ := Resource.mem_ids.mp hw
      exact Resource.mem_ids_of_mem ((hmem hplan hbase.nodup hfaith).mpr (.inr ⟨hr, hall⟩))
  · intro hno
    have hno' : ∀ v w, p.Bridge baseline statuses v w →
        ¬ TransGen (Resource.Needs (p.resultingState baseline statuses applied)) w v :=
      fun v w hb hpath => hno ⟨v, w, hb, hpath⟩
    refine ⟨nodup_resultingState hplan hbase.nodup hfaith, fun h => (by cases h), fun id hid => ?_⟩
    obtain ⟨_, e, _⟩ := TransGen.head'_iff.mp hid
    rcases isNew_or_isOld hcompute hfaith e.mem.1 with hnew | hold
    · exact hdesired.acyclic id (desired_of_cycle hcompute hschedule hgranted hfaith hno' hnew hid
        .refl).2
    · -- a closed path through recorded versions stays within them, or it would stay within the others
      refine hbase.acyclic id (lift_cycle (P := p.IsOld baseline statuses)
        (fun a b e hba ha => ?_) hid .refl hold).2
      have hb : p.IsOld baseline statuses b := by
        rcases isNew_or_isOld hcompute hfaith e.mem.2 with hb | hb
        · rcases Relation.reflTransGen_iff_eq_or_transGen.mp hba with rfl | hba
          · exact ha
          · have hnew := desired_of_cycle hcompute hschedule hgranted hfaith hno' hb hba (.single e)
            exact absurd ha (hnew.1.not_isOld hplan)
        · exact hb
      exact ⟨hb, needs_of_isOld hcompute hfaith ha hb e⟩

end

end Plan

/-! ## Runs that are given up -/

/-- The backends answer nothing but the versions they are given. -/
def Schedule.Faithful (s : Schedule) (outcome : Nat → Outcome) : Prop :=
  ∀ i c returned, s.actions[i]? = some c → outcome i = .succeeded returned →
    returned = none ∨ returned = some c.resource

/-! ### A swap that fails

A resource `w` needs `v`.  It is to be updated so that `v` may need it instead, and its update fails:
`v` is left with its new needs and `w` with its old ones. -/

namespace Run.Swap

/-- The resources before the swap. -/
def recorded : List Resource :=
  [{ id := "v", backend := .kubernetes },
   { id := "w", backend := .kubernetes, attributes := [("x", .int 1)], dependsOn := ["v"] }]

/-- The resources after the swap. -/
def desired : List Resource :=
  [{ id := "v", backend := .kubernetes, dependsOn := ["w"] },
   { id := "w", backend := .kubernetes, attributes := [("x", .int 2)] }]

/-- The only action of the swap. -/
def update : Change :=
  { id := "w", differences := [("x", ⟨.int 1, .int 2⟩)],
    sides := .update
      { id := "w", backend := .kubernetes, attributes := [("x", .int 1)], dependsOn := ["v"] }
      { id := "w", backend := .kubernetes, attributes := [("x", .int 2)] } }

/-- The plan of the swap. -/
def plan : Plan :=
  ⟨[update,
    { id := "v",
      sides := .noChange { id := "v", backend := .kubernetes }
        { id := "v", backend := .kubernetes, dependsOn := ["w"] } }]⟩

/-- The schedule of the swap. -/
def schedule : Schedule := ⟨[update], [[]], [0]⟩

/-- The update fails. -/
def outcome : Nat → Outcome := fun _ => .failed "boom"

/-- The swap, given up. -/
def final : Run := ((init schedule).start default 0).settle schedule default (0, outcome 0)

theorem faithful : schedule.Faithful outcome := fun _ _ _ _ h => by cases h

theorem reached : Reached schedule 1 outcome final :=
  .tail (.single (.start default rfl (by decide))) (.settle default (List.mem_singleton_self 0))

theorem ended : Ended schedule 1 outcome final := by
  refine (ended_iff (by decide)).mpr ⟨rfl, fun i => ?_⟩
  cases i with
  | zero => rfl
  | succ i => rfl

end Run.Swap

namespace Run

variable {plan : Plan} {desired baseline : List Resource} {s : Schedule} {limit : Int}
  {outcome : Nat → Outcome} {run : Run} {statuses : List Status}

theorem cancelPending_succeeded (run : Run) (i : Nat) :
    run.cancelPending.statuses[i]? = some .succeeded ↔ run.statuses[i]? = some .succeeded := by
  rw [statuses_getElem?, statuses_getElem?]
  simp only [status?, cancelPending, List.getElem?_map]
  cases run.records[i]? with
  | none => rfl
  | some r =>
    simp only [Option.map_some]
    split
    · rename_i hp
      simp [hp]
    · rfl

theorem Sound.granted_statuses (h : Sound s outcome run) : Plan.Granted s run.statuses := by
  intro i j hj hi
  rw [statuses_getElem?] at hi ⊢
  exact h.granted i _ hi (.inr (.inl rfl)) j hj

theorem Sound.granted_cancelPending (h : Sound s outcome run) :
    Plan.Granted s run.cancelPending.statuses := by
  intro i j hj hi
  rw [cancelPending_succeeded] at hi ⊢
  exact h.granted_statuses i j hj hi

theorem confirmedVersion_of_faithful {c : Change} {returned : Option Resource} {r : Resource}
    (hfaith : returned = none ∨ returned = some c.resource)
    (h : confirmedVersion c returned = some r) : c.desired? = some r := by
  unfold confirmedVersion at h
  unfold Change.resource at hfaith
  unfold Change.desired?
  cases hsides : c.sides <;> rw [hsides] at h hfaith <;>
    simp only [Option.some.injEq, reduceCtorEq] at h <;>
    rcases hfaith with rfl | rfl <;> exact congrArg some h

theorem Sound.faithful_applied (hschedule : Schedule.of? plan baseline = .ok s)
    (hfaith : s.Faithful outcome) (h : Sound s outcome run) : plan.Faithful run.applied := by
  intro i r hmem
  obtain ⟨_, hanswer⟩ := (h.mem_applied i r).mp hmem
  unfold Schedule.answer? at hanswer
  cases hc : s.actions[i]? with
  | none => simp [hc] at hanswer
  | some c =>
    cases ho : outcome i with
    | failed text => simp [hc, ho] at hanswer
    | succeeded returned =>
      simp only [hc, ho] at hanswer
      refine ⟨c, (Schedule.of?_inv hschedule).1 ▸ hc, ?_⟩
      exact confirmedVersion_of_faithful (hfaith i c returned hc ho) hanswer

/-- However a run is left, no action succeeded before those it waits for. -/
theorem Sound.granted_left (h : Sound s outcome run) {final : Run}
    (hfinal : final = run ∨ final = run.cancelPending) : Plan.Granted s final.statuses := by
  rcases hfinal with rfl | rfl
  · exact h.granted_statuses
  · exact h.granted_cancelPending

/-- However a run is left, nothing but what was asked for was answered. -/
theorem Sound.faithful_left (hschedule : Schedule.of? plan baseline = .ok s)
    (hfaith : s.Faithful outcome) (h : Sound s outcome run) {final : Run}
    (hfinal : final = run ∨ final = run.cancelPending) : plan.Faithful final.applied := by
  have happlied := h.faithful_applied hschedule hfaith
  rcases hfinal with rfl | rfl <;> exact happlied

/-- **Whatever is left of an execution has distinct identifiers, and has a graph exactly unless** a
resource that needed no action needs one that was left in its recorded version, which needs it in
turn; then every further plan for the stack is refused. -/
theorem replan_iff (hcompute : Plan.compute desired baseline = .ok plan)
    (hschedule : Schedule.of? plan baseline = .ok s) (hfaith : s.Faithful outcome)
    (hreached : Reached s limit outcome run) {final : Run}
    (hfinal : final = run ∨ final = run.cancelPending) (cancelled : Bool) {state : List Resource}
    (hstate : (final.result plan baseline cancelled).state = state) :
    (Resource.ids state).Nodup ∧
      ((∃ g, Graph.build false state = .ok g) ↔
        ¬ ∃ v w, plan.Bridge baseline final.statuses v w ∧ TransGen (Resource.Needs state) w v) ∧
      ∀ next g, Graph.build true next = .ok g →
        ((∃ e, Plan.compute next state = .error (.graph e)) ↔
          ∃ v w, plan.Bridge baseline final.statuses v w ∧
            TransGen (Resource.Needs state) w v) := by
  have hsound := (hreached.inv (Schedule.lawful_of hschedule)).toSound
  have hgranted := hsound.granted_left hfinal
  have happlied := hsound.faithful_left hschedule hfaith hfinal
  obtain ⟨_, _, _, hrecorded, _, _⟩ := Plan.compute_inv hcompute
  have hiff := Plan.accepted_resultingState_iff hcompute hschedule hgranted happlied
  have hplanned : plan.resultingState baseline final.statuses final.applied = state := hstate
  rw [hplanned, ← Graph.build_isOk_iff] at hiff
  refine ⟨?_, hiff, fun next g hg => ?_⟩
  · rw [← hplanned]
    exact Plan.nodup_resultingState (Plan.compares_of hcompute)
      (Graph.Accepted.of_build hrecorded).nodup happlied
  · rw [← not_iff_not, ← hiff]
    unfold Plan.compute
    simp only [hg]
    cases hb : Graph.build false state with
    | error e => simp
    | ok g' =>
      simp only [Except.ok.injEq, exists_eq', iff_true]
      split <;> simp

/-- **Not all that an execution leaves can be planned again.** -/
theorem replan_refused :
    ∃ (desired recorded : List Resource) (plan : Plan) (s : Schedule) (outcome : Nat → Outcome)
      (run : Run), (∃ g, Graph.build true desired = .ok g) ∧
      (∃ g, Graph.build false recorded = .ok g) ∧
      Plan.compute desired recorded = .ok plan ∧ Schedule.of? plan recorded = .ok s ∧
      s.Faithful outcome ∧ Reached s 1 outcome run ∧ Ended s 1 outcome run ∧
      Graph.build false (run.result plan recorded false).state = .error (.cycle ["w", "v", "w"]) :=
  ⟨Swap.desired, Swap.recorded, Swap.plan, Swap.schedule, Swap.outcome, Swap.final, ⟨_, rfl⟩,
    ⟨_, rfl⟩, rfl, rfl, Swap.faithful, Swap.reached, Swap.ended, rfl⟩

/-- What is left of the failed swap is refused for its bridge. -/
theorem replan_swap :
    ∃ v w, Swap.plan.Bridge Swap.recorded Swap.final.statuses v w ∧
      TransGen (Resource.Needs (Swap.final.result Swap.plan Swap.recorded false).state) w v := by
  have hcompute : Plan.compute Swap.desired Swap.recorded = .ok Swap.plan := rfl
  obtain ⟨_, hiff, _⟩ := replan_iff hcompute rfl Swap.faithful Swap.reached (.inl rfl) false rfl
  by_contra hno
  obtain ⟨g, hg⟩ := hiff.mpr hno
  cases hg

end Run

end Rollout
