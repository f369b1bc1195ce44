import Rollout.Proofs.Execution.Replay
import Rollout.Proofs.Graph.Dumped

/-!
# Executions that succeed

Once nothing of a plan is left to be done, the desired resources are recorded in apply order, and
nothing else: it does not matter what was recorded before.  To plan them again then leaves nothing to
be done.

* `Graph.Arranged` : a collection in its apply order;
* `Plan.resultingState_of_done`, `Plan.compute_of_done` : what is left of a plan that is done, and the
  next plan;
* `Plan.compute_map_dumped` : it is made from a record of what is left;
* `Run.Reached.state_of_succeeded`, `Run.Reached.compute_of_succeeded` : the same for an execution that
  succeeds;
* `Execution.complete_idle` : an execution without actions.
-/

set_option autoImplicit false

namespace Rollout

/-! ## Collections in apply order -/

/-- **A collection in its apply order**: each resource stands in it once, and none before one that it
depends on. -/
structure Graph.Arranged (resources arranged : List Resource) : Prop where
  ordered : ∃ g, Graph.build true resources = .ok g ∧ arranged = g.ordered
  perm : arranged.Perm resources
  behind : arranged.Pairwise fun r later => later.id ∉ r.dependsOn

/-- What is in order waits for nothing that comes behind it. -/
theorem Orders.pairwise {before : Nat → List Nat} {n : Nat} {order : List Nat}
    (h : Orders before n order) : order.Pairwise fun i j => j ∉ before i := by
  refine pairwise_of_forall_split fun pre i post heq j hj hbefore => ?_
  have hpre : j ∈ pre := h.behind pre i post heq j hbefore (h.mem_iff.mp (by simp [heq, hj]))
  exact (List.nodup_append.mp (heq ▸ h.nodup)).2.2 j hpre j (List.mem_cons_of_mem _ hj) rfl

theorem Graph.arranged_ordered {resources : List Resource} {g : Graph}
    (hgraph : Graph.build true resources = .ok g) : Graph.Arranged resources g.ordered := by
  obtain ⟨_, _, _, hresources, hdependencies⟩ := Graph.build_inv hgraph
  have hnodup := (Graph.Accepted.of_build hgraph).nodup
  refine ⟨⟨g, hgraph, rfl⟩, Graph.ordered_perm hgraph, ?_⟩
  refine List.Pairwise.filterMap _ (fun i j hno r hr later hlater hneeds => hno ?_)
    (Graph.orders_placed hgraph).pairwise
  rw [hresources] at hr hlater
  rw [hdependencies]
  refine (Graph.edge_iff hnodup).mpr ⟨r.id, later.id, ?_, ?_, r, List.mem_of_getElem? hr, rfl, hneeds,
    Resource.mem_ids_of_mem (List.mem_of_getElem? hlater)⟩
  · rw [Resource.ids, List.getElem?_map, hr, Option.map_some]
  · rw [Resource.ids, List.getElem?_map, hlater, Option.map_some]

/-! ## Plans that are done -/

namespace Plan

variable {p : Plan} {desired baseline : List Resource} {statuses : List Status}
  {applied : List (Nat × Resource)} {s : Schedule} {g : Graph}

/-- **Where nothing is left to be done**, the desired resources are recorded in apply order, and nothing
else. -/
theorem resultingState_of_done (hcompute : compute desired baseline = .ok p)
    (hgraph : Graph.build true desired = .ok g) (hfaith : p.Faithful applied)
    (hdone : ∀ c ∈ p.changes, p.Done statuses c) :
    p.resultingState baseline statuses applied = g.ordered := by
  have hplan := compares_of hcompute
  obtain ⟨_, _, _, hrecorded, _, _⟩ := compute_inv hcompute
  have hbase := (Graph.Accepted.of_build hrecorded).nodup
  have hident := hfaith.identified hplan
  have hmem : ∀ x, x ∈ p.resultingState baseline statuses applied ↔ x ∈ g.ordered := by
    intro x
    rw [mem_resultingState_iff hplan hbase hfaith, Graph.mem_ordered hgraph]
    constructor
    · rintro (⟨c, hc, _, hx⟩ | ⟨hx, hall⟩)
      · exact (hplan.of_desired hc hx).1
      · obtain ⟨c, hc, hid⟩ := hplan.exists_change hx
        exact absurd (hdone c hc) (hall c hc hid)
    · intro hx
      obtain ⟨c, hc, hcx⟩ := hplan.applied x hx
      exact .inl ⟨c, hc, hdone c hc, hcx⟩
  have hnodup : (Resource.ids g.ordered).Nodup :=
    ((Graph.ordered_perm hgraph).map Resource.id).nodup_iff.mpr (Graph.Accepted.of_build hgraph).nodup
  -- both are listed by the identifiers of the plan, in its order
  have hlisting := nodup_listing hplan hbase
  have hordered : (Resource.ids g.ordered).Sublist (p.listing baseline) := by
    rw [listing_eq hcompute hgraph]
    exact List.sublist_append_left _ _
  rw [Resource.eq_filterMap_find hlisting (ids_resultingState_sublist hplan hbase hident),
    Resource.eq_filterMap_find hlisting hordered]
  refine List.filterMap_congr fun id _ => ?_
  ext x
  rw [Resource.find_eq_some_iff (nodup_ids_resultingState hplan hbase hident),
    Resource.find_eq_some_iff hnodup, hmem]

/-- **Then the next plan is empty.** -/
theorem compute_of_done (hcompute : compute desired baseline = .ok p)
    (hschedule : Schedule.of? p baseline = .ok s) (hgranted : Granted s statuses)
    (hfaith : p.Faithful applied) (hdone : ∀ c ∈ p.changes, p.Done statuses c)
    (hvalues : ∀ d ∈ desired, Value.Comparable (.object d.attributes)) :
    ∃ next, compute desired (p.resultingState baseline statuses applied) = .ok next ∧
      next.isEmpty = true := by
  have hleaves := leaves_of hcompute hschedule hgranted hfaith
  have haccepted := accepted_of_done hcompute hschedule hgranted hfaith hdone
  obtain ⟨next, hnext⟩ := hleaves.exists_plan hcompute ((Graph.build_isOk_iff _ _).mpr haccepted)
  refine ⟨next, hnext, ?_⟩
  rw [isEmpty, List.isEmpty_iff, List.eq_nil_iff_forall_not_mem]
  intro n hn
  obtain ⟨c, hc, hunconfirmed, _⟩ := (hleaves.mem_actions_iff (compares_of hnext) hvalues).mp
    (List.mem_map_of_mem hn)
  obtain ⟨hc, hno⟩ := mem_actions_iff.mp hc
  rw [(hdone c hc).resolve_left hno] at hunconfirmed
  cases hunconfirmed

/-- Of an empty plan nothing is left to be done. -/
theorem done_of_isEmpty (h : p.isEmpty = true) : ∀ c ∈ p.changes, p.Done statuses c := by
  intro c hc
  refine .inl (by_contra fun hno => ?_)
  have hmem : c ∈ p.actions := mem_actions_iff.mpr ⟨hc, hno⟩
  rw [List.isEmpty_iff.mp h] at hmem
  cases hmem

end Plan

/-! ## Plans that are made from records -/

/-- **Where nothing is to be done, nothing is to be done once the resources have been recorded**, if
their attributes are finite. -/
theorem Plan.compute_map_dumped {desired last : List Resource} {plan : Plan}
    (hcompute : compute desired last = .ok plan) (hempty : plan.isEmpty = true)
    (hfinite : ∀ r ∈ last, Value.FiniteFields r.attributes) :
    ∃ next, compute desired (last.map Resource.dumped) = .ok next ∧ next.isEmpty = true := by
  obtain ⟨_, _, hwanted, hrecorded, _, hids⟩ := compute_inv hcompute
  have hplan := compares_of hcompute
  have hdesired := Graph.Accepted.of_build hwanted
  have hlast := Graph.Accepted.of_build hrecorded
  have hrecord := Resource.accepted_map_dumped.mpr hlast
  obtain ⟨hsame, hkept⟩ := (hplan.isEmpty_iff hlast.nodup).mp hempty
  have hnamed : ∀ d ∈ desired, d.id ≠ "" := by
    intro d hd
    obtain ⟨c, hc, hcd⟩ := hplan.applied d hd
    rw [← hplan.id_of_desired hc hcd]
    exact hids c hc
  have hrecords : ∀ r ∈ last.map Resource.dumped, r.id ≠ "" := by
    intro _ hrecord
    obtain ⟨r, hr, rfl⟩ := List.mem_map.mp hrecord
    obtain ⟨d, hd, hid, _⟩ := hkept r hr
    exact hid ▸ hnamed d hd
  obtain ⟨next, hnext⟩ : ∃ next, compute desired (last.map Resource.dumped) = .ok next := by
    rcases compute_cases desired hrecords with ⟨hno, _⟩ | ⟨_, _, hmem, _⟩ | ⟨_, _, _, hnext⟩
    · exact absurd ⟨hdesired, hrecord⟩ hno
    · obtain ⟨d, hd, hid⟩ := Resource.mem_ids.mp hmem
      exact absurd hid (hnamed d hd)
    · exact hnext
  refine ⟨next, hnext, ((compares_of hnext).isEmpty_iff hrecord.nodup).mpr ⟨?_, ?_⟩⟩
  · intro d hd
    obtain ⟨r, hr, hid, hbackend, hnone⟩ := hsame d hd
    refine ⟨r.dumped, List.mem_map_of_mem hr, hid, hbackend, ?_⟩
    rwa [Resource.dumped, Value.dumpedFields_eq_self_iff.mpr (hfinite r hr)]
  · intro _ hrecord
    obtain ⟨r, hr, rfl⟩ := List.mem_map.mp hrecord
    exact hkept r hr

/-- An empty plan can be executed. -/
theorem Schedule.of?_isEmpty {plan : Plan} (h : plan.isEmpty = true) (baseline : List Resource) :
    Schedule.of? plan baseline = .ok ⟨[], [], []⟩ := by
  unfold Schedule.of?
  rw [List.isEmpty_iff.mp h]
  rfl

/-! ## Executions -/

/-- Applying one of the resources answers that resource, or nothing. -/
def Sandbox.Echoes (resources : List Resource) (s : Sandbox) : Prop :=
  ∀ x ∈ resources, ∀ r, s.answer? x.id = some (some r) → r = x

namespace Run

variable {plan : Plan} {desired baseline : List Resource} {s : Schedule} {g : Graph} {limit : Int}
  {outcome : Nat → Outcome} {run final : Run} {cancelled : Bool}

/-- Where an execution succeeds, nothing of its plan is left to be done. -/
theorem Reached.done_of_succeeded (hcompute : Plan.compute desired baseline = .ok plan)
    (hschedule : Schedule.of? plan baseline = .ok s) (hreached : Reached s limit outcome run)
    (hfinal : final = run ∨ final = run.cancelPending)
    (hsucceeded : (final.result plan baseline cancelled).succeeded = true) :
    ∀ c ∈ plan.changes, plan.Done final.statuses c := by
  have hall : ∀ r ∈ final.records, r.status = .succeeded := by
    simpa [ExecutionResult.succeeded, result] using hsucceeded
  intro c hc
  exact done_of_records (Plan.compares_of hcompute) (hreached.listed_left hschedule hfinal) hc
    fun r hr _ _ => hall r hr

/-- **An execution that succeeds leaves the desired resources**, in apply order. -/
theorem Reached.state_of_succeeded (hcompute : Plan.compute desired baseline = .ok plan)
    (hgraph : Graph.build true desired = .ok g) (hschedule : Schedule.of? plan baseline = .ok s)
    (hfaith : s.Faithful outcome) (hreached : Reached s limit outcome run)
    (hfinal : final = run ∨ final = run.cancelPending)
    (hsucceeded : (final.result plan baseline cancelled).succeeded = true) :
    (final.result plan baseline cancelled).state = g.ordered := by
  have hsound := (hreached.inv (Schedule.lawful_of hschedule)).toSound
  exact Plan.resultingState_of_done hcompute hgraph (hsound.faithful_left hschedule hfaith hfinal)
    (hreached.done_of_succeeded hcompute hschedule hfinal hsucceeded)

/-- **Nothing is planned after an execution that succeeds.** -/
theorem Reached.compute_of_succeeded (hcompute : Plan.compute desired baseline = .ok plan)
    (hschedule : Schedule.of? plan baseline = .ok s) (hfaith : s.Faithful outcome)
    (hreached : Reached s limit outcome run) (hfinal : final = run ∨ final = run.cancelPending)
    (hsucceeded : (final.result plan baseline cancelled).succeeded = true)
    (hvalues : ∀ d ∈ desired, Value.Comparable (.object d.attributes)) :
    ∃ next, Plan.compute desired (final.result plan baseline cancelled).state = .ok next ∧
      next.isEmpty = true := by
  have hsound := (hreached.inv (Schedule.lawful_of hschedule)).toSound
  exact Plan.compute_of_done hcompute hschedule (hsound.granted_left hfinal)
    (hsound.faithful_left hschedule hfaith hfinal)
    (hreached.done_of_succeeded hcompute hschedule hfinal hsucceeded) hvalues

end Run

/-- Where backends answer what they are given, or nothing, so does every action. -/
theorem Schedule.faithful_of_echoes {plan : Plan} {desired baseline : List Resource} {s : Schedule}
    {start : Sandbox} (hplan : plan.Compares desired baseline) (hactions : s.actions = plan.actions)
    (hechoes : start.Echoes desired) (limits : Limits) :
    s.Faithful (s.outcomes limits start) := by
  intro i c returned hc hsucceeded
  have hmem := (Plan.mem_actions_iff.mp (List.mem_of_getElem? (hactions ▸ hc))).1
  rw [← answerOf_of_succeeded hc hsucceeded]
  by_cases hdelete : c.action = .delete
  · obtain ⟨r, hsides⟩ := Change.action_eq_delete_iff.mp hdelete
    rw [Sandbox.answerOf, hsides]
    exact .inl rfl
  · have hdesired := (hplan.of_desired hmem (Change.desired?_eq_some_iff.mpr ⟨hdelete, rfl⟩)).1
    rw [Sandbox.answerOf_of_apply hdelete]
    cases hanswer : start.answer? c.resource.id with
    | none => exact .inr rfl
    | some answer =>
      cases answer with
      | none => exact .inl rfl
      | some r => exact .inr (congrArg some (hechoes _ hdesired r hanswer))

namespace Execution

variable {σ : Type}

/-- **An execution without actions** is over at once, and calls no backend. -/
theorem complete_idle (plan : Plan) (baseline : List Resource) (limits : Limits)
    (interrupts : Interrupts) (stopped : Bool) (now : Instant) (clock : DateTime)
    (report : ExecutionResult → σ → Reception × σ) (sandbox : Sandbox) (context : σ) :
    (init plan baseline ⟨[], [], []⟩ limits interrupts stopped now).complete clock report sandbox
        context
      = (.finished ⟨[], plan.resultingState baseline [] [], false⟩, sandbox, context) := by
  unfold complete launch stopInTime
  cases hstop : interrupts.stopAt <;> simp only [init, hstop] <;> rfl

end Execution

end Rollout
