import Rollout.Proofs.Execution.Resume

/-!
# The state is a replay

The state that an execution leaves is put together from the statuses of its actions.  It is the same
as if the recorded resources had been changed by one action after the other, as they ended.  The order
of two actions matters only where one waits for the other, so that any order will do in which an
action comes behind those that it waits for.

* `Plan.replay` : the recorded resources, changed by one action after the other;
* `Run.History` : the actions that have ended in a run, in the order in which they did;
* `Plan.InTurn` : an order of the actions that succeeded;
* `Run.lookup_replay` : what a replay holds;
* `Run.Reached.replays` : the state of a run is a replay;
* `Execution.state_replays` : so is every state that an execution reports or ends with.
-/

set_option autoImplicit false

namespace Rollout

/-- A collection is listed by the identifiers of its resources, and by any that hold them in
order. -/
theorem Resource.eq_filterMap_find {keys : List String} {resources : List Resource}
    (hkeys : keys.Nodup) (hsub : (ids resources).Sublist keys) :
    resources = keys.filterMap fun id => find id resources := by
  induction keys generalizing resources with
  | nil =>
    have hnil : resources = [] := List.map_eq_nil_iff.mp (List.sublist_nil.mp hsub)
    rw [hnil]
    rfl
  | cons key keys ih =>
    obtain ⟨hkey, hdistinct⟩ := List.nodup_cons.mp hkeys
    cases resources with
    | nil => simp [find]
    | cons r rest =>
      by_cases hr : r.id = key
      · subst hr
        have hrest : (ids rest).Sublist keys := List.cons_sublist_cons.mp hsub
        have hfind : ∀ id ∈ keys, find id (r :: rest) = find id rest := by
          intro id hid
          have hne : r.id ≠ id := by
            rintro rfl
            exact hkey hid
          simp [find, hne]
        rw [List.filterMap_cons_some (b := r) (by simp [find]), List.filterMap_congr hfind]
        exact congrArg _ (ih hdistinct hrest)
      · have hrest : (ids (r :: rest)).Sublist keys := by
          refine (List.sublist_cons_iff.mp hsub).resolve_right ?_
          rintro ⟨_, hcons, _⟩
          exact hr (List.cons.inj hcons).1
        have hnone : find key (r :: rest) = none :=
          find_eq_none_iff.mpr fun hmem => hkey (hrest.subset hmem)
        rw [List.filterMap_cons, hnone]
        exact ih hdistinct hrest

namespace Plan

/-- What an action that succeeded does to the resources by identifier: a delete removes the resource,
a create or update stores what was answered. -/
def replayAction (p : Plan) (answer? : Nat → Option Resource) (held : List (String × Resource))
    (i : Nat) : List (String × Resource) :=
  match p.actions[i]? with
  | none => held
  | some c =>
    if c.action = .delete then Assoc.erase c.id held
    else
      match answer? i with
      | some r => Assoc.put c.id r held
      | none => held

/-- The recorded resources after some actions, one after the other, and with every resource that
needed no action in its desired version. -/
def replay (p : Plan) (baseline : List Resource) (answer? : Nat → Option Resource)
    (done : List Nat) : List (String × Resource) :=
  Assoc.overlay (done.foldl (p.replayAction answer?) (recorded baseline))
    ((p.withAction .noChange).map fun c => (c.id, c.resource))

/-- **An order of the actions that succeeded** in which none comes before one that it waits for. -/
structure InTurn (p : Plan) (baseline : List Resource) (records : List ActionRecord)
    (done : List Nat) : Prop where
  nodup : done.Nodup
  mem_iff : ∀ i, i ∈ done ↔ ∃ r, records[i]? = some r ∧ r.status = .succeeded
  turn : done.Pairwise fun i j => ¬ p.Waits baseline i j

/-- **A state is a replay** of actions: it holds the same resources, each once, first the desired ones
in their order and then those that are recorded only. -/
structure Replays (p : Plan) (baseline : List Resource) (order : List String)
    (answer? : Nat → Option Resource) (done : List Nat) (state : List Resource) : Prop where
  nodup : (Resource.ids state).Nodup
  find : ∀ id, Resource.find id state = Assoc.lookup id (p.replay baseline answer? done)
  listed : state =
    (order ++ (Resource.ids baseline).filter fun id => !order.contains id).filterMap fun id =>
      Assoc.lookup id (p.replay baseline answer? done)

variable {p : Plan} {desired baseline state : List Resource} {answer? : Nat → Option Resource}
  {done : List Nat} {records : List ActionRecord} {c d : Change} {i j : Nat} {id : String}
  {x : Resource}

/-! ## What a replay holds -/

/-- What the actions of a replay leave under an identifier: what was answered for it, or nothing if a
delete was all, or else what was recorded. -/
inductive Tells (p : Plan) (baseline : List Resource) (answer? : Nat → Option Resource)
    (done : List Nat) (id : String) : Option Resource → Prop
  | put {i : Nat} {c : Change} {r : Resource} (mem : i ∈ done) (action : p.actions[i]? = some c)
      (applies : c.action ≠ .delete) (about : c.id = id) (answer : answer? i = some r) :
      Tells p baseline answer? done id (some r)
  | drop {i : Nat} {c : Change} (mem : i ∈ done) (action : p.actions[i]? = some c)
      (deletes : c.action = .delete) (about : c.id = id)
      (last : ∀ j ∈ done, ∀ d, p.actions[j]? = some d → d.action ≠ .delete → d.id ≠ id) :
      Tells p baseline answer? done id none
  | kept (untouched : ∀ i ∈ done, ∀ c, p.actions[i]? = some c → c.id ≠ id) :
      Tells p baseline answer? done id (Assoc.lookup id (recorded baseline))

theorem lookup_recorded_iff (hbase : (Resource.ids baseline).Nodup) :
    Assoc.lookup id (recorded baseline) = some x ↔ x ∈ baseline ∧ x.id = id := by
  have hkeys : (Assoc.keys (recorded baseline)).Nodup := by
    rw [recorded_eq hbase]
    simpa [Assoc.keys, Resource.ids, Function.comp_def] using hbase
  rw [Assoc.lookup_eq_some_iff hkeys, recorded_eq hbase, List.mem_map]
  constructor
  · rintro ⟨r, hr, heq⟩
    obtain ⟨rfl, rfl⟩ := Prod.mk.inj heq
    exact ⟨hr, rfl⟩
  · rintro ⟨hx, rfl⟩
    exact ⟨x, hx, rfl⟩

theorem lookup_replayAction_of_ne (hc : p.actions[i]? = some c) (hid : c.id ≠ id)
    (held : List (String × Resource)) :
    Assoc.lookup id (p.replayAction answer? held i) = Assoc.lookup id held := by
  simp only [replayAction, hc]
  split
  · rw [Assoc.lookup_erase, if_neg hid]
  · split
    · rw [Assoc.lookup_put, if_neg hid]
    · rfl

/-- One more action, on another resource. -/
theorem Tells.snoc_of_ne {found : Option Resource} (h : Tells p baseline answer? done id found)
    (hc : p.actions[i]? = some c) (hid : c.id ≠ id) :
    Tells p baseline answer? (done ++ [i]) id found := by
  have hlast : ∀ {P : Change → Prop}, (∀ j ∈ done, ∀ d, p.actions[j]? = some d → P d → d.id ≠ id) →
      ∀ j ∈ done ++ [i], ∀ d, p.actions[j]? = some d → P d → d.id ≠ id := by
    intro P hdone j hj d hd hP
    rcases List.mem_append.mp hj with hj | hj
    · exact hdone j hj d hd hP
    · rw [List.mem_singleton.mp hj, hc, Option.some.injEq] at hd
      exact hd ▸ hid
  cases h with
  | put mem action applies about answer =>
    exact .put (List.mem_append_left _ mem) action applies about answer
  | drop mem action deletes about last =>
    exact .drop (List.mem_append_left _ mem) action deletes about (hlast last)
  | kept untouched =>
    refine .kept fun j hj d hd => ?_
    exact hlast (P := fun _ => True) (fun j hj d hd _ => untouched j hj d hd) j hj d hd trivial

/-- **What the actions of a replay leave under an identifier**, provided that what applies a resource
comes behind what deletes it. -/
theorem tells_foldl (done : List Nat)
    (hactions : ∀ i ∈ done, ∃ c, p.actions[i]? = some c ∧
      (c.action ≠ .delete → ∃ r, answer? i = some r))
    (hfirst : ∀ i j c d, p.actions[i]? = some c → p.actions[j]? = some d → c.action ≠ .delete →
      d.action = .delete → c.id = d.id → p.Waits baseline i j)
    (hturn : done.Pairwise fun i j => ¬ p.Waits baseline i j) (id : String) :
    Tells p baseline answer? done id
      (Assoc.lookup id (done.foldl (p.replayAction answer?) (recorded baseline))) := by
  induction done using List.reverseRecOn with
  | nil => exact .kept fun i hi => by cases hi
  | append_singleton done i ih =>
    obtain ⟨hbefore, _, hbehind⟩ := List.pairwise_append.mp hturn
    have ih := ih (fun j hj => hactions j (List.mem_append_left _ hj)) hbefore
    have hi : i ∈ done ++ [i] := List.mem_append_right _ (List.mem_singleton_self i)
    obtain ⟨c, hc, hanswer⟩ := hactions i hi
    rw [List.foldl_append, List.foldl_cons, List.foldl_nil]
    generalize done.foldl (p.replayAction answer?) (recorded baseline) = held at ih ⊢
    by_cases hid : c.id = id
    · subst hid
      by_cases hdelete : c.action = .delete
      · have hgone : Assoc.lookup c.id (p.replayAction answer? held i) = none := by
          simp [replayAction, hc, hdelete]
        rw [hgone]
        refine .drop hi hc hdelete rfl fun j hj d hd happly hsame => ?_
        -- what was applied before has waited for this delete
        rcases List.mem_append.mp hj with hj | hj
        · exact hbehind j hj i (List.mem_singleton_self i) (hfirst j i d c hd hc happly hdelete hsame)
        · rw [List.mem_singleton.mp hj, hc, Option.some.injEq] at hd
          exact happly (hd ▸ hdelete)
      · obtain ⟨r, hr⟩ := hanswer hdelete
        have hput : Assoc.lookup c.id (p.replayAction answer? held i) = some r := by
          simp [replayAction, hc, hdelete, hr]
        rw [hput]
        exact .put hi hc hdelete rfl hr
    · rw [lookup_replayAction_of_ne hc hid]
      exact ih.snoc_of_ne hc hid

section

variable (hplan : p.Compares desired baseline)

include hplan

/-- No two resources need no action under one identifier. -/
theorem nodup_noChange : ((p.withAction .noChange).map Change.id).Nodup := by
  refine (nodup_applies hplan).sublist (List.Sublist.map _ ?_)
  refine List.monotone_filter_right _ fun c hc => ?_
  simp only [decide_eq_true_eq] at hc ⊢
  rw [hc]
  decide

/-- What a replay holds under the identifier of a resource that needed no action. -/
theorem lookup_replay_of_noChange (hc : c ∈ p.changes) (hno : c.action = .noChange) :
    Assoc.lookup c.id (p.replay baseline answer? done) = some c.resource := by
  have hkeys : (Assoc.keys ((p.withAction .noChange).map fun c => (c.id, c.resource))).Nodup := by
    simpa [Assoc.keys, Function.comp_def] using nodup_noChange hplan
  have hmem : (c.id, c.resource) ∈ (p.withAction .noChange).map fun c => (c.id, c.resource) :=
    List.mem_map_of_mem (f := fun c : Change => (c.id, c.resource))
      (List.mem_filter.mpr ⟨hc, by simpa using hno⟩)
  rw [replay, Assoc.lookup_overlay _ _ hkeys, (Assoc.lookup_eq_some_iff hkeys).mpr hmem,
    Option.some_or]

/-- What a replay holds under any other identifier. -/
theorem lookup_replay_of_forall_ne (hno : ∀ c ∈ p.changes, c.action = .noChange → c.id ≠ id) :
    Assoc.lookup id (p.replay baseline answer? done) =
      Assoc.lookup id (done.foldl (p.replayAction answer?) (recorded baseline)) := by
  have hkeys : (Assoc.keys ((p.withAction .noChange).map fun c => (c.id, c.resource))).Nodup := by
    simpa [Assoc.keys, Function.comp_def] using nodup_noChange hplan
  have hnone : Assoc.lookup id ((p.withAction .noChange).map fun c => (c.id, c.resource)) = none := by
    rw [Assoc.lookup_eq_none_iff]
    intro hmem
    simp only [Assoc.keys, List.map_map, List.mem_map, Function.comp_apply] at hmem
    obtain ⟨c, hc, hid⟩ := hmem
    obtain ⟨hc, haction⟩ := List.mem_filter.mp hc
    exact hno c hc (by simpa using haction) hid
  rw [replay, Assoc.lookup_overlay _ _ hkeys, hnone, Option.none_or]

end

end Plan

/-- The applies of a plan are listed in the apply order of the desired resources. -/
theorem Plan.listing_eq {plan : Plan} {desired baseline : List Resource} {g : Graph}
    (hcompute : Plan.compute desired baseline = .ok plan)
    (hgraph : Graph.build true desired = .ok g) :
    plan.listing baseline =
      g.order ++ (Resource.ids baseline).filter fun id => !g.order.contains id := by
  obtain ⟨wanted, recorded, hwanted, _, rfl, _⟩ := Plan.compute_inv hcompute
  rw [hgraph, Except.ok.injEq] at hwanted
  subst hwanted
  have hdeletes : (recorded.destroyOrdered.filterMap (deleteOf g)).filter
      (fun c => c.action ≠ .delete) = [] := by
    rw [List.filter_eq_nil_iff]
    intro c hc
    obtain ⟨r, _, hr⟩ := List.mem_filterMap.mp hc
    have hkey := congrArg Prod.fst (key_of_deleteOf hr)
    simpa [Change.key] using hkey
  have happlies : (g.ordered.map (applyOf recorded)).filter (fun c => c.action ≠ .delete)
      = g.ordered.map (applyOf recorded) := by
    rw [List.filter_eq_self]
    intro c hc
    obtain ⟨d, _, rfl⟩ := List.mem_map.mp hc
    simpa using applyOf_action_ne_delete recorded d
  have hids : ((between g recorded).changes.filter fun c => c.action ≠ .delete).map Change.id
      = g.order := by
    rw [between, List.filter_append, hdeletes, happlies, List.nil_append, List.map_map, Graph.order,
      Resource.ids]
    exact List.map_congr_left fun d _ => applyOf_id recorded d
  rw [listing, hids]

/-! ## The order in which actions end -/

namespace Run

/-- The actions that have ended in a run, in the order in which they did. -/
inductive History (s : Schedule) (limit : Int) (outcome : Nat → Outcome) : List Nat → Run → Prop
  | init : History s limit outcome [] (init s)
  | start {past : List Nat} {run : Run} (before : History s limit outcome past run)
      (now : DateTime) {i : Nat} (ready : isReady s run i = true)
      (room : (run.running.length : Int) < limit) : History s limit outcome past (run.start now i)
  | settle {past : List Nat} {run : Run} (before : History s limit outcome past run)
      (now : DateTime) {i : Nat} (running : i ∈ run.running) :
      History s limit outcome (past ++ [i]) (run.settle s now (i, outcome i))

variable {s : Schedule} {limit : Int} {outcome : Nat → Outcome} {run final : Run} {i : Nat}
  {past done : List Nat}

/-- Every run that is reached has a history. -/
theorem reached_iff_history :
    Reached s limit outcome run ↔ ∃ past, History s limit outcome past run := by
  constructor
  · intro h
    induction h with
    | refl => exact ⟨[], .init⟩
    | tail _ hstep ih =>
      obtain ⟨past, hpast⟩ := ih
      cases hstep with
      | start now ready room => exact ⟨past, hpast.start now ready room⟩
      | settle now running => exact ⟨_, hpast.settle now running⟩
  · rintro ⟨past, h⟩
    induction h with
    | init => exact .refl
    | start _ now ready room ih => exact ih.tail (.start now ready room)
    | settle _ now running ih => exact ih.tail (.settle now running)

theorem History.reached (h : History s limit outcome past run) : Reached s limit outcome run :=
  reached_iff_history.mpr ⟨past, h⟩

/-- **The actions of a history are those that have past**, each once, and none of them has waited for
a later one. -/
theorem History.settled (hs : s.Lawful) (h : History s limit outcome past run) :
    past.Nodup ∧
      (∀ i, i ∈ past ↔ run.status? i = some .succeeded ∨ run.status? i = some .failed) ∧
      past.Pairwise fun i j => j ∉ s.waits i := by
  induction h with
  | init =>
    refine ⟨List.nodup_nil, fun i => ⟨(fun h => by cases h), ?_⟩, .nil⟩
    rintro (h | h) <;> cases status?_init h
  | @start past run before now i ready room ih =>
    obtain ⟨hnodup, hmem, hturn⟩ := ih
    obtain ⟨hpending, _⟩ := isReady_iff.mp ready
    refine ⟨hnodup, fun j => ?_, hturn⟩
    rw [hmem, status?_start now (lt_of_status? hpending)]
    split
    · rename_i hj
      simp [hj, hpending]
    · rfl
  | @settle past run before now i running ih =>
    obtain ⟨hnodup, hmem, hturn⟩ := ih
    have hinv := before.reached.inv hs
    have hrunning := (hinv.mem_running i).mp running
    obtain ⟨hends, hothers⟩ := hinv.toSound.status?_settle running now (outcome i)
    have hnew : i ∉ past := by
      rw [hmem, hrunning]
      simp
    refine ⟨?_, fun j => ?_, ?_⟩
    · rw [List.nodup_append]
      refine ⟨hnodup, List.nodup_singleton i, fun a ha b hb hab => hnew ?_⟩
      rwa [← List.mem_singleton.mp hb, ← hab]
    · rw [List.mem_append, List.mem_singleton, hmem]
      by_cases hj : j = i
      · subst hj
        refine iff_of_true (.inr rfl) ?_
        rcases hends with ⟨h, _⟩ | ⟨h, _⟩
        · exact .inl h
        · exact .inr h
      · rw [or_iff_left hj]
        rcases hothers j hj with h | ⟨h, h'⟩
        · rw [h]
        · simp [h, h']
    · refine List.pairwise_append.mpr ⟨hturn, List.pairwise_singleton _ _, fun j hj k hk hwaits => ?_⟩
      rw [List.mem_singleton.mp hk] at hwaits
      -- what has ended has been started, so that all it waits for has succeeded
      have hsucceeded : run.status? i = some .succeeded := by
        rcases (hmem j).mp hj with h | h
        · exact hinv.granted j _ h (.inr (.inl rfl)) i hwaits
        · exact hinv.granted j _ h (.inr (.inr rfl)) i hwaits
      rw [hrunning] at hsucceeded
      cases hsucceeded

end Run

/-- The backends answer nothing, or a resource under the identifier of the action. -/
def Schedule.Identified (s : Schedule) (outcome : Nat → Outcome) : Prop :=
  ∀ i c r, s.actions[i]? = some c → c.action ≠ .delete → outcome i = .succeeded (some r) →
    r.id = c.id

/-- What such backends answer to an action is recorded under its identifier. -/
theorem Schedule.Identified.id_of_answer? {plan : Plan} {desired baseline : List Resource}
    {s : Schedule} {outcome : Nat → Outcome} {i : Nat} {x : Resource} (h : s.Identified outcome)
    (hplan : plan.Compares desired baseline) (hactions : s.actions = plan.actions)
    (hanswer : s.answer? outcome i = some x) :
    ∃ c, s.actions[i]? = some c ∧ c.action ≠ .delete ∧ x.id = c.id := by
  obtain ⟨c, hc, happly⟩ := Run.exists_action_of_answer? hanswer
  refine ⟨c, hc, happly, ?_⟩
  have hmem := (Plan.mem_actions_iff.mp (List.mem_of_getElem? (hactions ▸ hc))).1
  cases houtcome : outcome i with
  | failed text => simp [answer?, hc, houtcome] at hanswer
  | succeeded returned =>
    have hversion : some (returned.getD c.resource) = some x := by
      rw [← hanswer]
      simp only [answer?, hc, houtcome, Run.confirmedVersion, Change.resource]
      unfold Change.action at happly
      cases hsides : c.sides with
      | delete r => exact absurd (by rw [hsides]; rfl) happly
      | create d => rfl
      | update r d => rfl
      | noChange r d => rfl
    obtain rfl := Option.some.inj hversion
    cases returned with
    | none => exact hplan.resource_id hmem
    | some r => exact h i c r hc happly houtcome

/-- Of actions that have ended, in their order, those that succeeded. -/
def ExecutionResult.completed (result : ExecutionResult) (past : List Nat) : List Nat :=
  past.filter fun i => (result.records[i]?).map ActionRecord.status = some .succeeded

namespace Run

variable {plan : Plan} {desired baseline state : List Resource} {s : Schedule} {limit : Int}
  {outcome : Nat → Outcome} {run final : Run} {c : Change} {x : Resource} {i : Nat}
  {past done : List Nat} {answer? : Nat → Option Resource}

/-- **The order in which actions end is one in turn.** -/
theorem History.inTurn (hschedule : Schedule.of? plan baseline = .ok s)
    (h : History s limit outcome past run) (hfinal : final = run ∨ final = run.cancelPending)
    (cancelled : Bool) :
    plan.InTurn baseline (final.result plan baseline cancelled).records
      ((final.result plan baseline cancelled).completed past) := by
  obtain ⟨hnodup, hmem, hturn⟩ := h.settled (Schedule.lawful_of hschedule)
  have hstatus : ∀ i, ((final.result plan baseline cancelled).records[i]?).map ActionRecord.status
      = some .succeeded ↔ run.status? i = some .succeeded := fun _ => status?_left hfinal
  constructor
  case nodup => exact hnodup.filter _
  case mem_iff =>
    intro i
    rw [ExecutionResult.completed, List.mem_filter, hmem, decide_eq_true_eq, hstatus,
      and_iff_right_of_imp .inl, ← status?_left hfinal]
    exact status?_eq_some_iff
  case turn =>
    refine (hturn.imp fun {i j} hno hwaits => hno ?_).filter _
    have hedge : Walk.Edge s.waits i j := by
      rw [Schedule.edge_eq hschedule]
      exact hwaits
    exact hedge

section

variable (hlisted : final.records.map ActionRecord.subject = plan.actions.map fun c => (c.id, c.action))
  (hturn : plan.InTurn baseline final.records done)

include hlisted hturn

/-- No record under an identifier is of an action that succeeded, if no such action is about it. -/
theorem untouched_iff {id : String} :
    (∀ r ∈ final.records, r.resourceId = id → r.status ≠ .succeeded) ↔
      ∀ i ∈ done, ∀ c, plan.actions[i]? = some c → c.id ≠ id := by
  constructor
  · intro hrecords i hi c hc hid
    obtain ⟨r, hr, hst⟩ := (hturn.mem_iff i).mp hi
    obtain ⟨d, hd, hrid, _⟩ := action_of_record hlisted hr
    obtain rfl := Option.some.inj (hc.symm.trans hd)
    exact hrecords r (List.mem_of_getElem? hr) (hrid.trans hid) hst
  · intro huntouched r hr hid hst
    obtain ⟨i, hi⟩ := List.mem_iff_getElem?.mp hr
    obtain ⟨c, hc, hrid, _⟩ := action_of_record hlisted hi
    exact huntouched i ((hturn.mem_iff i).mpr ⟨r, hi, hst⟩) c hc (hrid.symm.trans hid)

/-- Where no resource needed no action, what is left was answered or is recorded and untouched. -/
theorem mem_state_iff (hplan : plan.Compares desired baseline)
    (hstate : plan.AppliesSucceeded baseline answer? final.records state)
    (hno : ∀ c ∈ plan.changes, c.action = .noChange → c.id ≠ x.id) :
    x ∈ state ↔ (∃ i ∈ done, answer? i = some x) ∨
      x ∈ baseline ∧ ∀ i ∈ done, ∀ c, plan.actions[i]? = some c → c.id ≠ x.id := by
  rw [hstate, untouched_iff hlisted hturn]
  constructor
  · rintro (⟨i, r, hr, hst, hanswer⟩ | ⟨c, hc, hcno, hcx⟩ | ⟨hx, huntouched, _⟩)
    · exact .inl ⟨i, (hturn.mem_iff i).mpr ⟨r, hr, hst⟩, hanswer⟩
    · exact absurd (hplan.id_of_desired hc hcx) (hno c hc hcno)
    · exact .inr ⟨hx, huntouched⟩
  · rintro (⟨i, hi, hanswer⟩ | ⟨hx, huntouched⟩)
    · obtain ⟨r, hr, hst⟩ := (hturn.mem_iff i).mp hi
      exact .inl ⟨i, r, hr, hst, hanswer⟩
    · exact .inr (.inr ⟨hx, huntouched, hno⟩)

/-- **What is left is what a replay holds** of the actions that succeeded. -/
theorem lookup_replay (hplan : plan.Compares desired baseline) (hbase : (Resource.ids baseline).Nodup)
    (hstate : plan.AppliesSucceeded baseline answer? final.records state)
    (hnodup : (Resource.ids state).Nodup)
    (hanswers : ∀ i c, plan.actions[i]? = some c → final.status? i = some .succeeded →
      c.action ≠ .delete → ∃ x, answer? i = some x)
    (happlies : ∀ i x, answer? i = some x →
      ∃ c, plan.actions[i]? = some c ∧ c.action ≠ .delete ∧ x.id = c.id) (id : String) :
    Resource.find id state = Assoc.lookup id (plan.replay baseline answer? done) := by
  by_cases hno : ∃ c ∈ plan.changes, c.action = .noChange ∧ c.id = id
  · obtain ⟨c, hc, hno, rfl⟩ := hno
    rw [Plan.lookup_replay_of_noChange hplan hc hno, Resource.find_eq_some_iff hnodup]
    have happly : c.action ≠ .delete := by
      rw [hno]
      decide
    have hx : c.resource ∈ state :=
      (hstate _).mpr (.inr (.inl ⟨c, hc, hno, Change.desired?_eq_some_iff.mpr ⟨happly, rfl⟩⟩))
    exact ⟨hx, hplan.resource_id hc⟩
  · push Not at hno
    rw [Plan.lookup_replay_of_forall_ne hplan hno]
    have hactions : ∀ i ∈ done, ∃ c, plan.actions[i]? = some c ∧
        (c.action ≠ .delete → ∃ r, answer? i = some r) := by
      intro i hi
      obtain ⟨r, hr, hst⟩ := (hturn.mem_iff i).mp hi
      obtain ⟨c, hc, _⟩ := action_of_record hlisted hr
      exact ⟨c, hc, hanswers i c hc (status?_eq_some_iff.mpr ⟨r, hr, hst⟩)⟩
    have htells := Plan.tells_foldl done hactions
      (fun i j c d hc hd happly hdelete hid =>
        hplan.waits_delete hbase hc hd happly hdelete hid) hturn.turn id
    have hmem : ∀ x : Resource, x.id = id → (x ∈ state ↔ _) := fun x hid =>
      mem_state_iff hlisted hturn hplan hstate (hid ▸ hno)
    generalize Assoc.lookup id (done.foldl (plan.replayAction answer?) (Plan.recorded baseline))
      = found at htells
    cases htells with
    | @put i c r mem action applies about answer =>
      obtain ⟨d, hd, _, hid⟩ := happlies i r answer
      obtain rfl := Option.some.inj (action.symm.trans hd)
      have hid : r.id = id := hid.trans about
      exact (Resource.find_eq_some_iff hnodup).mpr ⟨(hmem r hid).mpr (.inl ⟨i, mem, answer⟩), hid⟩
    | @drop i c mem action deletes about last =>
      rw [Resource.find_eq_none_iff, Resource.mem_ids]
      rintro ⟨x, hx, hid⟩
      rcases (hmem x hid).mp hx with ⟨j, hj, hanswer⟩ | ⟨_, huntouched⟩
      · obtain ⟨d, hd, happly, hxd⟩ := happlies j x hanswer
        exact last j hj d hd happly (hxd.symm.trans hid)
      · exact huntouched i mem c action (about.trans hid.symm)
    | kept untouched =>
      ext x
      rw [Resource.find_eq_some_iff hnodup, Plan.lookup_recorded_iff hbase]
      refine and_congr_left fun hid => ?_
      rw [hmem x hid, hid]
      refine ⟨?_, fun hx => .inr ⟨hx, untouched⟩⟩
      rintro (⟨i, hi, hanswer⟩ | ⟨hx, _⟩)
      · obtain ⟨d, hd, _, hxd⟩ := happlies i x hanswer
        exact absurd (hxd.symm.trans hid) (untouched i hi d hd)
      · exact hx

end

/-! ## The state of a run -/

/-- What a run has come to, in the versions that were answered, was answered under the right
identifiers. -/
theorem Sound.identified_applied (hplan : plan.Compares desired baseline)
    (hactions : s.actions = plan.actions) (h : Sound s outcome run) (hident : s.Identified outcome) :
    plan.Identified run.applied := by
  intro i r hmem
  obtain ⟨_, hanswer⟩ := (h.mem_applied i r).mp hmem
  obtain ⟨c, hc, _, hid⟩ := hident.id_of_answer? hplan hactions hanswer
  exact ⟨c, hactions ▸ hc, hid⟩

/-- **No result is missing** when the state of a run is put together. -/
theorem Sound.resultingState?_eq (hplan : plan.Compares desired baseline)
    (hactions : s.actions = plan.actions) (h : Sound s outcome run)
    (hlisted : final.records.map ActionRecord.subject = plan.actions.map fun c => (c.id, c.action))
    (hfinal : final = run ∨ final = run.cancelPending) :
    plan.resultingState? baseline final.statuses final.applied
      = .ok (plan.resultingState baseline final.statuses final.applied) := by
  have hlength : final.statuses.length = plan.actions.length := by
    have hlengths := congrArg List.length hlisted
    rw [List.length_map, List.length_map] at hlengths
    rw [statuses, List.length_map, hlengths]
  have hknown : plan.unknownResult? final.statuses final.applied = none := by
    rw [Plan.unknownResult?, Option.map_eq_none_iff, List.find?_eq_none]
    intro c hc
    simp only [Bool.and_eq_true, Bool.or_eq_true, decide_eq_true_eq, Bool.not_eq_true', not_and,
      Bool.not_eq_false, Assoc.has]
    rintro ⟨happly, hconfirmed⟩
    have hne : c.action ≠ .delete ∧ c.action ≠ .noChange := by
      rcases happly with h | h <;> rw [h] <;> decide
    obtain ⟨i, hi⟩ := List.mem_iff_getElem?.mp (Plan.mem_actions_iff.mpr ⟨hc, hne.2⟩)
    rw [Plan.confirmed_iff hplan.nodup hi, statuses_getElem?] at hconfirmed
    have hsucceeded := (status?_left hfinal).mp hconfirmed
    obtain ⟨returned, hreturned⟩ := h.succeeded i hsucceeded
    obtain ⟨x, hx⟩ := exists_answer? (hactions ▸ hi) hne.1 hreturned
    have happlied : final.applied = run.applied := by
      rcases hfinal with rfl | rfl <;> rfl
    obtain ⟨r, hr⟩ := Plan.exists_lookup_results hi ((h.mem_applied i x).mpr ⟨hsucceeded, hx⟩)
    rw [happlied, hr]
    rfl
  rw [Plan.resultingState?, if_neg (by omega), hknown]

/-- **The state of a run is a replay** of the actions that succeeded, in any order in turn. -/
theorem Reached.replays {g : Graph} (hcompute : Plan.compute desired baseline = .ok plan)
    (hgraph : Graph.build true desired = .ok g) (hschedule : Schedule.of? plan baseline = .ok s)
    (hident : s.Identified outcome) (hreached : Reached s limit outcome run)
    (hfinal : final = run ∨ final = run.cancelPending) (cancelled : Bool)
    (hturn : plan.InTurn baseline final.records done) :
    plan.Replays baseline g.order (s.answer? outcome) done
      (final.result plan baseline cancelled).state := by
  have hplan := Plan.compares_of hcompute
  obtain ⟨_, _, _, hrecorded, _, _⟩ := Plan.compute_inv hcompute
  have hbase := (Graph.Accepted.of_build hrecorded).nodup
  have hactions := (Schedule.of?_inv hschedule).1
  have hsound := (hreached.inv (Schedule.lawful_of hschedule)).toSound
  have happlied : plan.Identified final.applied := by
    have hsame : final.applied = run.applied := by
      rcases hfinal with rfl | rfl <;> rfl
    rw [hsame]
    exact hsound.identified_applied hplan hactions hident
  have hstate := hreached.appliesSucceeded hcompute hschedule hfinal cancelled
  have hlisted := hreached.listed_left hschedule hfinal
  have hnodup : (Resource.ids (final.result plan baseline cancelled).state).Nodup :=
    Plan.nodup_ids_resultingState hplan hbase happlied
  have hfind := lookup_replay hlisted hturn hplan hbase hstate hnodup
    (fun i c hc hsucceeded happly => by
      obtain ⟨returned, hreturned⟩ := hsound.succeeded i ((status?_left hfinal).mp hsucceeded)
      exact exists_answer? (hactions ▸ hc) happly hreturned)
    (fun i x hx => by
      obtain ⟨c, hc, happly, hid⟩ := hident.id_of_answer? hplan hactions hx
      exact ⟨c, hactions ▸ hc, happly, hid⟩)
  refine ⟨hnodup, hfind, ?_⟩
  simp only [← hfind]
  rw [← Plan.listing_eq hcompute hgraph]
  exact Resource.eq_filterMap_find (Plan.nodup_listing hplan hbase)
    (Plan.ids_resultingState_sublist hplan hbase happlied)

end Run

/-! ## The states of an execution -/

/-- **A result is a replay** of the actions that have ended: the order in which they did is in turn, and
whatever the order in turn in which those that succeeded are replayed, they come to its state. -/
structure ExecutionResult.IsReplay (plan : Plan) (baseline : List Resource) (order : List String)
    (answer? : Nat → Option Resource) (past : List Nat) (result : ExecutionResult) : Prop where
  inTurn : plan.InTurn baseline result.records (result.completed past)
  replays : ∀ done, plan.InTurn baseline result.records done →
    plan.Replays baseline order answer? done result.state

/-- Backends that answer under the right identifiers. -/
theorem Schedule.identified_outcomes {plan : Plan} {desired baseline : List Resource} {s : Schedule}
    {start : Sandbox} (hplan : plan.Compares desired baseline) (hactions : s.actions = plan.actions)
    (hanswer : ∀ id r, start.answer? id = some (some r) → r.id = id) (limits : Limits) :
    s.Identified (s.outcomes limits start) := by
  intro i c r hc happly hsucceeded
  have hid := hplan.resource_id (Plan.mem_actions_iff.mp (List.mem_of_getElem? (hactions ▸ hc))).1
  have hanswered := answerOf_of_succeeded hc hsucceeded
  rw [Sandbox.answerOf_of_apply happly] at hanswered
  cases ha : start.answer? c.resource.id with
  | none =>
    rw [ha, Option.getD_none, Option.some.injEq] at hanswered
    rw [← hanswered, hid]
  | some answer =>
    rw [ha, Option.getD_some] at hanswered
    rw [hanswer c.resource.id r (ha.trans (congrArg some hanswered)), hid]

namespace Execution

variable {σ : Type}

/-- Logs every result that is reported. -/
def logged (report : ExecutionResult → σ → Reception × σ) (result : ExecutionResult)
    (context : σ × List ExecutionResult) : Reception × σ × List ExecutionResult :=
  let (reception, passed) := report result context.1
  (reception, passed, context.2 ++ [result])

/-- What is left of an execution, if anything is. -/
def left? : Ending → Option ExecutionResult
  | .finished result => some result
  | .interrupted _ left _ => left

/-- The results that an execution shows: those it has reported, and what is left of it. -/
def shown (answer : Ending × Sandbox × σ × List ExecutionResult) : List ExecutionResult :=
  answer.2.2.2 ++ (left? answer.1).toList

end Execution

namespace Move

/-- A resource that stays as it is. -/
def kept : Resource := { id := "b", backend := .kubernetes }

/-- The version that the new backend answers. -/
def answered : Resource := { id := "a", backend := .terraform, attributes := [("x", .int 2)] }

/-- The move, beside a resource that needs no action. -/
def mixed : Plan := ⟨plan.changes ++ [{ id := "b", sides := .noChange kept kept }]⟩

/-- A backend that answers a version of its own. -/
def sandbox : Sandbox := { answer? := fun id => if id = "a" then some (some answered) else none }

/-- The move, executed. -/
def executed : Ending × Sandbox × Unit × List ExecutionResult :=
  (Execution.init mixed [old, kept] schedule ⟨.whole 1, 1⟩ {} false default).complete default
    (Execution.logged fun _ _ => ({}, ())) sandbox ((), [])

end Move

namespace Execution

variable {σ : Type} {plan : Plan} {desired baseline : List Resource} {s : Schedule} {g : Graph}

/-- What was logged are results of runs. -/
def Logs (plan : Plan) (baseline : List Resource) (s : Schedule) (limits : Limits) (start : Sandbox)
    (context : σ × List ExecutionResult) : Prop :=
  ∀ result ∈ context.2, ∃ run, Run.Reached s limits.concurrency (s.outcomes limits start) run ∧
    result = run.result plan baseline false

theorem Logs.logged {limits : Limits} {start sandbox : Sandbox} {run : Run}
    {context : σ × List ExecutionResult} (h : Logs plan baseline s limits start context)
    (hreached : Reached s limits start (run, sandbox))
    (report : ExecutionResult → σ → Reception × σ) :
    Logs plan baseline s limits start
      (Execution.logged report (run.result plan baseline false) context).2 := by
  intro result hresult
  rcases List.mem_append.mp hresult with hresult | hresult
  · exact h result hresult
  · exact ⟨run, Reached.run hreached, List.mem_singleton.mp hresult⟩

/-- What is left of an execution is the result of a run. -/
theorem Ends.exists_run_of_left {e : Execution} {start sandbox : Sandbox} {ending : Ending}
    (h : Ends e start ending sandbox) {result : ExecutionResult} (hleft : left? ending = some result) :
    ∃ run cancelled, Run.Reached e.schedule e.limits.concurrency
        (e.schedule.outcomes e.limits start) run ∧
      result = run.cancelPending.result e.plan e.baseline cancelled := by
  cases h with
  | finished reached _ =>
    cases hleft
    exact ⟨_, _, Reached.run reached, rfl⟩
  | interrupted _ reached _ =>
    cases hleft
    exact ⟨_, _, Reached.run reached, rfl⟩
  | dropped _ _ _ _ => cases hleft

/-- What an execution shows are results of runs. -/
theorem exists_run_of_shown (hs : s.Lawful) (report : ExecutionResult → σ → Reception × σ)
    (context : σ) {limits : Limits} {start : Sandbox} (interrupts : Interrupts) (stopped : Bool)
    (now : Instant) (clock : DateTime) {result : ExecutionResult}
    (hresult : result ∈ shown ((init plan baseline s limits interrupts stopped now).complete clock
      (logged report) start (context, []))) :
    ∃ run final cancelled, Run.Reached s limits.concurrency (s.outcomes limits start) run ∧
      (final = run ∨ final = run.cancelPending) ∧
      result = final.result plan baseline cancelled := by
  have hkept : Logs plan baseline s limits start ((init plan baseline s limits interrupts stopped
      now).complete clock (logged report) start (context, [])).2.2 :=
    complete_keeps hs plan baseline start now clock interrupts stopped (logged report)
      (Logs plan baseline s limits start)
      (fun run sandbox context hreached h => Logs.logged h hreached report)
      (fun result hresult => by cases hresult)
  have hends : Ends (init plan baseline s limits interrupts stopped now) start _ _ :=
    complete_ends hs plan baseline start now clock interrupts stopped (logged report) (context, [])
  generalize (init plan baseline s limits interrupts stopped now).complete clock (logged report)
    start (context, []) = answer at *
  rcases List.mem_append.mp hresult with hresult | hresult
  · obtain ⟨run, hreached, hrun⟩ := hkept result hresult
    exact ⟨run, run, false, hreached, .inl rfl, hrun⟩
  · obtain ⟨run, cancelled, hreached, hrun⟩ :=
      hends.exists_run_of_left (Option.mem_toList.mp hresult)
    exact ⟨run, _, cancelled, hreached, .inr rfl, hrun⟩

/-- **Every state of an execution is a replay.**  Whatever the backends answer, if only under the right
identifiers, what is left of a run is what the recorded resources become by the actions that
succeeded, one after the other, and by recording the resources that needed no action in their desired
versions; no result is missing for it.  The states that an execution reports while it goes on, and the
one it ends with, however it is stopped, interrupted or refused, are those of such runs. -/
theorem state_replays (hcompute : Plan.compute desired baseline = .ok plan)
    (hgraph : Graph.build true desired = .ok g) (hschedule : Schedule.of? plan baseline = .ok s) :
    (∀ limit outcome past run final cancelled, s.Identified outcome →
      Run.History s limit outcome past run → (final = run ∨ final = run.cancelPending) →
      plan.resultingState? baseline final.statuses final.applied
          = .ok (final.result plan baseline cancelled).state ∧
        (final.result plan baseline cancelled).IsReplay plan baseline g.order (s.answer? outcome)
          past) ∧
    ∀ {σ : Type} (report : ExecutionResult → σ → Reception × σ) (context : σ) (limits : Limits)
      (interrupts : Interrupts) (stopped : Bool) (now : Instant) (clock : DateTime)
      (start : Sandbox), (∀ id r, start.answer? id = some (some r) → r.id = id) →
      ∀ result ∈ shown ((init plan baseline s limits interrupts stopped now).complete clock
        (logged report) start (context, [])),
        ∃ past run final cancelled,
          Run.History s limits.concurrency (s.outcomes limits start) past run ∧
          (final = run ∨ final = run.cancelPending) ∧
          result = final.result plan baseline cancelled ∧
          plan.resultingState? baseline final.statuses final.applied = .ok result.state ∧
          result.IsReplay plan baseline g.order (s.answer? (s.outcomes limits start)) past := by
  have hs := Schedule.lawful_of hschedule
  have hplan := Plan.compares_of hcompute
  have hactions := (Schedule.of?_inv hschedule).1
  have hruns : ∀ limit outcome past run final cancelled, s.Identified outcome →
      Run.History s limit outcome past run → (final = run ∨ final = run.cancelPending) →
      plan.resultingState? baseline final.statuses final.applied
          = .ok (final.result plan baseline cancelled).state ∧
        (final.result plan baseline cancelled).IsReplay plan baseline g.order (s.answer? outcome)
          past := by
    intro limit outcome past run final cancelled hident hhistory hfinal
    have hreached := hhistory.reached
    have hlisted := hreached.listed_left hschedule hfinal
    refine ⟨(hreached.inv hs).toSound.resultingState?_eq hplan hactions hlisted hfinal, ?_, ?_⟩
    · exact hhistory.inTurn hschedule hfinal cancelled
    · intro done hturn
      exact hreached.replays hcompute hgraph hschedule hident hfinal cancelled hturn
  refine ⟨hruns, ?_⟩
  intro σ report context limits interrupts stopped now clock start hanswer result hresult
  obtain ⟨run, final, cancelled, hreached, hfinal, rfl⟩ :=
    exists_run_of_shown hs report context interrupts stopped now clock hresult
  obtain ⟨past, hhistory⟩ := Run.reached_iff_history.mp hreached
  obtain ⟨hfound, hreplay⟩ := hruns _ _ past run final cancelled
    (Schedule.identified_outcomes hplan hactions hanswer limits) hhistory hfinal
  exact ⟨past, run, final, cancelled, hhistory, hfinal, rfl, hfound, hreplay⟩

/-- The move is reported when the old version is deleted and when the new one is created; in the end
the version is recorded that the backend answered. -/
theorem state_replays_move :
    Plan.compute [Move.new, Move.kept] [Move.old, Move.kept] = .ok Move.mixed ∧
      Schedule.of? Move.mixed [Move.old, Move.kept] = .ok Move.schedule ∧
      (shown Move.executed).map ExecutionResult.state =
        [[Move.kept], [Move.answered, Move.kept], [Move.answered, Move.kept]] ∧
      ∀ result ∈ shown Move.executed, ∃ past,
        result.IsReplay Move.mixed [Move.old, Move.kept] ["a", "b"]
          (Move.schedule.answer? (Move.schedule.outcomes ⟨.whole 1, 1⟩ Move.sandbox)) past := by
  have hcompute : Plan.compute [Move.new, Move.kept] [Move.old, Move.kept] = .ok Move.mixed := rfl
  have hschedule : Schedule.of? Move.mixed [Move.old, Move.kept] = .ok Move.schedule := rfl
  obtain ⟨g, hgraph, horder⟩ : ∃ g, Graph.build true [Move.new, Move.kept] = .ok g ∧
      g.order = ["a", "b"] := ⟨_, rfl, rfl⟩
  have hanswer : ∀ id r, Move.sandbox.answer? id = some (some r) → r.id = id := by
    intro id r h
    simp only [Move.sandbox] at h
    split at h
    · rename_i hid
      cases h
      exact hid.symm
    · cases h
  refine ⟨hcompute, hschedule, rfl, fun result hresult => ?_⟩
  obtain ⟨past, _, _, _, _, _, _, _, hreplay⟩ := (state_replays hcompute hgraph hschedule).2
    (fun _ _ => ({}, ())) () ⟨.whole 1, 1⟩ {} false default default Move.sandbox hanswer result hresult
  exact ⟨past, horder ▸ hreplay⟩

end Execution

end Rollout
