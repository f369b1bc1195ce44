import Rollout.Proofs.Engine.History
import Rollout.Proofs.Store.History

/-!
# A preview shows what would be done

A preview plans against the recorded state as an application does, and leaves that state as it is.  So
what is previewed is what is applied next.

* `Backing.Lawful.Stands` : the newest release of a triple;
* `Engine.Planned` : how far an operation gets that needs a spec;
* `Engine.Previewed` : how a preview ends;
* `Engine.Agree` : a preview and an application that fail alike, or have the same plan;
* `Engine.preview_agrees` : a preview and the application after it.
-/

set_option autoImplicit false

namespace Rollout

/-! ## The newest release -/

/-- Why no release can be created next: a name is refused, or the latest release cannot be read. -/
inductive Shelf.Refuses (rules : Store.Rules) (t : Triple) (shelf : Shelf) (e : Failure) : Prop
  | reserve (refused : rules.reserve t shelf.next = .error e)
  | latest (reserved : rules.reserve t shelf.next = .ok ()) (unreadable : shelf.latest = .error e)
  | record (reserved : rules.reserve t shelf.next = .ok ())
      (readable : shelf.latest = .ok shelf.newest?) (refused : rules.record t shelf.next = .error e)

theorem Shelf.refuses_or_accepts (rules : Store.Rules) (t : Triple) (shelf : Shelf) :
    (∃ e, shelf.Refuses rules t e) ∨
      rules.Accepts t shelf.next ∧ shelf.latest = .ok shelf.newest? := by
  cases hreserve : rules.reserve t shelf.next with
  | error e => exact .inl ⟨e, .reserve hreserve⟩
  | ok _ =>
    rcases shelf.latest_cases with ⟨e, he⟩ | hlatest
    · exact .inl ⟨e, .latest hreserve he⟩
    cases hrecord : rules.record t shelf.next with
    | error e => exact .inl ⟨e, .record hreserve hlatest hrecord⟩
    | ok _ => exact .inr ⟨⟨hreserve, hrecord⟩, hlatest⟩

/-- What refuses a release goes on refusing it when its revision has been taken back. -/
theorem Shelf.Refuses.takeBack {rules : Store.Rules} {t : Triple} {shelf : Shelf} {e : Failure}
    (h : shelf.Refuses rules t e) : (shelf.takeBack rules).Refuses rules t e := by
  cases hcounts : rules.counts with
  | false =>
    rw [Shelf.takeBack, hcounts]
    exact h
  | true =>
    have hlenient := rules.lenient_of_counts hcounts t
    cases h with
    | reserve refused =>
      rw [(hlenient _).1] at refused
      cases refused
    | latest _ unreadable =>
      exact .latest (hlenient _).1 ((Shelf.latest_takeBack rules shelf).trans unreadable)
    | record _ _ refused =>
      rw [(hlenient _).2] at refused
      cases refused

namespace Backing.Lawful

variable {σ : Type} [Backing σ] (L : Backing.Lawful σ) {s : σ} {t : Triple} {shelf : Shelf} {k : Int}
  {base : List Resource} {r : Release} {e : Failure}

/-- **A release stands** at the newest revision of its triple, with a state. -/
structure Stands (t : Triple) (k : Int) (base : List Resource) (r : Release) (s : σ) : Prop where
  triple : r.triple = t
  revision : r.revision = k
  state : r.state = some base
  finite : ∀ x ∈ base, x.Finite
  problems : r.problems = []
  newest : ∃ shelf, L.Keeps s t shelf ∧ shelf.Orderly False L.rules t ∧
    shelf.at? k = some r.dumped ∧ shelf.allocated = k

variable {L}

theorem Stands.resources (h : L.Stands t k base r s) : r.resources = base := by
  rw [Release.resources, h.state, Option.getD_some]

/-- The record of a release holds the state that the release stands with. -/
theorem Stands.dumped_resources (h : L.Stands t k base r s) : r.dumped.resources = base := by
  rw [Release.dumped_resources, h.resources, Resource.map_dumped_eq_self_iff.mpr h.finite]

/-- What stands is found, and is what the next release takes its state from. -/
theorem Stands.newest? (h : L.Stands t k base r s) : ∃ shelf, L.Keeps s t shelf ∧
    shelf.Orderly False L.rules t ∧ shelf.latest = .ok shelf.newest? ∧
    Release.lastState shelf.newest?.toList = base ∧ shelf.next = k + 1 := by
  obtain ⟨shelf, hkeeps, ho, hr, hallocated⟩ := h.newest
  have hle : ∀ j ∈ Assoc.keys shelf.releases, j ≤ k := fun j hj => hallocated ▸ ho.le_allocated hj
  have hnewest := Shelf.newest?_eq_some hr hle
  refine ⟨shelf, hkeeps, ho, Shelf.latest_eq ?_, ?_, congrArg (· + 1) hallocated⟩
  · rw [hnewest]
    rintro _ ⟨⟩
    exact r.problems_dumped.trans h.problems
  · rw [hnewest]
    exact h.dumped_resources

/-- A later version of what stands is saved. -/
theorem Stands.save (h : L.Stands t k base r s) (hopen : r.isTerminal = false) (r' : Release)
    (htriple : r'.triple = r.triple) (hrevision : r'.revision = r.revision)
    (hstate : r'.state = r.state) (hproblems : r'.problems = []) :
    ∃ s', Keeper.save r' s = (.ok (), s') ∧ L.Stands t k base r' s' := by
  obtain ⟨shelf, hkeeps, ho, hr, hallocated⟩ := h.newest
  have htriple' : r'.triple = t := htriple.trans h.triple
  have hrevision' : r'.revision = k := hrevision.trans h.revision
  subst htriple' hrevision'
  have hreread : r.dumped.reread = .ok r.dumped :=
    Release.reread_eq (r.problems_dumped.trans h.problems)
  have hadmits : shelf.admits L.rules r' = .ok true := by
    simp only [Shelf.admits, ho.record_of_at? hr, hr, hreread, Release.dumped_isTerminal, hopen,
      Bool.false_eq_true, if_false]
  obtain ⟨s', hs', hkeeps', -⟩ := L.save_ok hkeeps ho hadmits
  have hstored : r'.revision ∈ Assoc.keys shelf.releases := Shelf.mem_keys_iff.mpr ⟨_, hr⟩
  refine ⟨s', by simp only [Keeper.save, hs'], rfl, rfl, hstate.trans h.state, h.finite, hproblems,
    shelf.put r'.dumped, hkeeps', ho.put hstored rfl r'.dumped_finite False.elim, ?_, hallocated⟩
  rw [Shelf.at?_put]
  exact if_pos rfl

/-- Nothing is created where a release is refused, and it goes on being refused. -/
theorem create_refused (hkeeps : L.Keeps s t shelf) (ho : shelf.Orderly False L.rules t)
    (he : shelf.Refuses L.rules t e) (now : DateTime) :
    ∃ s' shelf', Keeper.create now t s = (.error e, s') ∧ L.Keeps s' t shelf' ∧
      shelf'.Orderly False L.rules t ∧ shelf'.Refuses L.rules t e ∧
      shelf'.latest = shelf.latest := by
  obtain ⟨s', hs', hkeeps', -⟩ := L.create_turns hkeeps ho now
  have htakenBack := ho.takeBack fun _ => not_false
  cases id he with
  | reserve refused =>
    simp only [Shelf.create, refused] at hs' hkeeps'
    exact ⟨s', shelf, hs', hkeeps', ho, he, rfl⟩
  | latest reserved unreadable =>
    simp only [Shelf.create, reserved, unreadable] at hs' hkeeps'
    exact ⟨s', _, hs', hkeeps', htakenBack, he.takeBack, Shelf.latest_takeBack _ _⟩
  | record reserved readable refused =>
    simp only [Shelf.create, reserved, readable, refused] at hs' hkeeps'
    exact ⟨s', _, hs', hkeeps', htakenBack, he.takeBack, Shelf.latest_takeBack _ _⟩

/-- What is created stands, with the state of what stood before. -/
theorem create_stands (hkeeps : L.Keeps s t shelf) (ho : shelf.Orderly False L.rules t)
    (haccepts : L.rules.Accepts t shelf.next) (hreadable : shelf.latest = .ok shelf.newest?)
    (now : DateTime) :
    ∃ r s', Keeper.create now t s = (.ok r, s') ∧ r.phase = .generating ∧
      L.Stands t shelf.next (Release.lastState shelf.newest?.toList) r s' := by
  obtain ⟨hreserve, hrecord⟩ := haccepts
  obtain ⟨s', hs', hkeeps', -⟩ := L.create_turns hkeeps ho now
  have horderly := (ho.create_step now).orderly ho
  simp only [Shelf.create, hreserve, hreadable, hrecord] at hs' hkeeps' horderly
  have hfinite := ho.finite_created now
  have hproblems : (shelf.created now t).problems = [] := by
    refine (Release.sound_new (fun r hr => ?_) ho.next_pos).readable
    rw [Option.mem_toList] at hr
    exact ⟨Shelf.readable_of_latest hreadable r hr, ho.finite_newest? r hr⟩
  refine ⟨_, s', hs', rfl, rfl, rfl, rfl, hfinite.state, hproblems, _, hkeeps', horderly, ?_, rfl⟩
  rw [Shelf.at?_fill, hfinite.dumped_eq]
  exact if_pos rfl

end Backing.Lawful

/-! ## Reading -/

/-- A read logs at most its call. -/
theorem LiveRead.launch_calls (limits : Limits) (r : Resource) (s : Sandbox) :
    ∃ ids : List String,
      (launch limits r s).2 = { s with calls := s.calls ++ ids.map (Call.read, ·) } := by
  unfold launch
  split
  · exact ⟨[], by simp⟩
  split
  · exact ⟨[], by simp⟩
  dsimp only
  split
  · exact ⟨[r.id], rfl⟩
  · exact ⟨[r.id], rfl⟩

/-- **Reading** logs reads, and changes nothing else. -/
theorem readLive_calls (limits : Limits) : ∀ (resources : List Resource)
    (found : List (String × Option Resource)) (s : Sandbox), ∃ ids : List String,
      (readLive limits resources found s).2 = { s with calls := s.calls ++ ids.map (Call.read, ·) }
  | [], found, s => ⟨[], by simp [readLive]⟩
  | r :: rest, found, s => by
    obtain ⟨ids, hids⟩ := LiveRead.launch_calls limits r s
    rw [readLive]
    generalize LiveRead.launch limits r s = launched at hids
    obtain ⟨read, s'⟩ := launched
    simp only at hids ⊢
    subst hids
    cases read.finish _ with
    | error e => exact ⟨ids, rfl⟩
    | ok found' =>
      obtain ⟨later, hlater⟩ := readLive_calls limits rest (Assoc.put r.id found' found)
        { s with calls := s.calls ++ ids.map (Call.read, ·) }
      exact ⟨ids ++ later, by simp only [hlater, List.map_append, List.append_assoc]⟩

namespace Engine

/-! ## The plan of an operation -/

/-- A failure that is recorded on a release, which nothing was planned for. -/
def Recorded (e : Failure) (verdict : Verdict) : Prop :=
  ∃ release : Release, release.phase = .failed ∧
    verdict = .ok { release, error := some e.message }

/-- A plan that was made: it is to be executed, or the resources are to be read, or the operation has
ended with it, or the limits do not allow any execution. -/
def Prepared.Plans (plan : Plan) : Prepared → Prop
  | .executing _ made _ => made = plan
  | .reading _ made => made = plan
  | .ended made (.ok d) => made = some plan ∧ d.plan = some plan
  | .ended made (.error (.limit _)) => made = some plan
  | .ended _ (.error _) => False

/-- What an operation that needs a spec comes to, told from what is generated for it. -/
def Answers (generated : Except Failure (List Resource × Plan)) (prepared : Prepared)
    (verdict : Verdict) : Prop :=
  match generated with
  | .error e => if e.isRecorded then Recorded e verdict else verdict = .error e
  | .ok (_, plan) => prepared.Plans plan ∧ ∀ d, verdict = .ok d → d.plan = some plan

section

variable {σ : Type} [Keeper σ] {engine : Engine} {request : Request σ} {r : Release} {plan : Plan}
  {s : σ} {d : Delivery}

theorem finish_delivers {finished : Except LifecycleError Release} {deliver : Release → Delivery}
    (h : (finish finished deliver s).1 = .ok d) : ∃ r, d = deliver r := by
  unfold finish at h
  split at h
  · cases h
  · split at h
    · cases h
    · exact ⟨_, (Except.ok.inj h).symm⟩

theorem giveUp_plan {made : Option Plan} {text : String}
    (h : (engine.giveUp r made text s).1 = .ok d) : d.plan = made := by
  obtain ⟨_, rfl⟩ := finish_delivers h
  rfl

/-- What is delivered in the end has the plan that was executed. -/
theorem conclude_plan {ending : Ending} (h : (engine.conclude r plan ending s).1 = .ok d) :
    d.plan = some plan := by
  unfold conclude at h
  split at h
  · unfold settle at h
    simp only at h
    split at h
    · obtain ⟨_, rfl⟩ := finish_delivers h
      rfl
    · obtain ⟨_, rfl⟩ := finish_delivers h
      rfl
  · exact giveUp_plan h
  · cases h
  · unfold record at h
    split at h
    · cases h
    · simp only at h
      split at h
      · cases h
      · split at h <;> cases h

theorem concludeRead_plan {live : Except Failure (List (String × Option Resource))}
    (h : (engine.concludeRead r plan live s).1 = .ok d) : d.plan = some plan := by
  unfold concludeRead at h
  split at h
  · obtain ⟨_, rfl⟩ := finish_delivers h
    rfl
  · exact giveUp_plan h
  · cases h

/-- **Whatever becomes of a plan**, what is delivered has it. -/
theorem complete_plan {prepared : Prepared} (h : prepared.Plans plan) {sandbox : Sandbox}
    (hd : (engine.complete request prepared sandbox s).1 = .ok d) : d.plan = some plan := by
  cases prepared with
  | ended made verdict =>
    cases show verdict = .ok d from hd
    exact h.2
  | executing r made execution =>
    cases h
    simp only [complete] at hd
    exact conclude_plan hd
  | reading r made =>
    cases h
    simp only [complete] at hd
    exact concludeRead_plan hd

end

section

variable {σ : Type} [Backing σ] {L : Backing.Lawful σ} {engine : Engine} {request : Request σ}
  {pipeline : Pipeline} {t : Triple} {k : Int} {base : List Resource} {r : Release} {s : σ}
  {shelf : Shelf}

/-! ## The ends of a release without an execution -/

/-- A release that is given up keeps standing. -/
theorem giveUp_stands (h : L.Stands t k base r s) (hopen : r.isTerminal = false) (engine : Engine)
    (plan : Option Plan) (text : String) :
    ∃ (r' : Release) (s' : σ), r'.phase = .failed ∧ L.Stands t k base r' s' ∧
      engine.giveUp r plan text s = (.ok { release := r', plan, error := some text }, s') := by
  let failed := { r with error := some text, phase := .failed, modifiedTime := engine.clock }
  have hproblems : failed.problems = [] := Release.problems_congr h.problems rfl rfl rfl
  obtain ⟨s', hsave, hstands⟩ := h.save hopen failed rfl rfl rfl hproblems
  refine ⟨failed, s', rfl, hstands, ?_⟩
  have hfail : r.fail engine.clock text none = .ok failed := Release.fail_none _ _ hopen
  simp only [giveUp, hfail, finish, hsave]

/-- A preview that ends keeps its release standing. -/
theorem concludePreview_stands (h : L.Stands t k base r s) (hphase : r.phase = .previewing)
    (engine : Engine) (plan : Plan) (drift : List DriftReport) :
    ∃ (r' : Release) (s' : σ), L.Stands t k base r' s' ∧
      engine.concludePreview r plan drift s = (.ok { release := r', plan, drift }, s') := by
  have hopen : r.isTerminal = false := by rw [Release.isTerminal, hphase]; rfl
  let done := { r with phase := .succeeded, modifiedTime := engine.clock }
  have hproblems : done.problems = [] := Release.problems_congr h.problems rfl rfl rfl
  obtain ⟨s', hsave, hstands⟩ := h.save hopen done rfl rfl rfl hproblems
  refine ⟨done, s', hstands, ?_⟩
  have hsucceed : r.succeed engine.clock none = .ok done := Release.succeed_none _ hphase
  simp only [concludePreview, hsucceed, finish, hsave]

/-- Whatever the reads answer, a release keeps standing. -/
theorem concludeRead_stands (h : L.Stands t k base r s) (hphase : r.phase = .previewing)
    (engine : Engine) (plan : Plan) (live : Except Failure (List (String × Option Resource))) :
    ∃ r', L.Stands t k base r' (engine.concludeRead r plan live s).2 := by
  have hopen : r.isTerminal = false := by rw [Release.isTerminal, hphase]; rfl
  unfold concludeRead
  split
  · obtain ⟨r', s', hstands, hconclude⟩ := concludePreview_stands h hphase engine plan
      (detectDrift r.resources ‹_›)
    rw [hconclude]
    exact ⟨r', hstands⟩
  · rename_i e
    obtain ⟨r', s', -, hstands, hgiveUp⟩ := giveUp_stands h hopen engine (some plan) e.message
    rw [hgiveUp]
    exact ⟨r', hstands⟩
  · exact ⟨r, h⟩

/-! ## Preparation -/

/-- How far an operation gets that needs a spec, once its release was created. -/
inductive Planned (L : Backing.Lawful σ) (t : Triple) (k : Int) (base : List Resource)
    (generated : Except Failure (List Resource × Plan)) (phase : Phase)
    (next : Release → Plan → σ → Prepared × σ) : Prepared × σ → Prop
  | recorded {e : Failure} {verdict : Verdict} {r : Release} {s : σ} (refused : generated = .error e)
      (isRecorded : e.isRecorded = true) (recorded : Recorded e verdict)
      (stands : L.Stands t k base r s) :
      Planned L t k base generated phase next (.ended none verdict, s)
  | escaped {e : Failure} {r : Release} {s : σ} (refused : generated = .error e)
      (escapes : e.isRecorded = false) (stands : L.Stands t k base r s) :
      Planned L t k base generated phase next (.ended none (.error e), s)
  | planned {spec : List Resource} {plan : Plan} {r : Release} {s : σ}
      (generated_eq : generated = .ok (spec, plan)) (hphase : r.phase = phase)
      (stands : L.Stands t k base r s) : Planned L t k base generated phase next (next r plan s)

/-- What was planned for names all its resources. -/
theorem named_of_generate {spec : List Resource} {plan : Plan}
    (h : generate pipeline base = .ok (spec, plan)) : "" ∉ Resource.ids spec := by
  obtain ⟨hrun, hcompute⟩ := generate_inv h
  obtain ⟨⟨_, hrun', -, -, hnamed⟩, -⟩ := plans_of_compute hrun hcompute
  cases hrun.symm.trans hrun'
  exact hnamed

/-- A release is given its spec, and keeps standing. -/
theorem saveStarted_stands (h : L.Stands t k base r s) (hphase : r.phase = .generating)
    {spec : List Resource} (hnamed : "" ∉ Resource.ids spec) (engine : Engine)
    (operation : Operation) : ∃ (r' : Release) (s' : σ), r'.phase = operation.phase ∧
      L.Stands t k base r' s' ∧
      saveStarted (engine.startWith spec operation r) s = (.ok r', s') := by
  have hopen : r.isTerminal = false := by rw [Release.isTerminal, hphase]; rfl
  let started :=
    { r with spec := some spec, phase := operation.phase, modifiedTime := engine.clock }
  have hproblems : started.problems = [] := Release.problems_of_spec h.problems hnamed rfl rfl rfl
  obtain ⟨s', hsave, hstands⟩ := h.save hopen started rfl rfl rfl hproblems
  refine ⟨started, s', rfl, hstands, ?_⟩
  have hstart : engine.startWith spec operation r = .ok started :=
    startWith_eq engine spec operation hphase
  simp only [hstart, saveStarted, hsave]

/-- **The preparation of an operation that needs a spec**, where its release can be created. -/
theorem prepareSpec_planned (engine : Engine) (pipeline : Pipeline)
    (hkeeps : L.Keeps s request.triple shelf)
    (ho : shelf.Orderly False L.rules request.triple)
    (haccepts : L.rules.Accepts request.triple shelf.next)
    (hreadable : shelf.latest = .ok shelf.newest?) (operation : Operation)
    (next : Release → Plan → σ → Prepared × σ) :
    let base := Release.lastState shelf.newest?.toList
    Planned L request.triple shelf.next base (generate pipeline base) operation.phase next
      (engine.prepareSpec request pipeline operation next s) := by
  intro base
  obtain ⟨r, s', hcreate, hphase, hstands⟩ :=
    Backing.Lawful.create_stands hkeeps ho haccepts hreadable engine.clock
  have hopen : r.isTerminal = false := by rw [Release.isTerminal, hphase]; rfl
  unfold prepareSpec
  simp only [hcreate, hstands.resources]
  cases hgenerate : generate pipeline base with
  | error e =>
    cases hrecorded : e.isRecorded with
    | true =>
      obtain ⟨r', s'', hfailed, hstands', hgiveUp⟩ :=
        giveUp_stands hstands hopen engine none e.message
      simp only [hrecorded, if_true, hgiveUp, Prepared.ofVerdict]
      exact .recorded rfl hrecorded ⟨r', hfailed, rfl⟩ hstands'
    | false =>
      simp only [hrecorded, Bool.false_eq_true, if_false]
      exact .escaped rfl hrecorded hstands
  | ok made =>
    obtain ⟨spec, plan⟩ := made
    obtain ⟨r', s'', hphase', hstands', hsaved⟩ :=
      saveStarted_stands hstands hphase (named_of_generate hgenerate) engine operation
    simp only [hsaved]
    exact .planned rfl hphase' hstands'

/-! ## Whole operations -/

/-- An operation that needs a spec comes to what is generated for it, where its plan is not lost. -/
theorem Planned.answers {generated : Except Failure (List Resource × Plan)} {phase : Phase}
    {next : Release → Plan → σ → Prepared × σ} {stage : Prepared × σ}
    (h : Planned L t k base generated phase next stage)
    (hnext : ∀ r plan s, r.phase = phase → L.Stands t k base r s → (next r plan s).1.Plans plan)
    (sandbox : Sandbox) :
    Answers generated stage.1 (engine.complete request stage.1 sandbox stage.2).1 := by
  cases h with
  | recorded refused isRecorded recorded stands =>
    rw [refused]
    simp only [Answers, if_pos isRecorded]
    exact recorded
  | escaped refused escapes stands =>
    rw [refused]
    simp only [Answers, escapes, Bool.false_eq_true, if_false]
    rfl
  | @planned spec plan r s generated_eq hphase stands =>
    rw [generated_eq]
    have hplans := hnext r plan s hphase stands
    exact ⟨hplans, fun d hd => complete_plan hplans hd⟩

theorem schedule_plans (h : L.Stands t k base r s) (hopen : r.isTerminal = false) (plan : Plan)
    (now : Instant) : (engine.schedule request r plan now s).1.Plans plan := by
  unfold schedule
  split
  · rfl
  · split
    · rename_i e _
      obtain ⟨r', s', -, -, hgiveUp⟩ := giveUp_stands h hopen engine (some plan) e.message
      rw [hgiveUp]
      exact ⟨rfl, rfl⟩
    · rfl

/-- What comes after the planning of a preview. -/
def lookAt (engine : Engine) (live : Bool) (r : Release) (plan : Plan) (s : σ) : Prepared × σ :=
  if live then (.reading r plan, s)
  else Prepared.ofVerdict plan (engine.concludePreview r plan [] s)

theorem prepare_eq_lookAt {live : Bool} (htask : request.task = .preview pipeline live)
    (now : Instant) : engine.prepare request now s
      = engine.prepareSpec request pipeline .preview (engine.lookAt live) s := by
  unfold prepare
  cases live <;> simp only [htask] <;> rfl

theorem lookAt_plans (h : L.Stands t k base r s) (hphase : r.phase = .previewing) (live : Bool)
    (plan : Plan) : (engine.lookAt live r plan s).1.Plans plan := by
  cases live with
  | true => rfl
  | false =>
    obtain ⟨r', s', -, hconclude⟩ := concludePreview_stands h hphase engine plan []
    simp only [lookAt, Bool.false_eq_true, if_false, hconclude]
    exact ⟨rfl, rfl⟩

/-- A preview keeps its release standing, and only reads. -/
theorem Planned.stands {generated : Except Failure (List Resource × Plan)} {live : Bool}
    {stage : Prepared × σ}
    (h : Planned L t k base generated .previewing (engine.lookAt live) stage) (sandbox : Sandbox) :
    (∃ r, L.Stands t k base r (engine.complete request stage.1 sandbox stage.2).2.2) ∧
      ∃ ids : List String, (engine.complete request stage.1 sandbox stage.2).2.1
        = { sandbox with calls := sandbox.calls ++ ids.map (Call.read, ·) } := by
  have hidle : ∃ ids : List String,
      sandbox = { sandbox with calls := sandbox.calls ++ ids.map (Call.read, ·) } := ⟨[], by simp⟩
  cases h with
  | recorded _ _ _ stands => exact ⟨⟨_, stands⟩, hidle⟩
  | escaped _ _ stands => exact ⟨⟨_, stands⟩, hidle⟩
  | @planned spec plan r s _ hphase stands =>
    cases live with
    | true =>
      obtain ⟨ids, hids⟩ := readLive_calls engine.limits r.resources [] sandbox
      obtain ⟨r', hstands⟩ := concludeRead_stands stands hphase engine plan
        (readLive engine.limits r.resources [] sandbox).1
      exact ⟨⟨r', hstands⟩, ids, hids⟩
    | false =>
      obtain ⟨r', s', hstands, hconclude⟩ := concludePreview_stands stands hphase engine plan []
      simp only [lookAt, Bool.false_eq_true, if_false, hconclude]
      exact ⟨⟨r', hstands⟩, hidle⟩

/-- **How a preview ends** that may create its release. -/
theorem perform_preview (engine : Engine) (hconfig : checkConfig request = .ok ()) {live : Bool}
    (htask : request.task = .preview pipeline live) (hkeeps : L.Keeps s request.triple shelf)
    (ho : shelf.Orderly False L.rules request.triple)
    (haccepts : L.rules.Accepts request.triple shelf.next)
    (hreadable : shelf.latest = .ok shelf.newest?) (sandbox : Sandbox) :
    let base := Release.lastState shelf.newest?.toList
    Answers (generate pipeline base) (engine.prepare request ⟨0, 0⟩ s).1
        (engine.perform request sandbox s).1 ∧
      (∃ r, L.Stands request.triple shelf.next base r (engine.perform request sandbox s).2.2) ∧
      ∃ ids : List String, (engine.perform request sandbox s).2.1
        = { sandbox with calls := sandbox.calls ++ ids.map (Call.read, ·) } := by
  intro base
  have hplanned :=
    prepareSpec_planned engine pipeline hkeeps ho haccepts hreadable .preview (engine.lookAt live)
  simp only [perform, hconfig, prepare_eq_lookAt htask]
  exact ⟨hplanned.answers (fun r plan s hphase h => lookAt_plans h hphase live plan) sandbox,
    hplanned.stands sandbox⟩

/-- **How an application ends** that may create its release. -/
theorem perform_apply (engine : Engine) (hconfig : checkConfig request = .ok ())
    (htask : request.task = .apply pipeline) (hkeeps : L.Keeps s request.triple shelf)
    (ho : shelf.Orderly False L.rules request.triple)
    (haccepts : L.rules.Accepts request.triple shelf.next)
    (hreadable : shelf.latest = .ok shelf.newest?) (sandbox : Sandbox) :
    Answers (generate pipeline (Release.lastState shelf.newest?.toList))
      (engine.prepare request ⟨0, 0⟩ s).1 (engine.perform request sandbox s).1 := by
  have hplanned := prepareSpec_planned engine pipeline hkeeps ho haccepts hreadable .apply
    (fun r plan s => engine.schedule request r plan ⟨0, 0⟩ s)
  have hprepare : engine.prepare request ⟨0, 0⟩ s = engine.prepareSpec request pipeline .apply
      (fun r plan s => engine.schedule request r plan ⟨0, 0⟩ s) s := by
    unfold prepare
    simp only [htask]
  simp only [perform, hconfig, hprepare]
  refine hplanned.answers (fun r plan s hphase h => ?_) sandbox
  exact schedule_plans h (by rw [Release.isTerminal, hphase]; rfl) plan _

/-- An operation that needs a spec is refused where its release cannot be created. -/
theorem perform_refused (engine : Engine) (hconfig : checkConfig request = .ok ())
    (htask : request.task = .apply pipeline ∨ ∃ live, request.task = .preview pipeline live)
    (hkeeps : L.Keeps s request.triple shelf) (ho : shelf.Orderly False L.rules request.triple)
    {e : Failure} (he : shelf.Refuses L.rules request.triple e) (sandbox : Sandbox) :
    ∃ s' shelf', engine.perform request sandbox s = (.error e, sandbox, s') ∧
      L.Keeps s' request.triple shelf' ∧ shelf'.Orderly False L.rules request.triple ∧
      shelf'.Refuses L.rules request.triple e ∧ shelf'.latest = shelf.latest := by
  obtain ⟨s', shelf', hcreate, hkeeps'⟩ :=
    Backing.Lawful.create_refused hkeeps ho he engine.clock
  refine ⟨s', shelf', ?_, hkeeps'⟩
  obtain ⟨operation, next, hprepare⟩ : ∃ operation next, engine.prepare request ⟨0, 0⟩ s
      = engine.prepareSpec request pipeline operation next s := by
    rcases htask with htask | ⟨live, htask⟩
    · refine ⟨.apply, fun r plan s => engine.schedule request r plan ⟨0, 0⟩ s, ?_⟩
      unfold prepare
      simp only [htask]
    · exact ⟨.preview, engine.lookAt live, prepare_eq_lookAt htask _⟩
  simp only [perform, hconfig, hprepare, prepareSpec, hcreate, complete]

end

/-! ## A preview and the application after it -/

/-- **A preview and an application agree**, each with how far it was prepared and how it ended: both
fail alike, or they have the same plan. -/
inductive Agree (look act : Prepared × Verdict) : Prop
  | refused (e : Failure) (hlook : look.2 = .error e) (hact : act.2 = .error e)
  | recorded (e : Failure) (isRecorded : e.isRecorded = true) (hlook : Recorded e look.2)
      (hact : Recorded e act.2)
  | planned (plan : Plan) (hlook : look.1.Plans plan) (hact : act.1.Plans plan)
      (delivered : ∀ d, look.2 = .ok d ∨ act.2 = .ok d → d.plan = some plan)

/-- What is told from the same generation agrees. -/
theorem agree_of_answers {generated : Except Failure (List Resource × Plan)}
    {look act : Prepared × Verdict} (hlook : Answers generated look.1 look.2)
    (hact : Answers generated act.1 act.2) : Agree look act := by
  cases generated with
  | error e =>
    cases hrecorded : e.isRecorded with
    | true =>
      simp only [Answers, hrecorded, if_true] at hlook hact
      exact .recorded e hrecorded hlook hact
    | false =>
      simp only [Answers, hrecorded, Bool.false_eq_true, if_false] at hlook hact
      exact .refused e hlook hact
  | ok made => exact .planned made.2 hlook.1 hact.1 fun d hd => hd.elim (hlook.2 d) (hact.2 d)

section

variable {σ : Type} [Backing σ] {L : Backing.Lawful σ} {look act : Request σ}
  {pipeline pipeline' : Pipeline} {live : Bool} {s : σ} {shelf : Shelf}

/-- The state of the newest release of a triple. -/
def recordedState (t : Triple) (s : σ) : Except Failure (List Resource) :=
  (Keeper.latest t s).map fun r => Release.lastState r.toList

theorem recordedState_eq {t : Triple} (hkeeps : L.Keeps s t shelf)
    (ho : shelf.Orderly False L.rules t) : recordedState t s =
      ((L.rules.folder t).bind fun _ => shelf.latest).map fun r => Release.lastState r.toList := by
  have hlatest : Keeper.latest t s = (L.rules.folder t).bind fun _ => shelf.latest :=
    L.latest_eq hkeeps ho
  rw [recordedState, hlatest]

/-- What a preview comes to, does and keeps, and what the application after it comes to. -/
structure Shows (viewer applier : Engine) (look act : Request σ) (sandbox sandbox' : Sandbox)
    (s : σ) : Prop where
  agree : Agree ((viewer.prepare look ⟨0, 0⟩ s).1, (viewer.perform look sandbox s).1)
    ((applier.prepare act ⟨0, 0⟩ (viewer.perform look sandbox s).2.2).1,
      (applier.perform act sandbox' (viewer.perform look sandbox s).2.2).1)
  /-- The backends are asked to read, and for nothing else. -/
  reads : ∃ ids : List String, (viewer.perform look sandbox s).2.1
    = { sandbox with calls := sandbox.calls ++ ids.map (Call.read, ·) }
  state : recordedState look.triple (viewer.perform look sandbox s).2.2
    = recordedState look.triple s

theorem shows_of_keeps (hlook : look.task = .preview pipeline live)
    (hact : act.task = .apply pipeline')
    (hsame : pipeline'.run = pipeline.run) (htriple : act.triple = look.triple)
    (hconfig : act.config = look.config) (hkeeps : L.Keeps s look.triple shelf)
    (ho : shelf.Orderly False L.rules look.triple)
    (hnames : L.rules.Accepts look.triple shelf.next → L.rules.Accepts look.triple (shelf.next + 1))
    (viewer applier : Engine) (sandbox sandbox' : Sandbox) :
    Shows viewer applier look act sandbox sandbox' s := by
  have hcheck : checkConfig act = checkConfig look := by unfold checkConfig; rw [hconfig]
  cases hchecked : checkConfig look with
  | error e =>
    have hlooked : viewer.perform look sandbox s = (.error (.configuration e), sandbox, s) := by
      simp only [perform, hchecked]
    refine ⟨.refused (.configuration e) ?_ ?_, ⟨[], ?_⟩, ?_⟩
    · rw [hlooked]
    · simp only [perform, hcheck, hchecked]
    · rw [hlooked]; simp
    · rw [hlooked]
  | ok _ =>
    rcases shelf.refuses_or_accepts L.rules look.triple with ⟨e, he⟩ | ⟨haccepts, hreadable⟩
    · obtain ⟨s', shelf', hlooked, hkeeps', ho', he', hlatest⟩ :=
        perform_refused viewer hchecked (.inr ⟨live, hlook⟩) hkeeps ho he sandbox
      obtain ⟨s'', _, hacted, -⟩ := perform_refused applier (hcheck.trans hchecked) (.inl hact)
        (htriple ▸ hkeeps') (htriple ▸ ho') (htriple ▸ he') sandbox'
      refine ⟨.refused e ?_ ?_, ⟨[], ?_⟩, ?_⟩
      · rw [hlooked]
      · rw [hlooked, hacted]
      · rw [hlooked]; simp
      · rw [hlooked, recordedState_eq hkeeps ho, recordedState_eq hkeeps' ho', hlatest]
    · obtain ⟨hlooked, ⟨r, hstands⟩, hreads⟩ :=
        perform_preview viewer hchecked hlook hkeeps ho haccepts hreadable sandbox
      obtain ⟨shelf', hkeeps', ho', hreadable', hstate, hnext⟩ := hstands.newest?
      have haccepts' : L.rules.Accepts act.triple shelf'.next := by
        rw [hnext, htriple]
        exact hnames haccepts
      have hacted := perform_apply applier (hcheck.trans hchecked) hact (htriple ▸ hkeeps')
        (htriple ▸ ho') haccepts' hreadable' sandbox'
      have hgenerate (base : List Resource) : generate pipeline' base = generate pipeline base := by
        unfold generate
        rw [hsame]
      rw [hstate, hgenerate] at hacted
      refine ⟨agree_of_answers hlooked hacted, hreads, ?_⟩
      have hsame : shelf'.latest.map (fun r => Release.lastState r.toList)
          = shelf.latest.map fun r => Release.lastState r.toList := by
        rw [hreadable, hreadable', Except.map, Except.map, hstate]
      rw [recordedState_eq hkeeps ho, recordedState_eq hkeeps' ho']
      cases L.rules.folder look.triple with
      | error e => rfl
      | ok _ => exact hsame

end

/-- **A preview shows what would be done**: whatever became of a triple before, a preview and the
application after it agree when their pipelines generate the same; the preview only reads, and the
newest release has the same state before it and after it.  The revision of the application must not be
the first one whose name is too long.  What was saved before need not be readable. -/
theorem preview_shows {σ : Type} [Backing σ] (L : Backing.Lawful σ) {start : σ}
    (hempty : ∀ t, L.Keeps start t {}) {calls : List (DateTime × Store.Call)}
    {look act : Request σ} {pipeline pipeline' : Pipeline} {live : Bool}
    (hlook : look.task = .preview pipeline live) (hact : act.task = .apply pipeline')
    (hsame : pipeline'.run = pipeline.run) (htriple : act.triple = look.triple)
    (hconfig : act.config = look.config)
    (hnames : L.rules.Accepts look.triple ((Store.handedOut look.triple calls start).length + 1) →
      L.rules.Accepts look.triple ((Store.handedOut look.triple calls start).length + 2))
    (viewer applier : Engine) (sandbox sandbox' : Sandbox) :
    Shows viewer applier look act sandbox sandbox' (Store.after calls start) := by
  have hnone : False → ∀ c ∈ calls, c.2.Sound := False.elim
  obtain ⟨shelf, hkeeps, ho, hshelf, -⟩ := L.exists_shelf hempty hnone look.triple
  refine shows_of_keeps hlook hact hsame htriple hconfig hkeeps ho ?_ viewer applier sandbox
    sandbox'
  cases hcounts : L.rules.counts with
  | true => exact fun _ => L.rules.lenient_of_counts hcounts _ _
  | false =>
    obtain ⟨hallocated, -⟩ := L.allocated_after hempty hnone (by simp [hcounts]) look.triple
    have hnext : shelf.next = (Store.handedOut look.triple calls start).length + 1 := by
      rw [Shelf.next, hshelf, hallocated]
    rwa [show ∀ n : Int, n + 2 = n + 1 + 1 by omega, ← hnext] at hnames

namespace Swap

/-- The stack after the resources were created. -/
def creation : List (DateTime × Store.Call) := [(default, .create triple), (default, .save created)]

/-- The swap is previewed, and the live resources are read. -/
def look : Request MemoryStore := { triple, task := .preview (generating Run.Swap.desired) true }

/-- The swap is applied. -/
def act : Request MemoryStore := { triple, task := .apply (generating Run.Swap.desired) }

end Swap

open Swap in
/-- The swap is previewed, where the read of a resource fails, and then it is applied. -/
theorem preview_shows_swap :
    (∀ t, MemoryStore.lawful.Keeps {} t {}) ∧
      Shows ⟨⟨.whole 300, 4⟩, default⟩ ⟨⟨.whole 300, 4⟩, default⟩ look act
        { backends with failure? := fun _ id => if id = "v" then some (.general "boom") else none }
        backends (Store.after creation {}) := by
  have hlook : look.task = .preview (generating Run.Swap.desired) true := rfl
  have hact : act.task = .apply (generating Run.Swap.desired) := rfl
  exact ⟨MemoryStore.has_empty,
    preview_shows MemoryStore.lawful MemoryStore.has_empty hlook hact rfl rfl rfl
      (fun _ => ⟨rfl, rfl⟩) _ _ _ _⟩

end Engine

end Rollout
