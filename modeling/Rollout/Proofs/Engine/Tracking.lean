import Rollout.Proofs.Engine.History
import Rollout.Proofs.Execution.Tracking

/-!
# The recorded state tracks the backends

On backends that nothing else uses, the state of the latest release is what is live, as far as records
can hold it, whatever fails, takes too long or is stopped; so a preview that reads it finds no drift
where the numbers are finite.

* `Engine.Performed.tracks` : what one operation keeps;
* `Engine.history_tracks` : what holds after any number of operations;
* `Engine.history_tracks_endless` : an infinite number is live, and is recorded as null.
-/

set_option autoImplicit false

namespace Rollout

/-! ## Reading -/

theorem LiveRead.launch_resource (limits : Limits) (r : Resource) (s : Sandbox) :
    (launch limits r s).1.resource = r := by
  unfold launch
  split
  · rfl
  split
  · rfl
  dsimp only
  split <;> rfl

/-- What is read of each resource is what is live of it. -/
theorem readLive_found {limits : Limits} {resources : List Resource}
    {found : List (String × Option Resource)} (hnodup : (Resource.ids resources).Nodup)
    (before : List (String × Option Resource)) (s : Sandbox)
    (h : (readLive limits resources before s).1 = .ok found) :
    (∀ x ∈ resources, Assoc.lookup x.id found = some (s.live x)) ∧
      ∀ id, id ∉ Resource.ids resources → Assoc.lookup id found = Assoc.lookup id before := by
  induction resources generalizing before s with
  | nil =>
    rw [readLive, Except.ok.injEq] at h
    rw [h]
    exact ⟨fun x hx => absurd hx List.not_mem_nil, fun _ _ => rfl⟩
  | cons r rest ih =>
    obtain ⟨hnot, hrest⟩ := List.nodup_cons.mp hnodup
    obtain ⟨⟨calls, hcalls⟩, _⟩ := LiveRead.launch_spec limits r s
    have hresource := LiveRead.launch_resource limits r s
    rw [readLive] at h
    generalize LiveRead.launch limits r s = launched at hcalls hresource h
    obtain ⟨read, s'⟩ := launched
    simp only at hcalls hresource h
    subst hcalls
    unfold LiveRead.finish at h
    cases hf : read.failure? with
    | some e =>
      simp only [hf] at h
      cases h
    | none =>
      simp only [hf, hresource] at h
      obtain ⟨hread, hkept⟩ := ih hrest _ { s with calls } h
      refine ⟨fun x hx => ?_, fun id hid => ?_⟩
      · rcases List.mem_cons.mp hx with rfl | hx
        · rw [hkept x.id hnot, Assoc.lookup_put, if_pos rfl]
          rfl
        · exact hread x hx
      · have hne : r.id ≠ id := fun h => hid (h ▸ List.mem_cons_self)
        rw [hkept id fun h => hid (List.mem_cons_of_mem _ h), Assoc.lookup_put, if_neg hne]

/-- The attributes of all live resources are finite. -/
def Sandbox.FiniteObjects (s : Sandbox) : Prop :=
  ∀ b id found, Assoc.lookup id (s.held b) = some found → Value.FiniteFields found.attributes

/-- A state that tracks the backends has not drifted, where all attributes are finite. -/
theorem Tracks.detectDrift_eq_nil {state : List Resource} {s : Sandbox} (h : Tracks state s)
    (hstate : ∀ x ∈ state, x.Finite) (hlive : s.FiniteObjects) {limits : Limits}
    {found : List (String × Option Resource)}
    (hread : (readLive limits state [] s).1 = .ok found) : detectDrift state found = [] := by
  refine List.filterMap_eq_nil_iff.mpr fun x hx => ?_
  obtain ⟨live, hheld, hlives⟩ := h.live x hx
  have hsame := hlives.same (hstate x hx).attributes (hlive _ _ _ hheld)
  have hfound := (readLive_found h.nodup [] s hread).1 x hx
  rw [Sandbox.live, hheld] at hfound
  unfold DriftReport.of?
  rw [hfound]
  simp only [(differences_eq_nil_iff "" _ _).mpr hsame, List.isEmpty_nil, if_true]

namespace Engine

variable {σ : Type} [Keeper σ] {st : Keeper.Reliable σ} {engine : Engine} {request : Request σ}
  {sandbox : Sandbox} {s : σ} {state : Sandbox × σ} {t : Triple} {turns : List (Turn σ)}

/-! ## Operations -/

/-- Whatever desired resources an operation has, their attributes can be compared. -/
def Comparable (request : Request σ) : Prop :=
  ∀ spec, request.task.desired = .ok spec →
    ∀ d ∈ spec, Value.Comparable (.object d.attributes)

/-- What only logs calls keeps the recorded state and the live resources together. -/
theorem Tracks.log {resources : List Resource} (h : Tracks resources sandbox)
    (calls : List (Call × String)) : Tracks resources { sandbox with calls } :=
  ⟨h.nodup, h.live, h.recorded, h.served⟩

/-- **An operation keeps the recorded state and the live resources together.** -/
theorem Performed.tracks (h : Performed st engine request sandbox s state)
    (hanswer : ∀ id, sandbox.answer? id = none) (hvalues : Comparable request)
    (htracks : Tracks (Release.lastState (st.kept s request.triple)) sandbox) :
    Tracks (Release.lastState (st.kept state.2 request.triple)) state.1 := by
  cases h with
  | refused _ kept => rwa [kept]
  | unexecuted unexecuted =>
    obtain ⟨_, r, hkept, htriple, _, hstate⟩ := unexecuted
    rw [hkept, ← htriple, Kept.with_self, Release.lastState_append, Release.resources, hstate]
    exact Tracks.log htracks _
  | executed _ desired computed scheduled reached _ closed _ =>
    obtain ⟨_, r, hkept, htriple, _, hstate⟩ := closed
    rw [hkept, ← htriple, ← r.dumped_triple, Kept.with_self, Release.lastState_append,
      Release.dumped_resources, Release.resources, hstate]
    exact (htracks.execute computed scheduled hanswer (hvalues _ desired) reached _).record

/-! ## Previews -/

theorem finish_drift {finished : Except LifecycleError Release} {deliver : Release → Delivery}
    (hdeliver : ∀ r, (deliver r).drift = []) {d : Delivery}
    (h : (finish finished deliver s).1 = .ok d) : d.drift = [] := by
  unfold finish at h
  split at h
  · cases h
  · split at h
    · cases h
    · cases h
      exact hdeliver _

/-- A preview that reads ends before it does, without drift, or is about to read. -/
theorem prepare_preview (engine : Engine) {p : Pipeline} (htask : request.task = .preview p true)
    (now : Instant) (s : σ) :
    (∃ made verdict, (engine.prepare request now s).1 = .ended made verdict ∧
      ∀ d, verdict = .ok d → d.drift = []) ∨
      ∃ r plan, (engine.prepare request now s).1 = .reading r plan := by
  unfold prepare
  simp only [htask]
  unfold prepareSpec
  split
  · exact .inl ⟨_, _, rfl, fun d hd => by cases hd⟩
  split
  · split
    · exact .inl ⟨_, _, rfl, fun d hd => finish_drift (fun _ => rfl) hd⟩
    · exact .inl ⟨_, _, rfl, fun d hd => by cases hd⟩
  split
  · exact .inl ⟨_, _, rfl, fun d hd => by cases hd⟩
  · exact .inr ⟨_, _, rfl⟩

/-- The state of the latest release that a store keeps is finite. -/
theorem finite_kept (hgood : st.Good s) (t : Triple) :
    ∀ x ∈ Release.lastState (st.kept s t), x.Finite :=
  Release.finite_lastState fun r hr => (st.sound s t hgood r hr).finite

/-- **A preview that reads what is live finds no drift** where the recorded state tracks it. -/
theorem preview_drift (hgood : st.Good s) (hordinary : request.task.Ordinary)
    (hfinite : sandbox.FiniteObjects)
    (htracks : Tracks (Release.lastState (st.kept s request.triple)) sandbox) {p : Pipeline}
    (htask : request.task = .preview p true) {d : Delivery}
    (hd : (engine.perform request sandbox s).1 = .ok d) : d.drift = [] := by
  unfold perform at hd
  cases hconfig : checkConfig request with
  | error e =>
    simp only [hconfig] at hd
    cases hd
  | ok _ =>
    simp only [hconfig] at hd
    have hstage : Stage st engine request (st.kept s) (engine.prepare request ⟨0, 0⟩ s) :=
      prepare_spec hgood hordinary _
    have hprepared := prepare_preview engine htask ⟨0, 0⟩ s
    generalize engine.prepare request ⟨0, 0⟩ s = answer at hstage hprepared hd
    obtain ⟨prepared, s'⟩ := answer
    rcases hprepared with ⟨_, verdict, rfl, hverdict⟩ | ⟨r, plan, rfl⟩
    · exact hverdict d hd
    · cases hstage with
      | reading started _ _ =>
        simp only [complete] at hd
        rw [started.resources] at hd
        cases hread : (readLive engine.limits (Release.lastState (st.kept s request.triple)) []
            sandbox).1 with
        | error e =>
          simp only [hread] at hd
          cases e with
          | action a => exact finish_drift (fun _ => rfl) hd
          | _ => cases hd
        | ok found =>
          have hnone := htracks.detectDrift_eq_nil (finite_kept hgood _) hfinite hread
          simp only [hread, concludeRead, started.resources, hnone] at hd
          exact finish_drift (fun _ => rfl) hd

/-! ## Histories -/

/-- An ordinary operation on a stack, in which backends answer nothing but what they are given. -/
structure Turn.Tracked (t : Triple) (turn : Turn σ) : Prop extends turn.Ordinary where
  triple : turn.request.triple = t
  answer : ∀ id, turn.answer? id = none
  values : Comparable turn.request

theorem Turn.take_tracks {turn : Turn σ} (hturn : turn.Tracked t) (hgood : st.Good state.2)
    (htracks : Tracks (Release.lastState (st.kept state.2 t)) state.1) :
    Tracks (Release.lastState (st.kept (turn.take state).2 t)) (turn.take state).1 := by
  have hperformed := turn.take_spec hturn.toOrdinary hgood
  rw [← hturn.triple] at htracks ⊢
  refine hperformed.tracks hturn.answer hturn.values ?_
  exact ⟨htracks.nodup, htracks.live, htracks.recorded, htracks.served⟩

theorem tracks_history : ∀ (turns : List (Turn σ)) (state : Sandbox × σ),
    (∀ turn ∈ turns, turn.Tracked t) → st.Good state.2 →
    Tracks (Release.lastState (st.kept state.2 t)) state.1 →
    Tracks (Release.lastState (st.kept (history turns state).2 t)) (history turns state).1
  | [], _, _, _, htracks => htracks
  | turn :: rest, state, hturns, hgood, htracks => by
    have hturn := hturns turn (by simp)
    exact tracks_history rest (turn.take state)
      (fun turn' h => hturns turn' (List.mem_cons_of_mem _ h))
      (turn.take_spec hturn.toOrdinary hgood).good (turn.take_tracks hturn hgood htracks)

/-- **After any number of operations on a stack, the state of its latest release is what is live**:
the same identifiers under every backend, and the same attributes under each identifier, as records
hold them, which is as they are where they are finite.  Where all are, a preview that reads what is live
finds no drift. -/
theorem history_tracks (hgood : st.Good s) (hfresh : st.kept s t = [])
    (hobjects : sandbox.objects = []) (hannex : sandbox.annex = [])
    (hturns : ∀ turn ∈ turns, turn.Tracked t) :
    let now := history turns (sandbox, s)
    let state := Release.lastState (st.kept now.2 t)
    (∀ b id, (∃ x ∈ state, x.id = id ∧ now.1.Shares x.backend b) ↔
      ∃ found, Assoc.lookup id (now.1.held b) = some found) ∧
    (∀ b, ∀ x ∈ state, now.1.Shares x.backend b →
      ∀ found, Assoc.lookup x.id (now.1.held b) = some found →
        Value.same (.object x.attributes) (Value.object found.attributes).dumped = true ∧
        (Value.FiniteFields found.attributes →
          Value.same (.object x.attributes) (.object found.attributes) = true)) ∧
    (∀ x ∈ state, now.1.serves.contains x.backend = true) ∧
    ∀ (turn : Turn σ) p d, turn.Tracked t → turn.request.task = .preview p true →
      now.1.FiniteObjects →
      (turn.engine.perform turn.request (turn.ready now.1) now.2).1 = .ok d → d.drift = [] := by
  intro now state
  have hbegin : Tracks (Release.lastState (st.kept s t)) sandbox := by
    rw [hfresh, Release.lastState_nil]
    refine ⟨List.nodup_nil, fun x hx => absurd hx List.not_mem_nil, fun b id found hfound => ?_,
      fun x hx => absurd hx List.not_mem_nil⟩
    have hheld : sandbox.held b = [] := by
      unfold Sandbox.held
      split <;> assumption
    rw [hheld] at hfound
    cases hfound
  have htracks : Tracks state now.1 := tracks_history turns (sandbox, s) hturns hgood hbegin
  have hstore : st.Good now.2 :=
    good_history turns (sandbox, s) (fun turn h => (hturns turn h).toOrdinary) hgood
  refine ⟨fun b id => ⟨?_, ?_⟩, fun b x hx hshares found hfound => ?_, htracks.served, ?_⟩
  · rintro ⟨x, hx, rfl, hshares⟩
    obtain ⟨found, hfound, _⟩ := htracks.live x hx
    exact ⟨found, Sandbox.held_of_shares hshares ▸ hfound⟩
  · rintro ⟨found, hfound⟩
    exact htracks.recorded b id found hfound
  · obtain ⟨found', hfound', hlives⟩ := htracks.live x hx
    rw [Sandbox.held_of_shares hshares, hfound] at hfound'
    cases hfound'
    have hx := (finite_kept hstore t x hx).attributes
    refine ⟨?_, hlives.same hx⟩
    rwa [Resource.LivesAs, Value.Finite.dumped_eq (v := .object x.attributes) hx] at hlives
  · intro turn p d hturn htask hfinite hd
    have hfinite : (turn.ready now.1).FiniteObjects := hfinite
    refine preview_drift hstore hturn.task hfinite ?_ htask hd
    rw [hturn.triple]
    exact ⟨htracks.nodup, htracks.live, htracks.recorded, htracks.served⟩

theorem Swap.tracked_create : create.Tracked triple where
  toOrdinary := ordinary_create
  triple := rfl
  answer _ := rfl
  values spec hspec := by
    obtain rfl : Run.Swap.recorded = spec := Except.ok.inj hspec
    simp [Run.Swap.recorded, Value.Comparable, Value.ComparableFields]

theorem Swap.tracked_swap : swap.Tracked triple where
  toOrdinary := ordinary_swap
  triple := rfl
  answer _ := rfl
  values spec hspec := by
    obtain rfl : Run.Swap.desired = spec := Except.ok.inj hspec
    simp [Run.Swap.desired, Value.Comparable, Value.ComparableFields]

/-- What the failed swap leaves is what is live. -/
theorem history_tracks_swap :
    let now := history [Swap.create, Swap.swap] ({}, ({} : MemoryStore))
    MemoryStore.reliable.kept now.2 Swap.triple = [Swap.created, Swap.swapped] ∧
      ∀ id, (∃ x ∈ Swap.left, x.id = id ∧ now.1.Shares x.backend .kubernetes) ↔
        ∃ found, Assoc.lookup id (now.1.held .kubernetes) = some found := by
  have hturns : ∀ turn ∈ [Swap.create, Swap.swap], turn.Tracked Swap.triple := by
    simpa using ⟨Swap.tracked_create, Swap.tracked_swap⟩
  intro now
  have hkept : MemoryStore.reliable.kept now.2 Swap.triple = [Swap.created, Swap.swapped] := by
    simp only [now, history, List.foldl_cons, List.foldl_nil, Swap.take_create, Swap.take_swap]
    rfl
  refine ⟨hkept, ?_⟩
  have hobjects : ({} : Sandbox).objects = [] := rfl
  obtain ⟨hlive, _⟩ := history_tracks MemoryStore.good_empty rfl hobjects rfl hturns
  rw [hkept] at hlive
  exact hlive .kubernetes

namespace Endless

theorem tracked_create : create.Tracked Swap.triple where
  toOrdinary := ordinary_create
  triple := rfl
  answer _ := rfl
  values spec hspec := by
    obtain rfl : [resource] = spec := Except.ok.inj hspec
    simp [resource, Value.Comparable, Value.ComparableFields, Assoc.keys]

/-- A preview that reads what is live. -/
def look : Turn MemoryStore := Swap.operation (.preview (Swap.generating [resource]) true)

theorem look_drift : ∃ d,
    (look.engine.perform look.request (look.ready backends) (Swap.store [created])).1 = .ok d ∧
      d.succeeded = true ∧ d.drift ≠ [] := by
  have hcreate : Keeper.create default Swap.triple (Swap.store [created]) =
      (.ok (Release.new default Swap.triple 2 [recorded]),
        Swap.store [created, Release.new default Swap.triple 2 [recorded]]) := by cbv
  simp only [look, Swap.operation, perform, checkConfig, prepare, prepareSpec, hcreate]
  exact ⟨_, rfl, rfl, by decide⟩

end Endless

/-- **What is live need not be recorded as it is**: an infinite number is null in the record, and a
preview that reads the resource finds it drifted. -/
theorem history_tracks_endless :
    Endless.create.Tracked Swap.triple ∧
      let now := history [Endless.create] ({}, ({} : MemoryStore))
      (∃ x ∈ Release.lastState (MemoryStore.reliable.kept now.2 Swap.triple), ∃ found,
        Assoc.lookup x.id (now.1.held x.backend) = some found ∧
          Value.same (.object x.attributes) (.object found.attributes) = false) ∧
      ∃ d, (Endless.look.engine.perform Endless.look.request (Endless.look.ready now.1) now.2).1
        = .ok d ∧ d.succeeded = true ∧ d.drift ≠ [] := by
  refine ⟨Endless.tracked_create, ?_⟩
  simp only [history, List.foldl_cons, List.foldl_nil, Endless.take_create]
  exact ⟨⟨Endless.recorded, by decide, Endless.resource, rfl, rfl⟩, Endless.look_drift⟩

end Engine

end Rollout
