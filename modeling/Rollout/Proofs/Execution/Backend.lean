import Rollout.Proofs.Execution.Executor
import Rollout.Proofs.Execution.State

/-!
# What an execution leaves in the backends

* `Sandbox.Shares` : two kinds of backends hold their live resources together;
* `Execution.Shows` : what is live under an identifier, as the statuses of the actions tell it;
* `Execution.Reached.shows` : so it is all the way through an execution.
-/

set_option autoImplicit false

namespace Rollout

/-- Two kinds of backends hold their live resources together. -/
def Sandbox.Shares (s : Sandbox) (b b' : Backend) : Prop := s.apart.contains b = s.apart.contains b'

/-- A change is about what a kind of backend holds under an identifier. -/
def Change.Touches (s : Sandbox) (c : Change) (b : Backend) (id : String) : Prop :=
  c.resource.id = id ∧ s.Shares c.resource.backend b

namespace Sandbox

variable {s : Sandbox} {b b' : Backend} {c : Change} {id : String}

theorem held_of_shares (h : s.Shares b b') : s.held b = s.held b' := by
  unfold held
  rw [h]

theorem held_changeHeld_of_shares (h : s.Shares b b')
    (f : List (String × Resource) → List (String × Resource)) :
    (s.changeHeld b f).held b' = f (s.held b') := by
  unfold Shares at h
  unfold changeHeld held
  rw [h]
  split <;> simp_all

theorem held_changeHeld_of_not_shares (h : ¬ s.Shares b b')
    (f : List (String × Resource) → List (String × Resource)) :
    (s.changeHeld b f).held b' = s.held b' := by
  unfold Shares at h
  unfold changeHeld held
  cases hb : s.apart.contains b <;> cases hb' : s.apart.contains b' <;> simp_all

theorem affect_effectOf (c : Change) (s : Sandbox) :
    s.affect (effectOf c) = s.changeHeld c.resource.backend
      (if c.action = .delete then Assoc.erase c.resource.id
        else Assoc.put c.resource.id c.resource) := by
  obtain ⟨id, sides, found, replacement⟩ := c
  cases sides <;> rfl

theorem lookup_affect_of_touches (h : c.Touches s b id) :
    Assoc.lookup id ((s.affect (effectOf c)).held b) =
      if c.action = .delete then none else some c.resource := by
  obtain ⟨hid, hshares⟩ := h
  rw [affect_effectOf, held_changeHeld_of_shares hshares, ← hid]
  split <;> simp

theorem lookup_affect_of_not_touches (h : ¬ c.Touches s b id) :
    Assoc.lookup id ((s.affect (effectOf c)).held b) = Assoc.lookup id (s.held b) := by
  rw [affect_effectOf]
  by_cases hshares : s.Shares c.resource.backend b
  · have hid : c.resource.id ≠ id := fun hid => h ⟨hid, hshares⟩
    rw [held_changeHeld_of_shares hshares]
    split <;> simp [hid]
  · rw [held_changeHeld_of_not_shares hshares]

theorem Alike.touches_iff {s' : Sandbox} (h : s.Alike s') : c.Touches s' b id ↔ c.Touches s b id := by
  unfold Change.Touches Shares
  rw [h.apart]

end Sandbox

/-- An action succeeds only where there is a backend of its kind. -/
theorem Flight.serves_of_succeeded {limits : Limits} {s : Sandbox} {c : Change}
    {returned : Option Resource} (h : (endOf limits s c).1 = .succeeded returned) :
    s.serves.contains c.resource.backend = true := by
  unfold endOf launch at h
  simp only at h
  split at h
  · cases h
  · rename_i hserves
    simpa using hserves

/-- What applies a resource waits for what deletes one under the same identifier. -/
def Schedule.DeletesFirst (s : Schedule) : Prop :=
  ∀ i j c d, s.actions[i]? = some c → s.actions[j]? = some d → c.action ≠ .delete →
    d.action = .delete → c.resource.id = d.resource.id → j ∈ s.waits i

namespace Execution

open Relation

/-- What a kind of backend holds under an identifier, as the statuses of the actions tell it: what
was applied there, or nothing if a delete there was all, or else what it held in the beginning. -/
inductive Shows (s : Schedule) (start : Sandbox) (run : Run) (b : Backend) (id : String) :
    Option Resource → Prop
  | put {i : Nat} {c : Change} (action : s.actions[i]? = some c)
      (succeeded : run.status? i = some .succeeded) (applies : c.action ≠ .delete)
      (touches : c.Touches start b id) : Shows s start run b id (some c.resource)
  | drop {i : Nat} {c : Change} (action : s.actions[i]? = some c)
      (succeeded : run.status? i = some .succeeded) (deletes : c.action = .delete)
      (touches : c.Touches start b id)
      (last : ∀ j d, s.actions[j]? = some d → run.status? j = some .succeeded →
        d.action ≠ .delete → ¬ d.Touches start b id) : Shows s start run b id none
  | kept (untouched : ∀ i c, s.actions[i]? = some c → run.status? i = some .succeeded →
      ¬ c.Touches start b id) : Shows s start run b id (Assoc.lookup id (start.held b))

variable {s : Schedule} {limits : Limits} {start : Sandbox} {b : Backend} {id : String}

theorem Shows.congr {run run' : Run} {live : Option Resource} (h : Shows s start run b id live)
    (hstatus : ∀ i, run'.status? i = some .succeeded ↔ run.status? i = some .succeeded) :
    Shows s start run' b id live := by
  cases h with
  | put action succeeded applies touches =>
    exact .put action ((hstatus _).mpr succeeded) applies touches
  | drop action succeeded deletes touches last =>
    exact .drop action ((hstatus _).mpr succeeded) deletes touches fun j d hd hj =>
      last j d hd ((hstatus j).mp hj)
  | kept untouched => exact .kept fun i c hc hi => untouched i c hc ((hstatus i).mp hi)

/-- An action that succeeds takes its effect. -/
theorem Shows.settle {run run' : Run} {sandbox : Sandbox} {i : Nat} {c : Change}
    (hfirst : s.DeletesFirst) (hsound : Run.Sound s (s.outcomes limits start) run)
    (halike : start.Alike sandbox) (hc : s.actions[i]? = some c)
    (hrunning : run.status? i = some .running)
    (hstatus : ∀ j, run'.status? j = some .succeeded ↔ run.status? j = some .succeeded ∨ j = i)
    (h : Shows s start run b id (Assoc.lookup id (sandbox.held b))) :
    Shows s start run' b id
      (Assoc.lookup id ((sandbox.affect (Sandbox.effectOf c)).held b)) := by
  have hnow : run'.status? i = some .succeeded := (hstatus i).mpr (.inr rfl)
  by_cases htouches : c.Touches start b id
  · rw [Sandbox.lookup_affect_of_touches (halike.touches_iff.mpr htouches)]
    split
    · rename_i hdelete
      refine .drop hc hnow hdelete htouches fun j d hd hj happly hother => ?_
      -- what was applied before has waited for this delete
      have hwaits := hfirst j i d c hd hc happly hdelete (hother.1.trans htouches.1.symm)
      rcases (hstatus j).mp hj with hj | rfl
      · have := hsound.granted j _ hj (.inr (.inl rfl)) i hwaits
        rw [hrunning] at this
        cases this
      · rw [hc] at hd
        cases hd
        exact happly hdelete
    · rename_i happly
      exact .put hc hnow happly htouches
  · rw [Sandbox.lookup_affect_of_not_touches (mt halike.touches_iff.mp htouches)]
    have hother : ∀ j d, s.actions[j]? = some d → run'.status? j = some .succeeded →
        d.Touches start b id → run.status? j = some .succeeded := by
      intro j d hd hj hd'
      rcases (hstatus j).mp hj with hj | rfl
      · exact hj
      · rw [hc] at hd
        cases hd
        exact absurd hd' htouches
    generalize Assoc.lookup id (sandbox.held b) = live at h
    cases h with
    | put action succeeded applies touches =>
      exact .put action ((hstatus _).mpr (.inl succeeded)) applies touches
    | drop action succeeded deletes touches last =>
      exact .drop action ((hstatus _).mpr (.inl succeeded)) deletes touches
        fun j d hd hj happly hd' => last j d hd (hother j d hd hj hd') happly hd'
    | kept untouched =>
      exact .kept fun j d hd hj hd' => untouched j d hd (hother j d hd hj hd') hd'

/-- **What is live is told by the statuses of the actions**, all the way through an execution. -/
theorem Reached.shows (hs : s.Lawful) (hfirst : s.DeletesFirst) {at_ : Run × Sandbox}
    (h : Reached s limits start at_) (b : Backend) (id : String) :
    Shows s start at_.1 b id (Assoc.lookup id (at_.2.held b)) := by
  induction h with
  | refl =>
    refine .kept fun i c _ hi => ?_
    cases Run.status?_init hi
  | @tail before after hreached hstep ih =>
    have hsound := (Reached.run hreached).inv hs
    cases hstep with
    | @start run sandbox now calls i ready room =>
      obtain ⟨hpending, _⟩ := Run.isReady_iff.mp ready
      refine ih.congr fun j => ?_
      rw [Run.status?_start now (Run.lt_of_status? hpending)]
      split
      · rename_i hj
        simp [hj, hpending]
      · rfl
    | @settle run sandbox now i running =>
      have hrunning := (hsound.mem_running i).mp running
      obtain ⟨c, hc⟩ := s.exists_action (hsound.size ▸ Run.lt_of_status? hrunning)
      have hstatus := hsound.succeeded_settle_iff running now (s.outcomes limits start i)
      have houtcome : s.outcomes limits start i = (Flight.endOf limits start c).1 := by
        simp only [Schedule.outcomes, hc]
      have heffect : s.effects limits start i = (Flight.endOf limits start c).2 := by
        simp only [Schedule.effects, hc]
      rcases Flight.endOf_cases limits start c with ⟨text, hend⟩ | hend
      · rw [hend] at houtcome heffect
        rw [heffect]
        refine ih.congr fun j => (hstatus j).trans (or_iff_left ?_)
        rintro ⟨_, returned, hreturned⟩
        rw [houtcome] at hreturned
        cases hreturned
      · rw [hend] at houtcome heffect
        rw [heffect]
        refine ih.settle hfirst hsound.toSound (Reached.alike hreached) hc hrunning fun j =>
          (hstatus j).trans (or_congr_right (and_iff_left ?_))
        exact ⟨_, houtcome⟩

end Execution

end Rollout
