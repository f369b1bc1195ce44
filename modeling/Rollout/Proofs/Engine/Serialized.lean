import Mathlib.Data.List.Permutation
import Rollout.Proofs.Engine.Fleet
import Rollout.Store.Memory

/-!
# One operation at a time on a triple

When several operations are carried out, each begins as soon as no other one works on its triple.

* `Fleet.performAll_reached` : carrying out all operations is one of the orders in which they can
  proceed;
* `Fleet.performAll_served` : and in it nobody awaits a lock that is free;
* `Fleet.serialized` : one operation at a time on a triple, none waits for another triple, and no
  lock is left behind.
-/

set_option autoImplicit false

namespace Rollout.Fleet

open Relation

section

variable {σ : Type} {f f' : Fleet σ} {i j : Nat} {t : Triple} {stage : Stage} {sandbox : Sandbox}
  {store : σ} {requests : List (Request σ)} {wake : Instant}

/-! ## Operations that are carried out -/

/-- The next one to take a lock may take it. -/
theorem canBegin_of_next (h : f.locks.next? t = some i) : f.CanBegin i := by
  obtain ⟨c, hc, hnumber, _, hholds, hfree⟩ := Locks.exists_of_next h
  exact ⟨c, hc, hnumber, hholds, hfree⟩

/-- An operation that has not come yet stays so while another one begins. -/
theorem called_proceed (hne : i ≠ j) (h : f.stages[j]? = some .called) :
    (f.proceed i stage sandbox store).stages[j]? = some .called := by
  unfold proceed
  split <;> exact (List.getElem?_set_ne hne).trans h

/-- The next operation that wakes up is one that works. -/
theorem holds_of_next (h : f.next? = some (i, wake)) : f.holds? i = some true := by
  have hearlier : ∀ a b x, earlier a b = some x → a = some x ∨ b = some x := by
    intro a b x hx
    unfold earlier at hx
    split at hx
    · split at hx
      · exact .inr hx
      · exact .inl hx
    · exact .inl hx
    · exact .inr hx
  have hfold : ∀ (entries : List (Stage × Nat)) (found : Option (Nat × Instant)),
      (∀ entry ∈ entries, f.stages[entry.2]? = some entry.1) →
      entries.foldl (fun found entry => earlier found
        (entry.1.wake?.map fun wake => (entry.2, wake))) found = some (i, wake) →
      found = some (i, wake) ∨ ∃ stage, f.stages[i]? = some stage ∧ stage.wake? = some wake := by
    intro entries
    induction entries with
    | nil => exact fun _ _ hfound => .inl hfound
    | cons entry rest ih =>
      intro found hentries hfound
      rcases ih _ (fun e he => hentries e (List.mem_cons_of_mem _ he)) hfound with hnow | hrest
      · rcases hearlier _ _ _ hnow with hnow | hnow
        · exact .inl hnow
        · obtain ⟨_, hwake, heq⟩ := Option.map_eq_some_iff.mp hnow
          obtain ⟨rfl, rfl⟩ := Prod.mk.inj heq
          exact .inr ⟨entry.1, hentries entry List.mem_cons_self, hwake⟩
      · exact .inr hrest
  have hentries : ∀ entry ∈ f.stages.zipIdx, f.stages[entry.2]? = some entry.1 :=
    fun entry => List.mem_zipIdx_iff_getElem?.mp
  rcases hfold _ none hentries h with hnone | ⟨stage, hstage, hwake⟩
  · cases hnone
  · rw [holds?, hstage]
    cases stage <;> first | rfl | cases hwake

section

variable [Keeper σ] {engine : Engine} {now : Instant} {request : Request σ}

theorem startRead_hasBegun (r : Release) (plan : Plan) (live : List (String × Option Resource))
    (rest : List Resource) (now : Instant) (sandbox : Sandbox) (store : σ) :
    (startRead engine r plan live rest now sandbox store).1.HasBegun := by
  unfold startRead
  cases rest with
  | nil => exact .inr ⟨_, rfl⟩
  | cons _ _ => exact .inl rfl

theorem stageOf_hasBegun (prepared : Engine.Prepared) (now : Instant) (sandbox : Sandbox)
    (store : σ) : (stageOf engine prepared now sandbox store).1.HasBegun := by
  cases prepared with
  | ended plan verdict => exact .inr ⟨verdict, rfl⟩
  | executing r plan e => exact .inl rfl
  | reading r plan => exact startRead_hasBegun r plan _ _ now sandbox store

/-- An operation that works goes on working, or ends. -/
theorem advance_hasBegun (h : stage.holds? = some true) (sandbox : Sandbox) (store : σ) :
    (advance engine request stage sandbox store).1.HasBegun := by
  cases stage with
  | called | waiting | ended _ => cases h
  | executing r plan e =>
    unfold advance
    dsimp only
    split
    · exact .inl rfl
    · exact .inr ⟨_, rfl⟩
  | reading r plan reading =>
    unfold advance
    dsimp only
    split
    · exact .inr ⟨_, rfl⟩
    · exact startRead_hasBegun _ _ _ _ _ _ _

theorem begin_steps (h : f.CanBegin i) : ReflTransGen Step f (f.begin engine now i) := by
  unfold Fleet.begin
  split
  · exact .refl
  · exact .single (.begin h (stageOf_hasBegun _ _ _ _) _ _)

theorem handOver_steps : ∀ (times : Nat) (f : Fleet σ),
    ReflTransGen Step f (handOver engine now t times f)
  | 0, _ => .refl
  | times + 1, f => by
    unfold handOver
    split
    · exact .refl
    · rename_i hnext
      exact (begin_steps (canBegin_of_next hnext)).trans (handOver_steps times _)

/-- The operation that begins holds the lock of its triple, or has left it; other locks are as
before. -/
theorem serves_begin (engine : Engine) (now : Instant) (h : f.Orderly)
    (hnext : f.locks.next? t = some i) :
    let after := (f.begin engine now i).locks
    (after.Serves t ∨ (after.callersOf t).length + 1 = (f.locks.callersOf t).length) ∧
      ∀ s, s ≠ t → f.locks.Serves s → after.Serves s := by
  obtain ⟨c, hc, rfl, hlookup, hholds, hfree⟩ := Locks.exists_of_next hnext
  obtain rfl : c.triple = t := h.sound.apart _ _ _ (h.sound.lock c hc) hlookup
  obtain ⟨request, hrequest, _⟩ := Option.map_eq_some_iff.mp (h.of_mem hc).1
  have hsound := h.sound.take hc hfree
  have htaken : c.afterTake c.number ∈ (f.locks.take c.number).callers :=
    Locks.mem_callers_take_iff.mpr ⟨c, hc, rfl⟩
  have hlocks : (f.begin engine now c.number).locks = f.locks.take c.number ∨
      (f.begin engine now c.number).locks = (f.locks.take c.number).leave c.number := by
    unfold Fleet.begin proceed
    rw [hrequest]
    dsimp only
    split
    · exact .inr rfl
    · exact .inl rfl
  dsimp only
  rcases hlocks with hlocks | hlocks
  · rw [hlocks]
    refine ⟨.inl fun _ => ⟨c.afterTake c.number, ?_, Caller.afterTake_holds_iff.mpr (.inl rfl)⟩,
      fun s _ hserves => hserves.take⟩
    exact Locks.mem_callersOf_iff.mpr ⟨htaken, Caller.afterTake_triple⟩
  · have hlength := hsound.length_callersOf_leave htaken
    have hpos : 0 < (f.locks.callersOf c.triple).length :=
      List.length_pos_of_mem (Locks.mem_callersOf_iff.mpr ⟨hc, rfl⟩)
    rw [Caller.afterTake_number, Caller.afterTake_triple, Locks.callersOf_take,
      List.length_map] at hlength
    rw [hlocks]
    refine ⟨.inr (by omega), fun s hne hserves => ?_⟩
    have hleave := hsound.serves_leave htaken (by rw [Caller.afterTake_triple]; exact hne.symm)
      hserves.take
    rwa [Caller.afterTake_number] at hleave

/-- **Handing a lock over** as often as it has callers leaves nobody who awaits it while it is
free. -/
theorem serves_handOver : ∀ (times : Nat) {f : Fleet σ}, f.Orderly →
    f.locks.Serves t ∨ (f.locks.callersOf t).length ≤ times →
    (∀ s, s ≠ t → f.locks.Serves s) → ∀ s, (handOver engine now t times f).locks.Serves s
  | 0, f, _, hserves, hothers => by
    intro s
    by_cases hs : s = t
    · subst hs
      exact hserves.elim id fun hlength hne =>
        absurd (List.length_eq_zero_iff.mp (Nat.le_zero.mp hlength)) hne
    · exact hothers s hs
  | times + 1, f, h, hserves, hothers => by
    unfold handOver
    split
    · rename_i hnext
      intro s
      by_cases hs : s = t
      · exact hs ▸ h.sound.next_eq_none_iff.mp hnext
      · exact hothers s hs
    · rename_i i hnext
      have hfree : ¬ f.locks.Serves t := fun hserves => by
        rw [h.sound.next_eq_none_iff.mpr hserves] at hnext
        cases hnext
      obtain ⟨hafter, hkept⟩ := serves_begin engine now h hnext
      refine serves_handOver times (h.steps (begin_steps (canBegin_of_next hnext))) ?_
        fun s hs => hkept s hs (hothers s hs)
      have := hserves.resolve_left hfree
      exact hafter.imp_right (by omega)

theorem join_steps (hcalled : f.stages[i]? = some .called) :
    ReflTransGen Step f (join engine f i) := by
  unfold join
  split
  · exact .refl
  · rename_i request hrequest
    split
    · rename_i hconfig
      exact .single (.refuse hrequest hcalled hconfig)
    · rename_i hconfig
      exact .head (.enter hrequest hcalled hconfig) (handOver_steps 1 _)

/-- An operation that comes begins at once unless one on its triple works. -/
theorem join_served (h : f.Served) (hcalled : f.stages[i]? = some .called) :
    (join engine f i).Served := by
  refine ⟨h.orderly.steps (join_steps hcalled), ?_⟩
  unfold join
  split
  · exact h.serves
  · rename_i request hrequest
    split
    · exact h.serves
    · rename_i hconfig
      refine serves_handOver 1 (h.orderly.step (.enter hrequest hcalled hconfig)) ?_
        fun s hs => (h.serves s).enter (absurd · (Ne.symm hs))
      by_cases hnil : f.locks.callersOf request.triple = []
      · right
        change ((f.locks.enter request.triple i).callersOf request.triple).length ≤ 1
        rw [Locks.callersOf_enter, hnil, if_pos rfl]
        exact Nat.le_refl 1
      · exact .inl ((h.serves _).enter fun _ => hnil)

theorem called_handOver : ∀ (times : Nat) {f : Fleet σ}, f.Orderly → f.stages[j]? = some .called →
    (handOver engine now t times f).stages[j]? = some .called
  | 0, _, _, h => h
  | times + 1, f, horderly, h => by
    unfold handOver
    split
    · exact h
    · rename_i i hnext
      have hcan := canBegin_of_next hnext
      have hne : i ≠ j := by
        rintro rfl
        obtain ⟨c, hc, rfl, _⟩ := hcan
        have hholds := (horderly.of_mem hc).2
        rw [holds?, h] at hholds
        cases hholds
      refine called_handOver times (horderly.steps (begin_steps hcan)) ?_
      unfold Fleet.begin
      split
      · exact h
      · exact called_proceed hne h

theorem called_join (horderly : f.Orderly) (hi : f.stages[i]? = some .called) (hne : i ≠ j)
    (h : f.stages[j]? = some .called) : (join engine f i).stages[j]? = some .called := by
  unfold join
  split
  · exact h
  · rename_i request hrequest
    split
    · exact (List.getElem?_set_ne hne).trans h
    · rename_i hconfig
      exact called_handOver 1 (horderly.step (.enter hrequest hi hconfig))
        ((List.getElem?_set_ne hne).trans h)

/-- All operations come, one after the other. -/
theorem joined_reached (engine : Engine) (requests : List (Request σ)) (sandbox : Sandbox)
    (store : σ) : ∀ n ≤ requests.length,
      let f := (List.range n).foldl (join engine) (start requests sandbox store)
      Reached requests f ∧ f.Served ∧
        ∀ j, n ≤ j → j < requests.length → f.stages[j]? = some .called
  | 0, _ => by
    refine ⟨⟨sandbox, store, .refl⟩, served_start requests sandbox store, fun j _ hj => ?_⟩
    simp [start, hj]
  | n + 1, hn => by
    obtain ⟨hreached, hserved, hcalled⟩ :=
      joined_reached engine requests sandbox store n (by omega)
    rw [List.range_succ, List.foldl_append, List.foldl_cons, List.foldl_nil]
    have hnext := hcalled n (Nat.le_refl _) (by omega)
    refine ⟨?_, join_served hserved hnext, fun j hj hlength => ?_⟩
    · obtain ⟨_, _, hsteps⟩ := hreached
      exact ⟨_, _, hsteps.trans (join_steps hnext)⟩
    · exact called_join hserved.orderly hnext (by omega) (hcalled j (by omega) hlength)

/-- Nothing wakes up, or one that works goes on and its lock is handed over. -/
theorem wakeNext_cases (engine : Engine) (f : Fleet σ) : f.wakeNext engine = f ∨
    ∃ t i stage sandbox store now, f.Works t i ∧ stage.HasBegun ∧
      f.wakeNext engine =
        handOver engine now t f.requests.length (f.proceed i stage sandbox store) := by
  unfold wakeNext
  split
  · exact .inl rfl
  · rename_i i wake hnext
    split
    · rename_i request stage hrequest hstage
      have hholds := holds_of_next hnext
      have hstageHolds : stage.holds? = some true := by
        rw [holds?, hstage] at hholds
        exact hholds
      have hworks : f.Works request.triple i := ⟨by rw [triple?, hrequest]; rfl, hholds⟩
      exact .inr ⟨_, i, _, _, _, wake, hworks, advance_hasBegun hstageHolds _ _, rfl⟩
    · exact .inl rfl

theorem wakeNext_steps (f : Fleet σ) : ReflTransGen Step f (f.wakeNext engine) := by
  rcases wakeNext_cases engine f with heq | ⟨t, i, stage, _, _, _, hworks, hbegun, heq⟩
  · rw [heq]
  · rw [heq]
    exact .head (.work hworks hbegun _ _) (handOver_steps _ _)

theorem wakeNext_served (h : f.Served) : (f.wakeNext engine).Served := by
  refine ⟨h.orderly.steps (wakeNext_steps f), ?_⟩
  rcases wakeNext_cases engine f with
    heq | ⟨t, i, stage, sandbox, store, _, hworks, hbegun, heq⟩
  · rw [heq]
    exact h.serves
  · rw [heq]
    have hafter := h.orderly.work hworks hbegun sandbox store
    have hrequests : (f.proceed i stage sandbox store).requests = f.requests := by
      unfold proceed
      split <;> rfl
    refine serves_handOver _ hafter (.inr (hrequests ▸ hafter.length_callersOf_le)) fun s hs => ?_
    obtain ⟨c, hc, rfl, rfl, _⟩ := (h.orderly.calls i t true).mp hworks
    unfold proceed
    split
    · exact h.orderly.sound.serves_leave hc (Ne.symm hs) (h.serves s)
    · exact h.serves s

/-- What operations that wake up keep is kept until all of them have ended. -/
theorem untilAllEnd_of_wakeNext {kept : Fleet σ → Prop}
    (hwake : ∀ f, kept f → kept (f.wakeNext engine)) :
    ∀ (callers : Nat) (f : Fleet σ), kept f → kept (f.untilAllEnd engine callers) := by
  have hone : ∀ (before times : Nat) (f : Fleet σ), kept f →
      kept (f.untilOneEnds engine before times) := by
    intro before times
    induction times with
    | zero => exact fun _ hf => hf
    | succ times ih =>
      intro f hf
      unfold untilOneEnds
      dsimp only
      split
      · exact hwake f hf
      · exact ih _ (hwake f hf)
  intro callers
  induction callers with
  | zero => exact fun _ hf => hf
  | succ callers ih =>
    intro f hf
    unfold untilAllEnd
    split
    · exact hf
    · exact ih _ (hone _ _ f hf)

/-- **Carrying out operations side by side** is one of the orders in which they can proceed. -/
theorem performAll_reached (engine : Engine) (requests : List (Request σ)) (sandbox : Sandbox)
    (store : σ) : Reached requests (engine.performAll requests sandbox store) := by
  obtain ⟨⟨_, _, hsteps⟩, -⟩ :=
    joined_reached engine requests sandbox store requests.length (Nat.le_refl _)
  exact ⟨_, _, untilAllEnd_of_wakeNext (fun f hf => hf.trans (wakeNext_steps f)) _ _ hsteps⟩

/-- **And in it no lock is free that somebody awaits.** -/
theorem performAll_served (engine : Engine) (requests : List (Request σ)) (sandbox : Sandbox)
    (store : σ) : (engine.performAll requests sandbox store).Served := by
  obtain ⟨-, hserved, -⟩ :=
    joined_reached engine requests sandbox store requests.length (Nat.le_refl _)
  exact untilAllEnd_of_wakeNext (fun _ hf => wakeNext_served hf) _ _ hserved

end

/-! ## One operation at a time -/

/-- **Operations on one triple are carried out one after the other.**  At any time at most one
operation on a triple has taken its lock and not left it.  One that awaits the lock may take it
unless one on the same triple works.  A triple has a lock, and a count of its callers, exactly if an
operation on it has come and not ended, and nothing is left behind once all of them have ended. -/
theorem serialized (h : Reached requests f) :
    (∀ t i j, f.Works t i → f.Works t j → i = j) ∧
    (∀ t i, f.Waits t i → (f.CanBegin i ↔ ∀ j, ¬ f.Works t j)) ∧
    (∀ t, t ∈ Assoc.keys f.locks.current ↔ ∃ i, f.InProgress t i) ∧
    (∀ t, t ∈ Assoc.keys f.locks.users ↔ ∃ i, f.InProgress t i) ∧
    ((∀ t i, ¬ f.InProgress t i) → f.locks.current = [] ∧ f.locks.users = []) := by
  have horderly := h.orderly
  refine ⟨fun t i j => horderly.eq_of_works, fun t i => horderly.canBegin_iff,
    fun t => ?_, fun t => ?_, fun hnone => ?_⟩
  · rw [Assoc.mem_keys_iff, horderly.exists_inProgress_iff, horderly.sound.exists_current_iff]
  · rw [Assoc.mem_keys_iff, horderly.exists_inProgress_iff, horderly.sound.exists_users_iff]
  · have hidle : f.locks.isIdle = true := by
      rw [horderly.sound.isIdle_iff, List.eq_nil_iff_forall_not_mem]
      intro c hc
      refine absurd (horderly.exists_inProgress_iff.mpr ?_) (not_exists.mpr (hnone c.triple))
      exact Locks.callersOf_ne_nil_iff.mpr ⟨c, hc, rfl⟩
    simpa [Locks.isIdle] using hidle

end

/-! ## A race

Two operations on one stack come one after the other, and then one on another stack. -/

namespace Race

/-- A stack. -/
def stack (name : String) : Triple := ⟨"project", "dev", name⟩

/-- An application of a pipeline that generates nothing. -/
def request (name : String) : Request MemoryStore :=
  { triple := stack name, task := .apply ⟨[], []⟩ }

/-- The operations. -/
def requests : List (Request MemoryStore) := [request "web", request "web", request "shop"]

/-- The engine. -/
def engine : Engine := ⟨⟨.whole 300, 4⟩, default⟩

/-- All of them have come. -/
def come : Fleet MemoryStore :=
  (List.range requests.length).foldl (join engine) (start requests {} {})

theorem come_reached : Reached requests come :=
  (joined_reached engine requests {} {} requests.length (Nat.le_refl _)).1

theorem triple_come : (List.range 3).map come.triple? =
    [some (stack "web"), some (stack "web"), some (stack "shop")] := by cbv

theorem holds_come : (List.range 3).map come.holds? = [some true, some false, some true] := by cbv

end Race

/-- The first operation on the stack works and the second one waits for it, but not the one on the
other stack. -/
theorem serialized_race :
    Race.come.Works (Race.stack "web") 0 ∧ Race.come.Waits (Race.stack "web") 1 ∧
      Race.come.Works (Race.stack "shop") 2 ∧ ¬ Race.come.CanBegin 1 ∧
      (∀ i, Race.come.Works (Race.stack "web") i → i = 0) ∧
      Race.stack "web" ∈ Assoc.keys Race.come.locks.users := by
  obtain ⟨honly, hwait, -, husers, -⟩ := serialized Race.come_reached
  have htriples := Race.triple_come
  have hholds := Race.holds_come
  simp only [List.range_succ, List.range_zero, List.nil_append, List.cons_append, List.map_cons,
    List.map_nil, List.cons.injEq, and_true] at htriples hholds
  have hfirst : Race.come.Works (Race.stack "web") 0 := ⟨htriples.1, hholds.1⟩
  have hsecond : Race.come.Waits (Race.stack "web") 1 := ⟨htriples.2.1, hholds.2.1⟩
  refine ⟨hfirst, hsecond, ⟨htriples.2.2, hholds.2.2⟩, fun hcan => ?_,
    fun i hi => honly _ i 0 hi hfirst, (husers _).mpr ⟨0, .inl hfirst⟩⟩
  exact (hwait _ 1 hsecond).mp hcan 0 hfirst

end Rollout.Fleet
