import Mathlib.Logic.Relation
import Rollout.Execution.Run
import Rollout.Proofs.Execution.Schedule

/-!
# What holds of every run

* `Run.Step` : an action that is ready is started, or an action that is running ends;
* `Run.Reached` : the runs that an execution can come to, whichever action it starts or waits for
  next;
* `Run.Sound`, `Run.Inv` : which statuses can stand together;
* `Run.Reached.inv` : they hold of every run that is reached.
-/

set_option autoImplicit false

namespace Rollout

/-- An action with this status has been started. -/
def Status.IsBegun (st : Status) : Prop := st = .running ∨ st = .succeeded ∨ st = .failed

/-- An action that waits for one with this status is never started. -/
def Status.IsLost (st : Status) : Prop := st = .failed ∨ st = .skipped

theorem Status.IsLost.ne_pending {st : Status} (h : st.IsLost) : st ≠ .pending := by
  rintro rfl
  rcases h with h | h <;> cases h

theorem Status.IsLost.ne_running {st : Status} (h : st.IsLost) : st ≠ .running := by
  rintro rfl
  rcases h with h | h <;> cases h

theorem Status.IsBegun.ne_pending {st : Status} (h : st.IsBegun) : st ≠ .pending := by
  rintro rfl
  rcases h with h | h | h <;> cases h

/-- What the action at a position records once it has succeeded. -/
def Schedule.answer? (s : Schedule) (outcome : Nat → Outcome) (i : Nat) : Option Resource :=
  match s.actions[i]?, outcome i with
  | some c, .succeeded returned => Run.confirmedVersion c returned
  | _, _ => none

theorem Schedule.exists_action (s : Schedule) {i : Nat} (hi : i < s.size) :
    ∃ c, s.actions[i]? = some c := ⟨_, List.getElem?_eq_getElem hi⟩

namespace Run

open Relation

/-! ## Steps -/

/-- One step of an execution in which the outcome of every action is given: an action that is ready
is started, if there is room for it, or an action that is running ends. -/
inductive Step (s : Schedule) (limit : Int) (outcome : Nat → Outcome) : Run → Run → Prop
  | start {run : Run} (now : DateTime) {i : Nat} (ready : isReady s run i = true)
      (room : (run.running.length : Int) < limit) : Step s limit outcome run (run.start now i)
  | settle {run : Run} (now : DateTime) {i : Nat} (running : i ∈ run.running) :
      Step s limit outcome run (run.settle s now (i, outcome i))

/-- A run that an execution can come to. -/
def Reached (s : Schedule) (limit : Int) (outcome : Nat → Outcome) (run : Run) : Prop :=
  ReflTransGen (Step s limit outcome) (init s) run

variable {s : Schedule} {limit : Int} {outcome : Nat → Outcome} {run run' : Run} {i : Nat}

/-! ## Statuses -/

theorem lt_of_status? {st : Status} (h : run.status? i = some st) : i < run.records.length := by
  unfold status? at h
  by_contra hge
  rw [List.getElem?_eq_none (by omega)] at h
  cases h

theorem status?_isSome (h : i < run.records.length) : ∃ st, run.status? i = some st :=
  ⟨run.records[i].status, by simp [status?, h]⟩

theorem statuses_getElem? (run : Run) (i : Nat) : run.statuses[i]? = run.status? i := by
  simp [statuses, status?]

theorem length_record (i : Nat) (f : ActionRecord → ActionRecord) (run : Run) :
    (run.record i f).records.length = run.records.length := by
  simp [record]

/-- Changing the record at a position changes no other status. -/
theorem status?_record (run : Run) {st : Status} {f : ActionRecord → ActionRecord}
    (hf : ∀ r, (f r).status = st) (hi : i < run.records.length) (j : Nat) :
    (run.record i f).status? j = if j = i then some st else run.status? j := by
  unfold status? record
  rw [List.getElem?_modify]
  by_cases hji : j = i
  · subst hji
    simp [hi, hf]
  · simp [hji, Ne.symm hji]

theorem status?_init {j : Nat} {st : Status} (h : (init s).status? j = some st) :
    st = .pending := by
  simp only [status?, init, List.getElem?_map, Option.map_eq_some_iff] at h
  obtain ⟨_, ⟨_, _, rfl⟩, rfl⟩ := h
  rfl

theorem length_init (s : Schedule) : (init s).records.length = s.size := by
  simp [init, Schedule.size]

theorem isReady_iff :
    isReady s run i = true ↔
      run.status? i = some .pending ∧ ∀ j ∈ s.waits i, run.status? j = some .succeeded := by
  simp [isReady, List.all_eq_true]

theorem isBlocked_iff :
    isBlocked s run i = true ↔ run.status? i = some .pending ∧
      ∃ j ∈ s.waits i, ∃ st, run.status? j = some st ∧ st.IsLost := by
  simp only [isBlocked, Bool.and_eq_true, decide_eq_true_eq, List.any_eq_true, Bool.or_eq_true,
    Status.IsLost]
  refine and_congr_right fun _ => exists_congr fun j => and_congr_right fun _ => ?_
  constructor
  · rintro (h | h)
    · exact ⟨_, h, .inl rfl⟩
    · exact ⟨_, h, .inr rfl⟩
  · rintro ⟨st, h, rfl | rfl⟩
    · exact .inl h
    · exact .inr h

/-! ## Skipping -/

/-- One run comes from another one by skipping actions that wait for lost ones. -/
structure Skips (s : Schedule) (run run' : Run) : Prop where
  size : run'.records.length = run.records.length
  running : run'.running = run.running
  applied : run'.applied = run.applied
  status : ∀ i, run'.status? i = run.status? i ∨
    run.status? i = some .pending ∧ run'.status? i = some .skipped ∧
      ∃ j ∈ s.waits i, ∃ st, run'.status? j = some st ∧ st.IsLost

namespace Skips

theorem refl (s : Schedule) (run : Run) : Skips s run run :=
  ⟨rfl, rfl, rfl, fun _ => .inl rfl⟩

/-- Only pending actions are skipped. -/
theorem kept (h : Skips s run run') {st : Status} (hi : run.status? i = some st)
    (hst : st ≠ .pending) : run'.status? i = some st := by
  rcases h.status i with he | ⟨hp, _⟩
  · exact he.trans hi
  · rw [hi, Option.some.injEq] at hp
    exact absurd hp hst

/-- What is not skipped afterwards was so before. -/
theorem from' (h : Skips s run run') {st : Status} (hi : run'.status? i = some st)
    (hst : st ≠ .skipped) : run.status? i = some st := by
  rcases h.status i with he | ⟨_, hp, _⟩
  · exact he.symm.trans hi
  · rw [hi, Option.some.injEq] at hp
    exact absurd hp hst

theorem trans {run₁ run₂ run₃ : Run} (h : Skips s run₁ run₂) (h' : Skips s run₂ run₃) :
    Skips s run₁ run₃ := by
  refine ⟨h'.size.trans h.size, h'.running.trans h.running, h'.applied.trans h.applied,
    fun i => ?_⟩
  rcases h.status i with he | ⟨hp, hs, j, hj, st, hst, hlost⟩
  · rcases h'.status i with he' | ⟨hp', hs', hlost⟩
    · exact .inl (he'.trans he)
    · exact .inr ⟨he.symm.trans hp', hs', hlost⟩
  · have hkept : st ≠ .pending := by rintro rfl; rcases hlost with h | h <;> cases h
    exact .inr ⟨hp, h'.kept hs (by simp), j, hj, st, h'.kept hst hkept, hlost⟩

end Skips

theorem status?_skipIfBlocked (reason : String) (hb : isBlocked s run i = true) (j : Nat) :
    (skipIfBlocked s reason run i).status? j = if j = i then some .skipped else run.status? j := by
  rw [skipIfBlocked, if_pos hb]
  exact status?_record run (f := fun r => { r with status := .skipped, error := some reason })
    (fun _ => rfl) (lt_of_status? (isBlocked_iff.mp hb).1) j

theorem skipIfBlocked_skips (s : Schedule) (reason : String) (run : Run) (i : Nat) :
    Skips s run (skipIfBlocked s reason run i) := by
  by_cases hb : isBlocked s run i = true
  · obtain ⟨hp, j, hj, st, hst, hlost⟩ := isBlocked_iff.mp hb
    have hstatus := status?_skipIfBlocked reason hb
    have hji : j ≠ i := by
      rintro rfl
      rw [hp, Option.some.injEq] at hst
      exact hlost.ne_pending hst.symm
    refine ⟨?_, ?_, ?_, fun k => ?_⟩
    · rw [skipIfBlocked, if_pos hb, length_record]
    · rw [skipIfBlocked, if_pos hb, record]
    · rw [skipIfBlocked, if_pos hb, record]
    · by_cases hk : k = i
      · subst hk
        exact .inr ⟨hp, by rw [hstatus, if_pos rfl], j, hj, st, by rw [hstatus, if_neg hji, hst],
          hlost⟩
      · exact .inl (by rw [hstatus, if_neg hk])
  · rw [skipIfBlocked, if_neg hb]
    exact .refl s run

theorem foldl_skips (s : Schedule) (reason : String) : ∀ (visited : List Nat) (run : Run),
    Skips s run (visited.foldl (skipIfBlocked s reason) run)
  | [], run => .refl s run
  | i :: rest, run => (skipIfBlocked_skips s reason run i).trans (foldl_skips s reason rest _)

theorem skipBlocked_skips (s : Schedule) (reason : String) (run : Run) :
    Skips s run (skipBlocked s reason run) := foldl_skips s reason s.order run

theorem not_isBlocked_skipIfBlocked (s : Schedule) (reason : String) (run : Run) (i : Nat) :
    isBlocked s (skipIfBlocked s reason run i) i = false := by
  by_cases hb : isBlocked s run i = true
  · refine Bool.eq_false_iff.mpr fun hb' => ?_
    have hp := (isBlocked_iff.mp hb').1
    rw [status?_skipIfBlocked reason hb, if_pos rfl] at hp
    cases hp
  · rw [skipIfBlocked, if_neg hb]
    exact Bool.eq_false_iff.mpr hb

/-- Skipping an action changes no other status. -/
theorem status?_skipIfBlocked_ne (s : Schedule) (reason : String) (run : Run) {i j : Nat}
    (h : j ≠ i) : (skipIfBlocked s reason run i).status? j = run.status? j := by
  by_cases hb : isBlocked s run i = true
  · rw [status?_skipIfBlocked reason hb, if_neg h]
  · rw [skipIfBlocked, if_neg hb]

/-- A visit in the order of a schedule leaves no visited action blocked: what an action waits for is
visited before it, and not changed any more. -/
theorem foldl_unblocked (hs : s.Lawful) (reason : String) :
    ∀ (rest visited : List Nat) (run : Run), s.order = visited ++ rest →
      (∀ i ∈ visited, isBlocked s run i = false) →
      ∀ i ∈ s.order, isBlocked s (rest.foldl (skipIfBlocked s reason) run) i = false
  | [], visited, run, heq, hfree => by
    rw [List.append_nil] at heq
    exact heq ▸ hfree
  | k :: rest, visited, run, heq, hfree => by
    refine foldl_unblocked hs reason rest (visited ++ [k]) _ (by simpa using heq) ?_
    intro i hi
    rcases List.mem_append.mp hi with hi | hi
    · have hnd := hs.orders.nodup
      rw [heq] at hnd
      have hk : k ∉ visited := fun hk =>
        (List.nodup_append.mp hnd).2.2 k hk k (by simp) rfl
      obtain ⟨pre, post, rfl⟩ := List.append_of_mem hi
      by_contra hb
      obtain ⟨hp, j, hj, st, hst, hlost⟩ := isBlocked_iff.mp (by simpa using hb)
      have hjpre : j ∈ pre :=
        hs.orders.behind pre i (post ++ k :: rest) (by simpa using heq) j hj (hs.below i j hj).2
      have hik : i ≠ k := fun h => hk (h ▸ hi)
      have hjk : j ≠ k := fun h => hk (h ▸ List.mem_append_left _ hjpre)
      rw [status?_skipIfBlocked_ne s reason run hik] at hp
      rw [status?_skipIfBlocked_ne s reason run hjk] at hst
      have := hfree i hi
      rw [isBlocked_iff.mpr ⟨hp, j, hj, st, hst, hlost⟩] at this
      cases this
    · rw [List.mem_singleton] at hi
      exact hi ▸ not_isBlocked_skipIfBlocked s reason run k

/-- **Once the blocked actions have been skipped, no action is blocked**, also not by those that
were skipped. -/
theorem skipBlocked_unblocked (hs : s.Lawful) (reason : String) (hsize : run.records.length = s.size)
    (i : Nat) : isBlocked s (skipBlocked s reason run) i = false := by
  by_cases hi : i < s.size
  · exact foldl_unblocked hs reason s.order [] run rfl (by simp) i (hs.orders.mem_iff.mpr hi)
  · by_contra hb
    have hlt := lt_of_status? (isBlocked_iff.mp (by simpa using hb)).1
    rw [(skipBlocked_skips s reason run).size, hsize] at hlt
    exact hi hlt

/-! ## Invariants -/

/-- Which statuses can stand together while actions are started, end and are skipped. -/
structure Sound (s : Schedule) (outcome : Nat → Outcome) (run : Run) : Prop where
  size : run.records.length = s.size
  nodup : run.running.Nodup
  mem_running : ∀ i, i ∈ run.running ↔ run.status? i = some .running
  granted : ∀ i st, run.status? i = some st → st.IsBegun →
    ∀ j ∈ s.waits i, run.status? j = some .succeeded
  succeeded : ∀ i, run.status? i = some .succeeded → ∃ returned, outcome i = .succeeded returned
  failed : ∀ i, run.status? i = some .failed → ∃ text, outcome i = .failed text
  skipped : ∀ i, run.status? i = some .skipped →
    ∃ j ∈ s.waits i, ∃ st, run.status? j = some st ∧ st.IsLost
  uncancelled : ∀ i, run.status? i ≠ some .cancelled
  mem_applied : ∀ i r, (i, r) ∈ run.applied ↔
    run.status? i = some .succeeded ∧ s.answer? outcome i = some r

/-- What holds between two steps: besides, no action is blocked. -/
structure Inv (s : Schedule) (outcome : Nat → Outcome) (run : Run) : Prop
    extends Sound s outcome run where
  unblocked : ∀ i, isBlocked s run i = false

theorem init_inv (s : Schedule) (outcome : Nat → Outcome) : Inv s outcome (init s) := by
  have hpending : ∀ i st, (init s).status? i = some st → st = .pending := fun _ _ => status?_init
  refine ⟨⟨length_init s, by simp [init], fun i => ?_, fun i st h hst => ?_, fun i h => ?_,
    fun i h => ?_, fun i h => ?_, fun i h => ?_, fun i r => ?_⟩, fun i => ?_⟩
  · refine iff_of_false (by simp [init]) fun h => ?_
    cases hpending i _ h
  · rw [hpending i st h] at hst
    rcases hst with h | h | h <;> cases h
  · cases hpending i _ h
  · cases hpending i _ h
  · cases hpending i _ h
  · cases hpending i _ h
  · refine iff_of_false (by simp [init]) fun ⟨h, _⟩ => ?_
    cases hpending i _ h
  · by_contra hb
    obtain ⟨_, j, _, st, hst, hlost⟩ := isBlocked_iff.mp (by simpa using hb)
    rw [hpending j st hst] at hlost
    rcases hlost with h | h <;> cases h

/-! ## What starting an action keeps -/

/-- Where two runs agree but for one action, any status but that action's is found in both. -/
theorem status?_elsewhere {j : Nat} {st st' : Status} (hi : run.status? i = some st)
    (hother : ∀ j, j ≠ i → run'.status? j = run.status? j) (hj : run.status? j = some st')
    (hne : st' ≠ st) : run'.status? j = some st' := by
  have hji : j ≠ i := by
    rintro rfl
    rw [hi, Option.some.injEq] at hj
    exact hne hj.symm
  exact (hother j hji).trans hj

theorem status?_start (now : DateTime) (hi : i < run.records.length) (j : Nat) :
    (run.start now i).status? j = if j = i then some .running else run.status? j :=
  status?_record run (f := fun r => { r with status := .running, startedAt := some now })
    (fun _ => rfl) hi j

theorem Inv.start (h : Inv s outcome run) (hready : isReady s run i = true) (now : DateTime) :
    Inv s outcome (run.start now i) := by
  obtain ⟨hp, hwaits⟩ := isReady_iff.mp hready
  have hstatus := status?_start now (lt_of_status? hp)
  have hother : ∀ j, j ≠ i → (run.start now i).status? j = run.status? j := fun j hj => by
    rw [hstatus, if_neg hj]
  have hself : (run.start now i).status? i = some .running := by rw [hstatus, if_pos rfl]
  have hback : ∀ j st, (run.start now i).status? j = some st → st ≠ .running →
      run.status? j = some st := fun j st =>
    status?_elsewhere hself fun j hj => (hother j hj).symm
  have hforth : ∀ j st, run.status? j = some st → st ≠ .pending →
      (run.start now i).status? j = some st := fun j st => status?_elsewhere hp hother
  refine ⟨⟨(length_record _ _ _).trans h.size, ?_, fun j => ?_, fun j st hj hst k hk => ?_,
    fun j hj => h.succeeded j (hback j _ hj (by simp)),
    fun j hj => h.failed j (hback j _ hj (by simp)), fun j hj => ?_,
    fun j hj => h.uncancelled j (hback j _ hj (by simp)), fun j r => ?_⟩, fun j => ?_⟩
  · have hi : i ∉ run.running := fun hi => by
      rw [(h.mem_running i).mp hi] at hp
      cases hp
    exact List.nodup_append.mpr ⟨h.nodup, by simp, fun a ha b hb hab => by
      rw [List.mem_singleton] at hb
      exact hi (hb ▸ hab ▸ ha)⟩
  · by_cases hji : j = i
    · subst hji
      exact iff_of_true (by simp [Run.start]) hself
    · rw [hother j hji, ← h.mem_running j]
      simp [Run.start, record, hji]
  · refine hforth k _ ?_ (by simp)
    by_cases hji : j = i
    · exact hwaits k (hji ▸ hk)
    · exact h.granted j st ((hother j hji).symm.trans hj) hst k hk
  · obtain ⟨k, hk, st, hst, hlost⟩ := h.skipped j (hback j _ hj (by simp))
    exact ⟨k, hk, st, hforth k st hst hlost.ne_pending, hlost⟩
  · refine (h.mem_applied j r).trans (and_congr_left fun _ => ?_)
    exact ⟨fun hj => hforth j _ hj (by simp), fun hj => hback j _ hj (by simp)⟩
  · by_contra hb
    obtain ⟨hpj, k, hk, st, hst, hlost⟩ := isBlocked_iff.mp (by simpa using hb)
    have hb' := isBlocked_iff.mpr ⟨hback j _ hpj (by simp), k, hk, st,
      hback k st hst hlost.ne_running, hlost⟩
    rw [h.unblocked j] at hb'
    cases hb'

/-! ## What the end of an action keeps -/

theorem Sound.ended (h : Sound s outcome run) (hi : i ∈ run.running) {st : Status}
    (hsize : run'.records.length = run.records.length)
    (hrunning : run'.running = run.running.erase i)
    (hstatus : ∀ j, run'.status? j = if j = i then some st else run.status? j)
    (hst : (st = .succeeded ∧ ∃ returned, outcome i = .succeeded returned) ∨
      (st = .failed ∧ ∃ text, outcome i = .failed text))
    (happlied : ∀ j r, (j, r) ∈ run'.applied ↔
      (j, r) ∈ run.applied ∨ j = i ∧ st = .succeeded ∧ s.answer? outcome i = some r) :
    Sound s outcome run' := by
  have hrun : run.status? i = some .running := (h.mem_running i).mp hi
  have hother : ∀ j, j ≠ i → run'.status? j = run.status? j := fun j hj => by
    rw [hstatus, if_neg hj]
  have hself : run'.status? i = some st := by rw [hstatus, if_pos rfl]
  have hforth : ∀ j st', run.status? j = some st' → st' ≠ .running → run'.status? j = some st' :=
    fun j st' => status?_elsewhere hrun hother
  -- a status that is neither of the two ends is the one from before
  have hold : ∀ j st', run'.status? j = some st' → st' ≠ .succeeded → st' ≠ .failed →
      run.status? j = some st' := by
    intro j st' hj hs hf
    refine status?_elsewhere hself (fun j hj => (hother j hj).symm) hj ?_
    rintro rfl
    rcases hst with ⟨h, _⟩ | ⟨h, _⟩
    · exact hs h
    · exact hf h
  refine ⟨hsize.trans h.size, hrunning ▸ h.nodup.erase i, fun j => ?_, fun j st' hj hbegun k hk => ?_,
    fun j hj => ?_, fun j hj => ?_, fun j hj => ?_,
    fun j hj => h.uncancelled j (hold j _ hj (by simp) (by simp)), fun j r => ?_⟩
  · rw [hrunning, h.nodup.mem_erase_iff, h.mem_running j]
    by_cases hji : j = i
    · subst hji
      refine iff_of_false (fun hj => hj.1 rfl) fun hj => ?_
      rw [hself, Option.some.injEq] at hj
      rcases hst with ⟨h, _⟩ | ⟨h, _⟩ <;> rw [h] at hj <;> cases hj
    · rw [hother j hji]
      exact and_iff_right hji
  · refine hforth k _ ?_ (by simp)
    by_cases hji : j = i
    · exact h.granted i _ hrun (.inl rfl) k (hji ▸ hk)
    · exact h.granted j st' ((hother j hji).symm.trans hj) hbegun k hk
  · by_cases hji : j = i
    · subst hji
      rw [hself, Option.some.injEq] at hj
      rcases hst with ⟨_, h⟩ | ⟨h, _⟩
      · exact h
      · rw [h] at hj
        cases hj
    · exact h.succeeded j ((hother j hji).symm.trans hj)
  · by_cases hji : j = i
    · subst hji
      rw [hself, Option.some.injEq] at hj
      rcases hst with ⟨h, _⟩ | ⟨_, h⟩
      · rw [h] at hj
        cases hj
      · exact h
    · exact h.failed j ((hother j hji).symm.trans hj)
  · obtain ⟨k, hk, st', hst', hlost⟩ := h.skipped j (hold j _ hj (by simp) (by simp))
    exact ⟨k, hk, st', hforth k st' hst' hlost.ne_running, hlost⟩
  · rw [happlied, h.mem_applied j r]
    by_cases hji : j = i
    · subst hji
      rw [hrun, hself]
      simp
    · rw [hother j hji]
      simp [hji]

/-- A success blocks nothing. -/
theorem Inv.unblocked_of_succeeded (h : Inv s outcome run) (hrun : run.status? i = some .running)
    (hstatus : ∀ j, run'.status? j = if j = i then some .succeeded else run.status? j) (j : Nat) :
    isBlocked s run' j = false := by
  refine Bool.eq_false_iff.mpr fun hb => ?_
  obtain ⟨hp, k, hk, st, hst, hlost⟩ := isBlocked_iff.mp hb
  have hji : j ≠ i := by
    rintro rfl
    rw [hstatus, if_pos rfl] at hp
    cases hp
  have hki : k ≠ i := by
    rintro rfl
    rw [hstatus, if_pos rfl, Option.some.injEq] at hst
    subst hst
    rcases hlost with h | h <;> cases h
  rw [hstatus, if_neg hji] at hp
  rw [hstatus, if_neg hki] at hst
  have := h.unblocked j
  rw [isBlocked_iff.mpr ⟨hp, k, hk, st, hst, hlost⟩] at this
  cases this

theorem Sound.skips (h : Sound s outcome run) (hskip : Skips s run run') :
    Sound s outcome run' := by
  refine ⟨hskip.size.trans h.size, hskip.running ▸ h.nodup, fun i => ?_,
    fun i st hi hst j hj => ?_, fun i hi => h.succeeded i (hskip.from' hi (by simp)),
    fun i hi => h.failed i (hskip.from' hi (by simp)), fun i hi => ?_,
    fun i hi => h.uncancelled i (hskip.from' hi (by simp)), fun i r => ?_⟩
  · rw [hskip.running, h.mem_running i]
    exact ⟨fun hi => hskip.kept hi (by simp), fun hi => hskip.from' hi (by simp)⟩
  · have hne : st ≠ .skipped := by
      rintro rfl
      rcases hst with h | h | h <;> cases h
    exact hskip.kept (h.granted i st (hskip.from' hi hne) hst j hj) (by simp)
  · rcases hskip.status i with he | ⟨_, _, hlost⟩
    · obtain ⟨j, hj, st, hst, hlost⟩ := h.skipped i (he.symm.trans hi)
      exact ⟨j, hj, st, hskip.kept hst hlost.ne_pending, hlost⟩
    · exact hlost
  · rw [hskip.applied, h.mem_applied i r]
    exact and_congr_left fun _ =>
      ⟨fun hi => hskip.kept hi (by simp), fun hi => hskip.from' hi (by simp)⟩

theorem settle_succeeded {now : DateTime} {returned : Option Resource} {c : Change}
    (hc : s.actions[i]? = some c) :
    run.settle s now (i, .succeeded returned) =
      { { run with running := run.running.erase i }.record i
          fun r => { r with status := .succeeded, finishedAt := some now } with
        applied := run.applied ++ ((confirmedVersion c returned).map fun r => (i, r)).toList } := by
  simp only [settle, hc, record]

theorem settle_failed {now : DateTime} {text : String} {c : Change}
    (hc : s.actions[i]? = some c) :
    run.settle s now (i, .failed text) =
      skipBlocked s (skipReason c) ({ run with running := run.running.erase i }.record i fun r =>
        { r with status := .failed, error := some (errorText c text), finishedAt := some now }) := by
  simp only [settle, hc]

theorem settle_running (s : Schedule) (now : DateTime) (run : Run) (i : Nat) (o : Outcome) :
    (run.settle s now (i, o)).running = run.running.erase i := by
  cases hc : s.actions[i]? with
  | none => simp only [settle, hc]
  | some c =>
    cases o with
    | succeeded returned => rw [settle_succeeded hc, record]
    | failed text => rw [settle_failed hc, (skipBlocked_skips _ _ _).running, record]

/-- When an action ends, no other status changes but those of pending actions that are skipped. -/
theorem Sound.status?_settle (h : Sound s outcome run) (hi : i ∈ run.running) (now : DateTime)
    (o : Outcome) :
    ((run.settle s now (i, o)).status? i = some .succeeded ∧ (∃ returned, o = .succeeded returned) ∨
      (run.settle s now (i, o)).status? i = some .failed ∧ ∃ text, o = .failed text) ∧
      ∀ j, j ≠ i → (run.settle s now (i, o)).status? j = run.status? j ∨
        run.status? j = some .pending ∧ (run.settle s now (i, o)).status? j = some .skipped := by
  have hlt := lt_of_status? ((h.mem_running i).mp hi)
  obtain ⟨c, hc⟩ := s.exists_action (h.size ▸ hlt)
  cases o with
  | succeeded returned =>
    rw [settle_succeeded hc]
    have hstatus := status?_record { run with running := run.running.erase i }
      (f := fun r => { r with status := .succeeded, finishedAt := some now }) (fun _ => rfl) hlt
    exact ⟨.inl ⟨(hstatus i).trans (if_pos rfl), _, rfl⟩,
      fun j hj => .inl ((hstatus j).trans (if_neg hj))⟩
  | failed text =>
    rw [settle_failed hc]
    have hstatus := status?_record { run with running := run.running.erase i }
      (f := fun r => { r with status := .failed, error := some (errorText c text),
                              finishedAt := some now }) (fun _ => rfl) hlt
    have hskip := skipBlocked_skips s (skipReason c)
      ({ run with running := run.running.erase i }.record i fun r =>
        { r with status := .failed, error := some (errorText c text), finishedAt := some now })
    refine ⟨.inr ⟨hskip.kept ((hstatus i).trans (if_pos rfl)) (by simp), _, rfl⟩, fun j hj => ?_⟩
    rcases hskip.status j with he | ⟨hp, hskipped, _⟩
    · exact .inl (he.trans ((hstatus j).trans (if_neg hj)))
    · exact .inr ⟨((hstatus j).trans (if_neg hj)).symm.trans hp, hskipped⟩

theorem Sound.succeeded_settle_iff (h : Sound s outcome run) (hi : i ∈ run.running)
    (now : DateTime) (o : Outcome) (j : Nat) :
    (run.settle s now (i, o)).status? j = some .succeeded ↔
      run.status? j = some .succeeded ∨ j = i ∧ ∃ returned, o = .succeeded returned := by
  obtain ⟨hown, hothers⟩ := h.status?_settle hi now o
  have hrunning := (h.mem_running i).mp hi
  by_cases hj : j = i
  · subst hj
    rw [hrunning]
    rcases hown with ⟨hstatus, ho⟩ | ⟨hstatus, text, rfl⟩
    · simp [hstatus, ho]
    · simp [hstatus]
  · rcases hothers j hj with heq | ⟨hpending, hskipped⟩
    · simp [heq, hj]
    · simp [hpending, hskipped, hj]

theorem Inv.settle (hs : s.Lawful) (h : Inv s outcome run) (hi : i ∈ run.running)
    (now : DateTime) : Inv s outcome (run.settle s now (i, outcome i)) := by
  have hrun := (h.mem_running i).mp hi
  have hlt := lt_of_status? hrun
  obtain ⟨c, hc⟩ := s.exists_action (h.size ▸ hlt)
  cases ho : outcome i with
  | succeeded returned =>
    rw [settle_succeeded hc]
    have hanswer : s.answer? outcome i = confirmedVersion c returned := by
      simp only [Schedule.answer?, hc, ho]
    have hstatus := status?_record { run with running := run.running.erase i }
      (f := fun r => { r with status := .succeeded, finishedAt := some now }) (fun _ => rfl) hlt
    refine ⟨h.toSound.ended hi (length_record _ _ _) rfl hstatus (.inl ⟨rfl, _, ho⟩)
      fun j r => ?_, h.unblocked_of_succeeded hrun hstatus⟩
    rw [hanswer, List.mem_append, Option.mem_toList, Option.map_eq_some_iff]
    refine or_congr_right ⟨?_, ?_⟩
    · rintro ⟨_, hv, heq⟩
      cases heq
      exact ⟨rfl, rfl, hv⟩
    · rintro ⟨rfl, _, hv⟩
      exact ⟨r, hv, rfl⟩
  | failed text =>
    rw [settle_failed hc]
    have hstatus := status?_record { run with running := run.running.erase i }
      (f := fun r => { r with status := .failed, error := some (errorText c text),
                              finishedAt := some now }) (fun _ => rfl) hlt
    have hsound : Sound s outcome ({ run with running := run.running.erase i }.record i fun r =>
        { r with status := .failed, error := some (errorText c text), finishedAt := some now }) :=
      h.toSound.ended hi (length_record _ _ _) rfl hstatus (.inr ⟨rfl, _, ho⟩)
        fun j r => by simp [record]
    exact ⟨hsound.skips (skipBlocked_skips _ _ _), skipBlocked_unblocked hs _ hsound.size⟩

/-! ## Reached runs -/

theorem Inv.step (hs : s.Lawful) (h : Inv s outcome run) (hstep : Step s limit outcome run run') :
    Inv s outcome run' := by
  cases hstep with
  | start now ready _ => exact h.start ready now
  | settle now running => exact h.settle hs running now

/-- **The invariant holds of every run that is reached.** -/
theorem Reached.inv (hs : s.Lawful) (h : Reached s limit outcome run) : Inv s outcome run := by
  induction h with
  | refl => exact init_inv s outcome
  | tail _ hstep ih => exact ih.step hs hstep

end Run

end Rollout
