import Mathlib.Data.List.Nodup
import Rollout.Engine.Locks
import Rollout.Proofs.Assoc

/-!
# The locks that are kept

A triple has a lock exactly as long as it has callers, and all of them were given that lock.

* `Locks.Sound` : what holds of the locks at any time;
* `Locks.Sound.enter`, `Locks.Sound.take`, `Locks.Sound.leave` : it goes on to hold;
* `Locks.Sound.triple_eq` : callers who share a lock are on one triple;
* `Locks.Serves` : nobody awaits the lock of a triple while it is free;
* `Locks.Sound.isIdle_iff` : no lock is left behind exactly if there are no callers.
-/

set_option autoImplicit false

namespace Rollout

namespace Caller

variable {c : Caller} {number : Nat}

@[simp]
theorem afterTake_number : (c.afterTake number).number = c.number := by
  unfold afterTake
  split <;> rfl

@[simp]
theorem afterTake_triple : (c.afterTake number).triple = c.triple := by
  unfold afterTake
  split <;> rfl

@[simp]
theorem afterTake_lock : (c.afterTake number).lock = c.lock := by
  unfold afterTake
  split <;> rfl

theorem afterTake_holds_iff :
    (c.afterTake number).holds = true ↔ c.number = number ∨ c.holds = true := by
  unfold afterTake
  split <;> simp_all

end Caller

namespace Locks

/-- The callers of a triple. -/
def callersOf (t : Triple) (l : Locks) : List Caller := l.callers.filter fun c => c.triple = t

/-- **What holds of the locks of an engine**: nobody is there twice, every caller has the lock of
its triple, no two triples have one lock, the callers of a triple are counted, a triple without
callers has neither a count nor a lock, and nobody shares a lock that is held. -/
structure Sound (l : Locks) : Prop where
  nodup : (l.callers.map Caller.number).Nodup
  lock : ∀ c ∈ l.callers, Assoc.lookup c.triple l.current = some c.lock
  apart : ∀ s t k, Assoc.lookup s l.current = some k → Assoc.lookup t l.current = some k → s = t
  made : ∀ t k, Assoc.lookup t l.current = some k → k < l.made
  used : ∀ t, (∃ k, Assoc.lookup t l.current = some k) → l.callersOf t ≠ []
  users : ∀ t, Assoc.lookup t l.users =
    if l.callersOf t = [] then none else some (l.callersOf t).length
  exclusive : ∀ c ∈ l.callers, ∀ d ∈ l.callers, c.holds = true → d.holds = true →
    c.lock = d.lock → c = d

variable {l : Locks} {c d : Caller} {t : Triple} {number : Nat}

theorem mem_callersOf_iff : c ∈ l.callersOf t ↔ c ∈ l.callers ∧ c.triple = t := by
  simp [callersOf]

theorem callersOf_ne_nil_iff : l.callersOf t ≠ [] ↔ ∃ c ∈ l.callers, c.triple = t := by
  simp [callersOf]

theorem isHeld_iff {lock : Nat} :
    l.isHeld lock = true ↔ ∃ c ∈ l.callers, c.lock = lock ∧ c.holds = true := by
  simp [isHeld]

/-- Nobody awaits the lock of a triple while it is free. -/
def Serves (t : Triple) (l : Locks) : Prop :=
  l.callersOf t ≠ [] → ∃ c ∈ l.callersOf t, c.holds = true

/-- Whoever is next to take a lock awaits it, and it is free. -/
theorem exists_of_next (h : l.next? t = some number) :
    ∃ c ∈ l.callers, c.number = number ∧ Assoc.lookup t l.current = some c.lock ∧
      c.holds = false ∧ l.isHeld c.lock = false := by
  unfold next? at h
  split at h
  · cases h
  · rename_i lock hlookup
    split at h
    · cases h
    · rename_i hfree
      rw [Bool.not_eq_true] at hfree
      obtain ⟨c, hfind, rfl⟩ := Option.map_eq_some_iff.mp h
      have hc := List.mem_of_find?_eq_some hfind
      obtain rfl : c.lock = lock := by simpa using List.find?_some hfind
      refine ⟨c, hc, rfl, hlookup, Bool.eq_false_iff.mpr fun hholds => ?_, hfree⟩
      rw [isHeld_iff.mpr ⟨c, hc, rfl, hholds⟩] at hfree
      cases hfree

theorem mem_callers_take_iff : d ∈ (l.take number).callers ↔
    ∃ c ∈ l.callers, c.afterTake number = d := List.mem_map

/-! ## Coming and taking -/

theorem lookup_current_enter (s : Triple) : Assoc.lookup s (l.enter t number).current =
    if t = s then some ((Assoc.lookup t l.current).getD l.made) else Assoc.lookup s l.current :=
  Assoc.lookup_put t s _ l.current

theorem callersOf_enter (s : Triple) : (l.enter t number).callersOf s = l.callersOf s ++
    if t = s then [⟨number, t, (Assoc.lookup t l.current).getD l.made, false⟩] else [] := by
  unfold callersOf enter
  rw [List.filter_append, List.filter_singleton]
  by_cases h : t = s <;> simp [h]

theorem callersOf_take : (l.take number).callersOf t =
    (l.callersOf t).map (Caller.afterTake number) := by
  unfold callersOf Locks.take
  rw [List.filter_map]
  simp only [Function.comp_def, Caller.afterTake_triple]

theorem Serves.enter {s : Triple} (h : l.Serves t) (hne : s = t → l.callersOf t ≠ []) :
    (l.enter s number).Serves t := by
  unfold Serves
  rw [callersOf_enter]
  split
  · rename_i heq
    obtain ⟨c, hc, hholds⟩ := h (hne heq)
    exact fun _ => ⟨c, List.mem_append_left _ hc, hholds⟩
  · rw [List.append_nil]
    exact h

theorem Serves.take (h : l.Serves t) : (l.take number).Serves t := by
  unfold Serves
  rw [callersOf_take]
  intro hne
  obtain ⟨c, hc, hholds⟩ := h fun hnil => hne (by rw [hnil, List.map_nil])
  exact ⟨_, List.mem_map_of_mem hc, Caller.afterTake_holds_iff.mpr (.inr hholds)⟩

/-! ## What is kept -/

theorem sound_empty : Sound {} where
  nodup := List.nodup_nil
  lock _ hc := by cases hc
  apart _ _ _ h := by cases h
  made _ _ h := by cases h
  used _ h := by obtain ⟨_, h⟩ := h; cases h
  users _ := rfl
  exclusive _ hc := by cases hc

namespace Sound

/-- A caller is known by its number. -/
theorem eq_of_number_eq (h : l.Sound) (hc : c ∈ l.callers) (hd : d ∈ l.callers)
    (hnumber : c.number = d.number) : c = d := List.inj_on_of_nodup_map h.nodup hc hd hnumber

/-- **Callers who share a lock are on one triple.** -/
theorem triple_eq (h : l.Sound) (hc : c ∈ l.callers) (hd : d ∈ l.callers)
    (hlock : c.lock = d.lock) : c.triple = d.triple :=
  h.apart _ _ _ (h.lock c hc) (hlock ▸ h.lock d hd)

theorem lock_eq (h : l.Sound) (hc : c ∈ l.callers) (hd : d ∈ l.callers)
    (htriple : c.triple = d.triple) : c.lock = d.lock :=
  Option.some.inj ((h.lock c hc).symm.trans (htriple ▸ h.lock d hd))

/-- **A triple has a lock exactly if it has callers.** -/
theorem exists_current_iff (h : l.Sound) :
    (∃ k, Assoc.lookup t l.current = some k) ↔ l.callersOf t ≠ [] := by
  refine ⟨h.used t, fun hne => ?_⟩
  obtain ⟨c, hc, rfl⟩ := callersOf_ne_nil_iff.mp hne
  exact ⟨c.lock, h.lock c hc⟩

/-- **And then its callers are counted.** -/
theorem exists_users_iff (h : l.Sound) :
    (∃ n, Assoc.lookup t l.users = some n) ↔ l.callersOf t ≠ [] := by
  rw [h.users]
  split <;> simp_all

/-- The lock that a caller is given belongs to no other triple. -/
theorem getD_made_ne (h : l.Sound) {s : Triple} (hne : t ≠ s) :
    Assoc.lookup s l.current ≠ some ((Assoc.lookup t l.current).getD l.made) := by
  intro hs
  cases hlookup : Assoc.lookup t l.current with
  | none =>
    rw [hlookup, Option.getD_none] at hs
    exact Nat.lt_irrefl _ (h.made s l.made hs)
  | some k =>
    rw [hlookup, Option.getD_some] at hs
    exact hne (h.apart t s k hlookup hs)

theorem enter (h : l.Sound) (hfresh : ∀ c ∈ l.callers, c.number ≠ number) (t : Triple) :
    (l.enter t number).Sound where
  nodup := by
    rw [show (l.enter t number).callers.map Caller.number =
      l.callers.map Caller.number ++ [number] from List.map_append, List.nodup_append]
    refine ⟨h.nodup, List.nodup_singleton _, ?_⟩
    intro x hx y hy
    obtain ⟨c, hc, rfl⟩ := List.mem_map.mp hx
    rw [List.mem_singleton.mp hy]
    exact hfresh c hc
  lock c hc := by
    rw [lookup_current_enter]
    rcases List.mem_append.mp hc with hc | hc
    · split
      · rename_i heq
        rw [heq, h.lock c hc, Option.getD_some]
      · exact h.lock c hc
    · obtain rfl := List.mem_singleton.mp hc
      exact if_pos rfl
  apart s s' k hs hs' := by
    rw [lookup_current_enter] at hs hs'
    split at hs <;> split at hs'
    · rename_i heq heq'
      exact heq.symm.trans heq'
    · rename_i _ hne
      exact absurd (hs'.trans hs.symm) (h.getD_made_ne hne)
    · rename_i hne _
      exact absurd (hs.trans hs'.symm) (h.getD_made_ne hne)
    · exact h.apart s s' k hs hs'
  made s k hs := by
    have hmade : (l.enter t number).made = l.made + 1 := rfl
    rw [lookup_current_enter] at hs
    split at hs
    · cases hlookup : Assoc.lookup t l.current with
      | none =>
        rw [hlookup, Option.getD_none, Option.some.injEq] at hs
        omega
      | some k' =>
        rw [hlookup, Option.getD_some, Option.some.injEq] at hs
        have := h.made t k' hlookup
        omega
    · have := h.made s k hs
      omega
  used s hs := by
    rw [lookup_current_enter] at hs
    rw [callersOf_enter]
    split at hs
    · rename_i heq
      simp [heq]
    · exact List.append_ne_nil_of_left_ne_nil (h.used s hs) _
  users s := by
    have hlookup : Assoc.lookup s (l.enter t number).users =
        if t = s then some ((Assoc.lookup t l.users).getD 0 + 1) else Assoc.lookup s l.users :=
      Assoc.lookup_put t s _ l.users
    rw [hlookup, callersOf_enter]
    split
    · rename_i heq
      subst heq
      rw [h.users]
      split <;> simp_all
    · rw [List.append_nil, h.users]
  exclusive c hc d hd hcholds hdholds hlock := by
    rcases List.mem_append.mp hc with hc | hc
    · rcases List.mem_append.mp hd with hd | hd
      · exact h.exclusive c hc d hd hcholds hdholds hlock
      · rw [List.mem_singleton.mp hd] at hdholds
        cases hdholds
    · rw [List.mem_singleton.mp hc] at hcholds
      cases hcholds

theorem take (h : l.Sound) (hc : c ∈ l.callers) (hfree : l.isHeld c.lock = false) :
    (l.take c.number).Sound where
  nodup := by
    have hmap : (l.take c.number).callers.map Caller.number = l.callers.map Caller.number := by
      unfold Locks.take
      simp only [List.map_map, Function.comp_def, Caller.afterTake_number]
    rw [hmap]
    exact h.nodup
  lock d hd := by
    obtain ⟨e, he, rfl⟩ := mem_callers_take_iff.mp hd
    rw [Caller.afterTake_triple, Caller.afterTake_lock]
    exact h.lock e he
  apart := h.apart
  made := h.made
  used s hs := by
    rw [callersOf_take, Ne, List.map_eq_nil_iff]
    exact h.used s hs
  users s := by
    simp only [callersOf_take, List.length_map, List.map_eq_nil_iff]
    exact h.users s
  exclusive a' ha' b' hb' haholds' hbholds' hlock := by
    have hnone : ∀ d ∈ l.callers, d.lock = c.lock → d.holds = true → False := by
      intro d hd hdlock hdholds
      have hheld := isHeld_iff.mpr ⟨d, hd, hdlock, hdholds⟩
      rw [hfree] at hheld
      cases hheld
    obtain ⟨a, ha, rfl⟩ := mem_callers_take_iff.mp ha'
    obtain ⟨b, hb, rfl⟩ := mem_callers_take_iff.mp hb'
    rw [Caller.afterTake_lock, Caller.afterTake_lock] at hlock
    -- nobody but the caller who takes it holds a lock that was free
    rcases Caller.afterTake_holds_iff.mp haholds' with hac | haholds
    · obtain rfl := h.eq_of_number_eq ha hc hac
      rcases Caller.afterTake_holds_iff.mp hbholds' with hba | hbholds
      · rw [h.eq_of_number_eq hb ha hba]
      · exact (hnone b hb hlock.symm hbholds).elim
    · rcases Caller.afterTake_holds_iff.mp hbholds' with hbc | hbholds
      · obtain rfl := h.eq_of_number_eq hb hc hbc
        exact (hnone a ha hlock haholds).elim
      · rw [h.exclusive a ha b hb haholds hbholds hlock]

/-! ## Leaving -/

theorem find_number (h : l.Sound) (hc : c ∈ l.callers) :
    l.callers.find? (fun d => d.number = c.number) = some c := by
  cases hfind : l.callers.find? (fun d => d.number = c.number) with
  | none => exact absurd (decide_eq_true rfl) (List.find?_eq_none.mp hfind c hc)
  | some d =>
    have hnumber : d.number = c.number := by simpa using List.find?_some hfind
    rw [h.eq_of_number_eq (List.mem_of_find?_eq_some hfind) hc hnumber]

theorem users_getD (h : l.Sound) (t : Triple) :
    (Assoc.lookup t l.users).getD 0 = (l.callersOf t).length := by
  rw [h.users]
  split <;> simp_all

theorem callers_leave (h : l.Sound) (hc : c ∈ l.callers) :
    (l.leave c.number).callers = l.callers.erase c := by
  unfold Locks.leave
  rw [h.find_number hc]
  dsimp only
  split <;> rfl

theorem mem_callers_leave_iff (h : l.Sound) (hc : c ∈ l.callers) :
    d ∈ (l.leave c.number).callers ↔ d ∈ l.callers ∧ d ≠ c := by
  rw [h.callers_leave hc, (List.Nodup.of_map _ h.nodup).mem_erase_iff, and_comm]

theorem callersOf_leave (h : l.Sound) (hc : c ∈ l.callers) (t : Triple) :
    (l.leave c.number).callersOf t = (l.callersOf t).erase c := by
  have hnodup : l.callers.Nodup := List.Nodup.of_map _ h.nodup
  unfold callersOf
  rw [h.callers_leave hc, hnodup.erase_eq_filter, (hnodup.filter _).erase_eq_filter,
    List.filter_comm]

/-- The callers of other triples stay. -/
theorem callersOf_leave_of_ne (h : l.Sound) (hc : c ∈ l.callers) (hne : c.triple ≠ t) :
    (l.leave c.number).callersOf t = l.callersOf t := by
  rw [h.callersOf_leave hc, List.erase_of_not_mem fun hmem => hne (mem_callersOf_iff.mp hmem).2]

theorem length_callersOf_leave (h : l.Sound) (hc : c ∈ l.callers) :
    ((l.leave c.number).callersOf c.triple).length = (l.callersOf c.triple).length - 1 := by
  rw [h.callersOf_leave hc, List.length_erase_of_mem (mem_callersOf_iff.mpr ⟨hc, rfl⟩)]

/-- What a caller that leaves does to the maps. -/
theorem maps_leave (h : l.Sound) (hc : c ∈ l.callers) :
    let left := ((l.leave c.number).callersOf c.triple).length
    (l.leave c.number).made = l.made ∧
      (l.leave c.number).current =
        (if left = 0 then Assoc.erase c.triple l.current else l.current) ∧
      (l.leave c.number).users =
        if left = 0 then Assoc.erase c.triple l.users else Assoc.put c.triple left l.users := by
  intro left
  have hleft : left = (Assoc.lookup c.triple l.users).getD 0 - 1 :=
    (h.length_callersOf_leave hc).trans (by rw [h.users_getD])
  rw [hleft]
  unfold Locks.leave
  rw [h.find_number hc]
  dsimp only
  split <;> exact ⟨rfl, rfl, rfl⟩

/-- The last caller of a triple drops its lock. -/
theorem lookup_current_leave (h : l.Sound) (hc : c ∈ l.callers) (t : Triple) :
    Assoc.lookup t (l.leave c.number).current =
      if (l.leave c.number).callersOf t = [] then none else Assoc.lookup t l.current := by
  rw [(h.maps_leave hc).2.1]
  by_cases hne : c.triple = t
  · subst hne
    simp only [List.length_eq_zero_iff]
    split
    · rw [Assoc.lookup_erase, if_pos rfl]
    · rfl
  · rw [h.callersOf_leave_of_ne hc hne]
    have hkept : Assoc.lookup t (if ((l.leave c.number).callersOf c.triple).length = 0
        then Assoc.erase c.triple l.current else l.current) = Assoc.lookup t l.current := by
      split
      · rw [Assoc.lookup_erase, if_neg hne]
      · rfl
    rw [hkept]
    split
    · rename_i hnil
      exact Option.eq_none_iff_forall_ne_some.mpr fun k hk => h.used t ⟨k, hk⟩ hnil
    · rfl

theorem leave (h : l.Sound) (hc : c ∈ l.callers) : (l.leave c.number).Sound where
  nodup := by
    rw [h.callers_leave hc]
    exact h.nodup.sublist (List.erase_sublist.map _)
  lock d hd := by
    rw [h.lookup_current_leave hc, if_neg, h.lock d ((h.mem_callers_leave_iff hc).mp hd).1]
    exact List.ne_nil_of_mem (mem_callersOf_iff.mpr ⟨hd, rfl⟩)
  apart s t k hs ht := by
    rw [h.lookup_current_leave hc] at hs ht
    split at hs
    · cases hs
    · split at ht
      · cases ht
      · exact h.apart s t k hs ht
  made s k hs := by
    rw [h.lookup_current_leave hc] at hs
    split at hs
    · cases hs
    · rw [(h.maps_leave hc).1]
      exact h.made s k hs
  used s := by
    rintro ⟨k, hk⟩ hnil
    rw [h.lookup_current_leave hc, if_pos hnil] at hk
    cases hk
  users s := by
    rw [(h.maps_leave hc).2.2]
    by_cases hne : c.triple = s
    · subst hne
      simp only [← List.length_eq_zero_iff]
      split
      · rw [Assoc.lookup_erase, if_pos rfl]
      · rw [Assoc.lookup_put, if_pos rfl]
    · rw [h.callersOf_leave_of_ne hc hne, ← h.users]
      split
      · rw [Assoc.lookup_erase, if_neg hne]
      · rw [Assoc.lookup_put, if_neg hne]
  exclusive a ha b hb :=
    h.exclusive a ((h.mem_callers_leave_iff hc).mp ha).1 b ((h.mem_callers_leave_iff hc).mp hb).1

/-! ## Locks that are free -/

/-- Nobody awaits the lock of a triple while it is free, exactly if it is given to nobody next. -/
theorem next_eq_none_iff (h : l.Sound) : l.next? t = none ↔ l.Serves t := by
  unfold next?
  cases hlookup : Assoc.lookup t l.current with
  | none =>
    refine iff_of_true rfl fun hne => ?_
    obtain ⟨lock, hlock⟩ := h.exists_current_iff.mpr hne
    rw [hlookup] at hlock
    cases hlock
  | some lock =>
    have hlock : ∀ c, c ∈ l.callersOf t ↔ c ∈ l.callers ∧ c.lock = lock := by
      intro c
      rw [mem_callersOf_iff]
      refine and_congr_right fun hc => ?_
      have hcurrent := h.lock c hc
      constructor
      · rintro rfl
        exact Option.some.inj (hcurrent.symm.trans hlookup)
      · rintro rfl
        exact h.apart _ _ _ hcurrent hlookup
    obtain ⟨c, hc⟩ := List.exists_mem_of_ne_nil _ (h.used t ⟨lock, hlookup⟩)
    have hfind : l.callers.find? (fun c => c.lock = lock) ≠ none := by
      rw [Ne, List.find?_eq_none]
      exact fun hnone => hnone c ((hlock c).mp hc).1 (decide_eq_true ((hlock c).mp hc).2)
    have hserves : l.Serves t ↔ l.isHeld lock = true := by
      rw [isHeld_iff]
      refine ⟨fun hserves => ?_, fun ⟨d, hd, hdlock, hholds⟩ _ => ?_⟩
      · obtain ⟨d, hd, hholds⟩ := hserves (List.ne_nil_of_mem hc)
        exact ⟨d, ((hlock d).mp hd).1, ((hlock d).mp hd).2, hholds⟩
      · exact ⟨d, (hlock d).mpr ⟨hd, hdlock⟩, hholds⟩
    rw [hserves]
    dsimp only
    split
    · rename_i hheld
      exact iff_of_true rfl hheld
    · rename_i hfree
      refine iff_of_false (fun hnone => hfind (Option.map_eq_none_iff.mp hnone)) hfree

/-- A caller of another triple that leaves changes nothing. -/
theorem serves_leave (h : l.Sound) (hc : c ∈ l.callers) (hne : c.triple ≠ t)
    (hserves : l.Serves t) : (l.leave c.number).Serves t := by
  unfold Serves
  rw [h.callersOf_leave_of_ne hc hne]
  exact hserves

/-! ## No locks -/

/-- **No lock is left behind exactly if there are no callers.** -/
theorem isIdle_iff (h : l.Sound) : l.isIdle = true ↔ l.callers = [] := by
  have hempty : ∀ entries : List (Triple × Nat),
      entries = [] ↔ ∀ t, Assoc.lookup t entries = none := by
    intro entries
    refine ⟨fun h t => by rw [h]; rfl, fun hnone => ?_⟩
    cases entries with
    | nil => rfl
    | cons entry rest =>
      have := hnone entry.1
      rw [Assoc.lookup, if_pos rfl] at this
      cases this
  have hcallers : l.callers = [] ↔ ∀ t, l.callersOf t = [] := by
    refine ⟨fun h t => by rw [callersOf, h]; rfl, fun hnil => ?_⟩
    refine List.eq_nil_iff_forall_not_mem.mpr fun c hc => ?_
    exact List.ne_nil_of_mem (mem_callersOf_iff.mpr ⟨hc, rfl⟩) (hnil c.triple)
  unfold isIdle
  rw [Bool.and_eq_true, List.isEmpty_iff, List.isEmpty_iff, hempty, hempty, hcallers,
    ← forall_and]
  refine forall_congr' fun t => ?_
  rw [Option.eq_none_iff_forall_ne_some, Option.eq_none_iff_forall_ne_some, ← not_exists,
    ← not_exists, h.exists_current_iff, h.exists_users_iff, and_self, not_not]

end Sound

end Locks

end Rollout
