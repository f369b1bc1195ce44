import Rollout.Proofs.Graph.Build

/-!
# Arranging by counting down

`arrange` looks for the next item among all that remain.  Here every item has a counter of what it
still waits for.  Items that wait for nothing more stand in a pool, and an item that is taken out of the
pool counts down those that wait for it.  The least item is taken out to order the items, and the latest
one to find out whether they can be ordered.

* `Counters.Faithful` : what the counters and the pool say about what has been done;
* `Faithful.complete` : counting down keeps it;
* `Countdown.turn`, `Countdown.Sound` : one turn of the loop, and what it keeps;
* `Countdown.turns_least` : taking the least item out places the items as `arrange` does;
* `Countdown.turns_stuck` : in whatever order items are taken out, those whose counters are left are
  the ones that are stuck;
* `Graph.order_counted` : the apply order of a graph.
-/

set_option autoImplicit false

namespace Rollout

/-- A way to take an item out of a pool. -/
structure Taking where
  take? : List Nat → Option (Nat × List Nat)
  perm : ∀ {pool i rest}, take? pool = some (i, rest) → pool.Perm (i :: rest)
  empty : ∀ {pool}, take? pool = none → pool = []

namespace Taking

/-- The least item is taken out, as of a heap. -/
def least : Taking where
  take? pool := pool.min?.map fun i => (i, pool.erase i)
  perm := by
    intro pool i rest h
    obtain ⟨_, hmin, heq⟩ := Option.map_eq_some_iff.mp h
    cases heq
    exact List.perm_cons_erase (List.min?_mem hmin)
  empty := by
    intro pool h
    exact List.min?_eq_none_iff.mp (Option.map_eq_none_iff.mp h)

/-- The item that was put in last is taken out, as of a stack. -/
def latest : Taking where
  take? pool := pool.getLast?.map fun i => (i, pool.dropLast)
  perm := by
    intro pool i rest h
    obtain ⟨_, hlast, heq⟩ := Option.map_eq_some_iff.mp h
    cases heq
    obtain ⟨front, rfl⟩ := List.getLast?_eq_some_iff.mp hlast
    rw [List.dropLast_concat]
    exact List.perm_append_singleton _ _
  empty := by
    intro pool h
    exact List.getLast?_eq_none_iff.mp (Option.map_eq_none_iff.mp h)

end Taking

/-- For every item the number of those it still waits for, and the items that wait for none. -/
structure Counters where
  missing : List Nat
  ready : List Nat
deriving DecidableEq, Repr

namespace Counters

/-- The counters before anything is done. -/
def start (before : Nat → List Nat) (n : Nat) : Counters :=
  let missing := (List.range n).map fun i => (before i).length
  ⟨missing, (List.range n).filter fun i => missing[i]? = some 0⟩

/-- An item waits for one less.  It joins the pool if that was the last one, and it is admitted. -/
def countDown (admits : Nat → Bool) (c : Counters) (i : Nat) : Counters :=
  let missing := c.missing.modify i (· - 1)
  ⟨missing, if missing[i]? = some 0 ∧ admits i then c.ready ++ [i] else c.ready⟩

end Counters

/-- Items below `n` wait for items below `n`, and `after` lists those that wait for an item. -/
structure Network (before after : Nat → List Nat) (n : Nat) : Prop where
  nodup : ∀ i, (before i).Nodup
  below : ∀ i, ∀ j ∈ before i, i < n ∧ j < n
  nodup_after : ∀ i, (after i).Nodup
  mem_after : ∀ i w, w ∈ after i ↔ i ∈ before w

theorem Network.of_inverse {adjacency : List (List Nat)}
    (hnodup : ∀ i, (Graph.entry adjacency i).Nodup)
    (hbelow : ∀ i, ∀ j ∈ Graph.entry adjacency i, i < adjacency.length ∧ j < adjacency.length) :
    Network (Graph.entry adjacency) (Graph.inverse adjacency) adjacency.length where
  nodup := hnodup
  below := hbelow
  nodup_after _ := List.nodup_range.filter _
  mem_after i w := by
    unfold Graph.inverse
    rw [List.mem_filter, List.mem_range, List.contains_iff_mem, and_iff_right_iff_imp]
    exact fun hi => (hbelow w i hi).1

/-- What is looked for from the first item on is the least of those that pass. -/
theorem find?_eq_min? {items pool : List Nat} {p : Nat → Bool} (hitems : items.Pairwise (· < ·))
    (hpool : ∀ i, i ∈ pool ↔ i ∈ items ∧ p i = true) : items.find? p = pool.min? := by
  cases hfind : items.find? p with
  | none =>
    have hempty : pool = [] := by
      refine List.eq_nil_iff_forall_not_mem.mpr fun i hi => ?_
      obtain ⟨hmem, hp⟩ := (hpool i).mp hi
      exact List.find?_eq_none.mp hfind i hmem hp
    rw [hempty]
    rfl
  | some i =>
    obtain ⟨hp, front, back, rfl, hfront⟩ := List.find?_eq_some_iff_append.mp hfind
    refine (List.min?_eq_some_iff.mpr ⟨(hpool i).mpr ⟨by simp, hp⟩, fun k hk => ?_⟩).symm
    obtain ⟨hmem, hpk⟩ := (hpool k).mp hk
    rcases List.mem_append.mp hmem with hk | hk
    · have hnot := hfront k hk
      rw [hpk] at hnot
      cases hnot
    · rcases List.mem_cons.mp hk with rfl | hk
      · exact Nat.le_refl _
      · exact Nat.le_of_lt ((List.pairwise_cons.mp (List.pairwise_append.mp hitems).2.1).1 k hk)

namespace Counters

variable {before after : Nat → List Nat} {n i : Nat} {done free : Nat → Bool} {c : Counters}

/-! ## Counting down -/

theorem missing_foldl (admits : Nat → Bool) : ∀ {items : List Nat} (c : Counters), items.Nodup →
    ∀ k, (items.foldl (countDown admits) c).missing[k]? =
      (c.missing[k]?).map fun m => if k ∈ items then m - 1 else m
  | [], c, _, k => by simp
  | i :: items, c, hnodup, k => by
    obtain ⟨hi, hnodup⟩ := List.nodup_cons.mp hnodup
    rw [List.foldl_cons, missing_foldl admits _ hnodup k]
    simp only [countDown, List.getElem?_modify]
    by_cases hk : i = k
    · subst hk
      simp [Function.comp_def, hi]
    · simp [hk, Ne.symm hk]

/-- Items join the pool in the order in which they are counted down. -/
theorem ready_foldl (admits : Nat → Bool) : ∀ {items : List Nat} (c : Counters), items.Nodup →
    (items.foldl (countDown admits) c).ready =
      c.ready ++ items.filter fun k => (c.missing[k]?).map (· - 1) = some 0 ∧ admits k
  | [], c, _ => by simp
  | i :: items, c, hnodup => by
    obtain ⟨hi, hnodup⟩ := List.nodup_cons.mp hnodup
    rw [List.foldl_cons, ready_foldl admits _ hnodup, List.filter_cons]
    -- the counters of the items to come have not been touched
    have hrest : (items.filter fun k =>
          ((countDown admits c i).missing[k]?).map (· - 1) = some 0 ∧ admits k) =
        items.filter fun k => (c.missing[k]?).map (· - 1) = some 0 ∧ admits k := by
      refine List.filter_congr fun k hk => ?_
      have hne : i ≠ k := fun h => hi (h ▸ hk)
      simp [countDown, hne]
    have hown : (c.missing.modify i (· - 1))[i]? = (c.missing[i]?).map (· - 1) := by
      simp
    rw [hrest]
    simp only [countDown, hown, decide_eq_true_eq]
    split
    · rw [List.append_assoc, List.singleton_append]
    · rfl

/-! ## What the counters say -/

/-- The counters when the items of `done` have been done, and those of `free` may still be taken. -/
structure Faithful (before : Nat → List Nat) (n : Nat) (done free : Nat → Bool) (c : Counters) :
    Prop where
  missing : c.missing = (List.range n).map fun i => (before i).countP fun j => !done j
  nodup : c.ready.Nodup
  mem_ready : ∀ i, i ∈ c.ready ↔ i < n ∧ free i = true ∧ ∀ j ∈ before i, done j = true

namespace Faithful

theorem missing_getElem? (h : c.Faithful before n done free) (hi : i < n) :
    c.missing[i]? = some ((before i).countP fun j => !done j) := by
  rw [h.missing, List.getElem?_map, List.getElem?_range hi, Option.map_some]

/-- Of an item that waits for something it does not matter whether it may be taken. -/
theorem congr (net : Network before after n) {done' free' : Nat → Bool}
    (h : c.Faithful before n done free) (hdone : ∀ i < n, done' i = done i)
    (hfree : ∀ i < n, (∀ j ∈ before i, done j = true) → free' i = free i) :
    c.Faithful before n done' free' := by
  have hall : ∀ i, (∀ j ∈ before i, done' j = true) ↔ ∀ j ∈ before i, done j = true := fun i =>
    forall₂_congr fun j hj => by rw [hdone j (net.below i j hj).2]
  refine ⟨h.missing.trans (List.map_congr_left fun i _ => ?_), h.nodup, fun i => ?_⟩
  · exact List.countP_congr fun j hj => by rw [hdone j (net.below i j hj).2]
  · rw [h.mem_ready, hall]
    refine and_congr_right fun hi => and_congr_left fun hwaits => ?_
    rw [hfree i hi hwaits]

/-- At first nothing has been done, and everything may be taken. -/
theorem start (before : Nat → List Nat) (n : Nat) :
    (Counters.start before n).Faithful before n (fun _ => false) (fun _ => true) := by
  refine ⟨by simp [Counters.start], List.nodup_range.filter _, fun i => ?_⟩
  simp only [Counters.start, List.mem_filter, List.mem_range, decide_eq_true_eq]
  refine and_congr_right fun hi => ?_
  simp [List.getElem?_range hi, List.eq_nil_iff_forall_not_mem]

/-- An item is taken out of the pool. -/
theorem take (h : c.Faithful before n done free) {rest : List Nat} (hperm : c.ready.Perm (i :: rest)) :
    Faithful before n done (fun k => free k && k != i) ⟨c.missing, rest⟩ := by
  obtain ⟨hi, hnodup⟩ := List.nodup_cons.mp (hperm.nodup_iff.mp h.nodup)
  refine ⟨h.missing, hnodup, fun k => ?_⟩
  have hk := (h.mem_ready k).symm.trans hperm.mem_iff
  rw [List.mem_cons] at hk
  simp only [Bool.and_eq_true, bne_iff_ne]
  constructor
  · intro hrest
    obtain ⟨hlt, hfree, hdone⟩ := hk.mpr (.inr hrest)
    exact ⟨hlt, ⟨hfree, fun h => hi (h ▸ hrest)⟩, hdone⟩
  · rintro ⟨hlt, ⟨hfree, hne⟩, hdone⟩
    exact (hk.mp ⟨hlt, hfree, hdone⟩).resolve_left hne

/-- The number of things to wait for when one more has been done. -/
theorem countP_done (hi : done i = false) : ∀ {items : List Nat}, items.Nodup →
    (items.countP fun j => !done j) =
      (items.countP fun j => !(done j || j == i)) + if i ∈ items then 1 else 0
  | [], _ => rfl
  | k :: items, hnodup => by
    obtain ⟨hk, hnodup⟩ := List.nodup_cons.mp hnodup
    have hrest := countP_done hi hnodup
    rw [List.countP_cons, List.countP_cons, hrest]
    by_cases hki : k = i
    · subst hki
      simp [hi, hk]
    · have hik : i ≠ k := Ne.symm hki
      simp only [List.mem_cons, hik, false_or, beq_eq_false_iff_ne.mpr hki, Bool.or_false]
      omega

/-- **Counting down what waits for an item** that has been done. -/
theorem complete (net : Network before after n) (h : c.Faithful before n done free)
    (hi : done i = false) {admits : Nat → Bool} (hadmits : ∀ w ∈ after i, admits w = free w) :
    ((after i).foldl (countDown admits) c).Faithful before n (fun j => done j || j == i) free := by
  have hcount : ∀ w, ((before w).countP fun j => !(done j || j == i)) =
      if w ∈ after i then ((before w).countP fun j => !done j) - 1
      else (before w).countP fun j => !done j := by
    intro w
    simp only [countP_done hi (net.nodup w), net.mem_after]
    split <;> simp
  have hzero : ∀ w, ((before w).countP fun j => !(done j || j == i)) = 0 ↔
      ∀ j ∈ before w, (done j || j == i) = true := fun w => by
    simp only [List.countP_eq_zero, Bool.not_eq_true', Bool.not_eq_false]
  refine ⟨List.ext_getElem? fun k => ?_, ?_, fun w => ?_⟩
  · rw [missing_foldl admits c (net.nodup_after i)]
    by_cases hk : k < n
    · rw [h.missing_getElem? hk, List.getElem?_map, List.getElem?_range hk, Option.map_some,
        Option.map_some, hcount k]
    · rw [List.getElem?_eq_none (by simpa [h.missing] using hk),
        List.getElem?_eq_none (by simpa using hk), Option.map_none]
  · rw [ready_foldl admits c (net.nodup_after i)]
    refine List.nodup_append.mpr ⟨h.nodup, (net.nodup_after i).filter _, fun a ha b hb hab => ?_⟩
    subst hab
    -- what stands in the pool does not wait for the item
    have hwaits := (net.mem_after i a).mp (List.mem_of_mem_filter hb)
    rw [((h.mem_ready a).mp ha).2.2 i hwaits] at hi
    cases hi
  · rw [ready_foldl admits c (net.nodup_after i), List.mem_append, List.mem_filter, h.mem_ready,
      decide_eq_true_eq, ← hzero w, hcount w]
    by_cases hw : w ∈ after i
    · have hwaits := (net.mem_after i w).mp hw
      have hlt := (net.below w i hwaits).1
      have hnot : ¬ ∀ j ∈ before w, done j = true := fun hall => by
        rw [hall i hwaits] at hi
        cases hi
      rw [h.missing_getElem? hlt, Option.map_some, Option.some_inj, hadmits w hw]
      simp only [hw, hnot, hlt, and_false, false_or, true_and, if_true]
      exact and_comm
    · simp only [hw, false_and, or_false, if_false]
      simp [List.countP_eq_zero]

end Faithful

end Counters

/-! ## One turn -/

/-- An arrangement by counters as far as it has come. -/
structure Countdown where
  counters : Counters
  placed : List Nat
deriving DecidableEq, Repr

namespace Countdown

/-- An arrangement before its first item. -/
def start (before : Nat → List Nat) (n : Nat) : Countdown := ⟨.start before n, []⟩

/-- Places an item of the pool, if there is one. -/
def turn (taking : Taking) (after : Nat → List Nat) (s : Countdown) : Option Countdown :=
  (taking.take? s.counters.ready).map fun taken =>
    ⟨(after taken.1).foldl (Counters.countDown fun _ => true) ⟨s.counters.missing, taken.2⟩,
      s.placed ++ [taken.1]⟩

/-- Where an arrangement ends, if the pool is empty within so many turns. -/
def turns (taking : Taking) (after : Nat → List Nat) : Nat → Countdown → Option Countdown
  | 0, _ => none
  | count + 1, s =>
    match turn taking after s with
    | none => some s
    | some s => turns taking after count s

/-- The items whose counters have not come to zero. -/
def left (s : Countdown) : List Nat :=
  (List.range s.counters.missing.length).filter fun i => 0 < s.counters.missing.getD i 0

/-- Each item of a list stands behind all that it waits for. -/
inductive Behind (before : Nat → List Nat) : List Nat → Prop
  | nil : Behind before []
  | snoc {placed : List Nat} {i : Nat} (rest : Behind before placed)
      (waits : ∀ j ∈ before i, j ∈ placed) : Behind before (placed ++ [i])

/-- What holds of every arrangement that has come so far. -/
structure Sound (before : Nat → List Nat) (n : Nat) (s : Countdown) : Prop where
  nodup : s.placed.Nodup
  below : ∀ i ∈ s.placed, i < n
  behind : Behind before s.placed
  faithful : s.counters.Faithful before n s.placed.contains fun i => !s.placed.contains i

variable {before after : Nat → List Nat} {n : Nat} {s s' : Countdown} {taking : Taking}

/-- What an item of the list waits for is in the list. -/
theorem Behind.mem {placed : List Nat} (h : Behind before placed) {i j : Nat} (hi : i ∈ placed)
    (hj : j ∈ before i) : j ∈ placed := by
  induction h with
  | nil => cases hi
  | snoc _ waits ih =>
    rw [List.mem_append, List.mem_singleton] at hi
    rcases hi with hi | rfl
    · exact List.mem_append_left _ (ih hi)
    · exact List.mem_append_left _ (waits j hj)

/-- Other items include those of the list if they include each of which they include all that it
waits for. -/
theorem Behind.subset {placed others : List Nat} (h : Behind before placed)
    (hbelow : ∀ i ∈ placed, i < n)
    (hclosed : ∀ i < n, (∀ j ∈ before i, j ∈ others) → i ∈ others) : ∀ i ∈ placed, i ∈ others := by
  induction h with
  | nil => exact fun i hi => absurd hi List.not_mem_nil
  | snoc _ waits ih =>
    have hrest := ih fun i hi => hbelow i (List.mem_append_left _ hi)
    intro i hi
    rcases List.mem_append.mp hi with hi | hi
    · exact hrest i hi
    · have hlt := hbelow i (by simp [hi])
      rw [List.mem_singleton] at hi
      subst hi
      exact hclosed i hlt fun j hj => hrest j (waits j hj)

theorem Sound.start (before : Nat → List Nat) (n : Nat) : Sound before n (start before n) :=
  ⟨List.nodup_nil, by simp [Countdown.start], .nil, Counters.Faithful.start before n⟩

/-- An item is ready if it has not been placed, and all that it waits for has been. -/
theorem Sound.mem_ready_iff (h : Sound before n s) {i : Nat} :
    i ∈ s.counters.ready ↔ i < n ∧ i ∉ s.placed ∧ ∀ j ∈ before i, j ∈ s.placed := by
  rw [h.faithful.mem_ready]
  simp

/-- **A turn places one item that is ready.** -/
theorem Sound.turn (net : Network before after n) (h : Sound before n s) {taken : Nat × List Nat}
    (htake : taking.take? s.counters.ready = some taken) :
    ∃ s', turn taking after s = some s' ∧ s'.placed = s.placed ++ [taken.1] ∧ Sound before n s' := by
  obtain ⟨i, rest⟩ := taken
  refine ⟨_, by rw [Countdown.turn, htake, Option.map_some], rfl, ?_⟩
  have hperm := taking.perm htake
  obtain ⟨hlt, hnot, hwaits⟩ := h.mem_ready_iff.mp (hperm.mem_iff.mpr List.mem_cons_self)
  refine ⟨?_, ?_, .snoc h.behind hwaits, ?_⟩
  · refine List.nodup_append.mpr ⟨h.nodup, List.nodup_singleton i, fun a ha b hb hab => hnot ?_⟩
    rwa [hab, List.mem_singleton.mp hb] at ha
  · intro k hk
    rcases List.mem_append.mp hk with hk | hk
    · exact h.below k hk
    · exact List.mem_singleton.mp hk ▸ hlt
  · -- what waits for the item has not been placed, and is not the item
    have hadmits : ∀ w ∈ after i, true = (!s.placed.contains w && w != i) := by
      intro w hw
      have hwi := (net.mem_after i w).mp hw
      have hne : w ≠ i := by
        rintro rfl
        exact hnot (hwaits w hwi)
      have hout : w ∉ s.placed := fun hw => hnot (h.behind.mem hw hwi)
      simp [hout, hne]
    have hdone := (h.faithful.take hperm).complete net (by simpa using hnot) hadmits
    refine hdone.congr net (fun k _ => ?_) fun k _ _ => ?_ <;> rw [Bool.eq_iff_iff] <;> simp

theorem turn_eq_none (h : s.counters.ready = []) : turn taking after s = none := by
  cases htake : taking.take? s.counters.ready with
  | none => rw [turn, htake, Option.map_none]
  | some taken =>
    have hperm := taking.perm htake
    rw [h, List.nil_perm] at hperm
    cases hperm

/-! ## The whole loop -/

theorem Sound.length_le (h : Sound before n s) : s.placed.length ≤ n := by
  have hsub : s.placed ⊆ List.range n := fun i hi => List.mem_range.mpr (h.below i hi)
  simpa using (h.nodup.subperm hsub).length_le

/-- **The pool comes to be empty**, after a turn for each item at most. -/
theorem exists_turns (net : Network before after n) (taking : Taking) :
    ∀ (count : Nat) (s : Countdown), Sound before n s → n < count + s.placed.length →
      ∃ last, turns taking after count s = some last ∧ Sound before n last ∧
        last.counters.ready = []
  | 0, s, h, hcount => by
    have := h.length_le
    omega
  | count + 1, s, h, hcount => by
    cases htake : taking.take? s.counters.ready with
    | none =>
      have hempty := taking.empty htake
      exact ⟨s, by simp only [turns, turn_eq_none hempty], h, hempty⟩
    | some taken =>
      obtain ⟨s', hturn, hplaced, h'⟩ := h.turn net htake
      have hlength : s'.placed.length = s.placed.length + 1 := by
        rw [hplaced, List.length_append, List.length_singleton]
      obtain ⟨last, hlast, hend⟩ := exists_turns net taking count s' h' (by omega)
      exact ⟨last, by simp only [turns, hturn, hlast], hend⟩

/-- The items that have not been placed, in ascending order. -/
def remaining (n : Nat) (placed : List Nat) : List Nat :=
  (List.range n).filter fun i => !placed.contains i

theorem mem_remaining {placed : List Nat} {i : Nat} :
    i ∈ remaining n placed ↔ i < n ∧ i ∉ placed := by
  simp [remaining]

theorem remaining_snoc (placed : List Nat) (i : Nat) :
    remaining n (placed ++ [i]) = (remaining n placed).erase i := by
  have hnodup : (remaining n placed).Nodup := List.nodup_range.filter _
  rw [hnodup.erase_eq_filter]
  unfold remaining
  rw [List.filter_filter]
  refine List.filter_congr fun k _ => ?_
  rw [Bool.eq_iff_iff]
  simp [and_comm]

/-- The first remaining item that waits for no remaining one is the least of the pool. -/
theorem Sound.ready?_eq (net : Network before after n) (h : Sound before n s) :
    Arrangement.ready? before (remaining n s.placed) = s.counters.ready.min? := by
  refine find?_eq_min? (List.pairwise_lt_range.filter _) fun i => ?_
  rw [h.mem_ready_iff, mem_remaining, and_assoc]
  refine and_congr_right fun _ => and_congr_right fun _ => ?_
  rw [List.all_eq_true]
  refine forall₂_congr fun j hj => ?_
  simp [mem_remaining, (net.below i j hj).2]

/-- **Taking the least item out places the items as `arrange` does.** -/
theorem turns_least (net : Network before after n) :
    ∀ (count : Nat) (s : Countdown), Sound before n s → (remaining n s.placed).length ≤ count →
      ∃ last, turns .least after (count + 1) s = some last ∧ Sound before n last ∧
        last.counters.ready = [] ∧ last.placed =
          s.placed ++ (Arrangement.place before count (remaining n s.placed)).placed ∧
        remaining n last.placed = (Arrangement.place before count (remaining n s.placed)).stuck := by
  intro count
  induction count with
  | zero =>
    intro s h hcount
    have hnone := List.length_eq_zero_iff.mp (Nat.le_zero.mp hcount)
    have hempty : s.counters.ready = [] := by
      have hready := h.ready?_eq net
      rw [hnone] at hready
      exact List.min?_eq_none_iff.mp hready.symm
    exact ⟨s, by simp only [turns, turn_eq_none hempty], h, hempty,
      by simp [Arrangement.place], by simp [Arrangement.place]⟩
  | succ count ih =>
    intro s h hcount
    have hready := h.ready?_eq net
    rw [Arrangement.place, hready]
    cases hmin : s.counters.ready.min? with
    | none =>
      have hempty := List.min?_eq_none_iff.mp hmin
      exact ⟨s, by simp only [turns, turn_eq_none hempty], h, hempty, by simp, rfl⟩
    | some i =>
      have htake : Taking.least.take? s.counters.ready = some (i, s.counters.ready.erase i) := by
        simp only [Taking.least, hmin, Option.map_some]
      obtain ⟨s', hturn, hplaced, h'⟩ := h.turn net htake
      have hmem : i ∈ remaining n s.placed :=
        (Arrangement.ready?_some (hready.trans hmin)).1
      have hlength : (remaining n s'.placed).length ≤ count := by
        rw [hplaced, remaining_snoc, List.length_erase_of_mem hmem]
        omega
      obtain ⟨last, hlast, hsound, hempty, hrest, hstuck⟩ := ih s' h' hlength
      rw [hplaced, remaining_snoc] at hrest hstuck
      refine ⟨last, by rw [turns, hturn]; exact hlast, hsound, hempty, ?_, hstuck⟩
      rw [hrest, List.append_assoc, List.singleton_append]

/-- Where nothing is ready, an item all of whose prerequisites have been placed has been placed. -/
theorem Sound.mem_of_forall (h : Sound before n s) (hempty : s.counters.ready = []) {i : Nat}
    (hi : i < n) (hall : ∀ j ∈ before i, j ∈ s.placed) : i ∈ s.placed := by
  by_contra hout
  have := h.mem_ready_iff.mpr ⟨hi, hout, hall⟩
  rw [hempty] at this
  cases this

/-- **Which items can be placed does not depend on the order** in which they are. -/
theorem Sound.remaining_eq (h : Sound before n s) (hempty : s.counters.ready = [])
    (h' : Sound before n s') (hempty' : s'.counters.ready = []) :
    remaining n s.placed = remaining n s'.placed := by
  have hmem : ∀ i, i ∈ s.placed ↔ i ∈ s'.placed := fun i =>
    ⟨h.behind.subset h.below (fun _ => h'.mem_of_forall hempty') i,
      h'.behind.subset h'.below (fun _ => h.mem_of_forall hempty) i⟩
  unfold remaining
  refine List.filter_congr fun i _ => ?_
  rw [Bool.eq_iff_iff]
  simp [hmem i]

/-- Where nothing is ready, the items that have not been placed are those whose counters are left. -/
theorem Sound.left_eq (h : Sound before n s) (hempty : s.counters.ready = []) :
    s.left = remaining n s.placed := by
  have hlength : s.counters.missing.length = n := by simp [h.faithful.missing]
  unfold left remaining
  rw [hlength]
  refine List.filter_congr fun i hi => ?_
  have hlt := List.mem_range.mp hi
  have hcount : s.counters.missing.getD i 0 =
      (before i).countP fun j => !s.placed.contains j := by
    rw [List.getD_eq_getElem?_getD, h.faithful.missing_getElem? hlt, Option.getD_some]
  rw [hcount, Bool.eq_iff_iff, decide_eq_true_eq, List.countP_pos_iff]
  constructor
  · rintro ⟨j, hj, hout⟩
    refine Bool.not_eq_true' _ ▸ Bool.eq_false_iff.mpr fun hplaced => ?_
    have := h.behind.mem (List.contains_iff_mem.mp hplaced) hj
    simp [this] at hout
  · intro hout
    by_contra hall
    have hplaced := h.mem_of_forall hempty hlt fun j hj => by
      by_contra hj'
      exact hall ⟨j, hj, by simp [hj']⟩
    simp [hplaced] at hout

/-- **Whichever item is taken out, the items whose counters are left are stuck**, and no others. -/
theorem turns_stuck (net : Network before after n) (taking : Taking) :
    ∃ last, turns taking after (n + 1) (start before n) = some last ∧
      last.left = (arrange before n).stuck ∧
      last.placed.length + (arrange before n).stuck.length = n := by
  obtain ⟨last, hlast, hsound, hempty⟩ :=
    exists_turns net taking (n + 1) (start before n) (.start before n) (by simp [start])
  have hall : remaining n (start before n).placed = List.range n := by
    simp [remaining, start]
  obtain ⟨least, _, hsound', hempty', _, hstuck⟩ := turns_least net n (start before n)
    (.start before n) (by rw [hall, List.length_range])
  rw [hall] at hstuck
  have hleft : last.left = (arrange before n).stuck :=
    ((hsound.left_eq hempty).trans (hsound.remaining_eq hempty hsound' hempty')).trans hstuck
  refine ⟨last, hlast, hleft, ?_⟩
  have hperm : (last.placed ++ remaining n last.placed).Perm (List.range n) := by
    refine (List.perm_ext_iff_of_nodup ?_ List.nodup_range).mpr fun i => ?_
    · refine List.nodup_append.mpr ⟨hsound.nodup, List.nodup_range.filter _, fun a ha b hb hab => ?_⟩
      exact (mem_remaining.mp hb).2 (hab ▸ ha)
    · rw [List.mem_append, mem_remaining, List.mem_range]
      constructor
      · rintro (hi | hi)
        · exact hsound.below i hi
        · exact hi.1
      · intro hi
        by_cases hmem : i ∈ last.placed
        · exact .inl hmem
        · exact .inr ⟨hi, hmem⟩
  have hlength := hperm.length_eq
  rw [List.length_append, List.length_range, ← hsound.left_eq hempty, hleft] at hlength
  exact hlength

/-- Taking the least item out orders the items as `arrange` does. -/
theorem turns_placed (net : Network before after n) :
    ∃ last, turns .least after (n + 1) (start before n) = some last ∧
      last.placed = (arrange before n).placed := by
  have hall : remaining n (start before n).placed = List.range n := by
    simp [remaining, start]
  obtain ⟨last, hlast, _, _, hplaced, _⟩ := turns_least net n (start before n)
    (.start before n) (by rw [hall, List.length_range])
  refine ⟨last, hlast, hplaced.trans ?_⟩
  rw [hall]
  rfl

end Countdown

/-! ## Graphs -/

namespace Graph

variable {strict : Bool} {resources : List Resource} {g : Graph}

theorem nodup_eraseDups {α : Type} [DecidableEq α] : ∀ l : List α, l.eraseDups.Nodup
  | [] => List.nodup_nil
  | a :: l => by
    rw [List.eraseDups_cons]
    refine List.nodup_cons.mpr ⟨fun ha => ?_, nodup_eraseDups _⟩
    simpa using List.mem_eraseDups.mp ha
termination_by l => l.length
decreasing_by
  have := List.length_filter_le (fun b => !b == a) l
  rw [List.length_cons]
  omega

theorem dependents_of_build (h : build strict resources = .ok g) :
    g.dependents = (List.range g.dependencies.length).map (inverse g.dependencies) := by
  unfold build at h
  simp only at h
  split at h
  · cases h
  · split at h
    · cases h
    · split at h
      · cases h
      · cases h
        simp

/-- The positions of a graph and those that depend on them. -/
theorem network_of_build (h : build strict resources = .ok g) :
    Network (entry g.dependencies) (entry g.dependents) g.size := by
  obtain ⟨_, _, _, hres, hdeps⟩ := build_inv h
  have hacc := Accepted.of_build h
  have hlength : g.dependencies.length = g.size := by rw [hdeps, List.length_map, size, hres]
  have hbelow : ∀ i, ∀ j ∈ entry g.dependencies i, i < g.size ∧ j < g.size := by
    rw [hdeps, size, hres]
    exact edge_below hacc.nodup
  have hnodup : ∀ i, (entry g.dependencies i).Nodup := by
    intro i
    rw [hdeps, entry, List.getD_eq_getElem?_getD, List.getElem?_map]
    cases resources[i]? with
    | none => exact List.nodup_nil
    | some r => exact nodup_eraseDups _
  have hafter : entry g.dependents = inverse g.dependencies := by
    funext i
    rw [entry, dependents_of_build h, List.getD_eq_getElem?_getD, List.getElem?_map]
    by_cases hi : i < g.dependencies.length
    · rw [List.getElem?_range hi]
      rfl
    · -- nothing depends on a position that there is not
      rw [List.getElem?_eq_none (by simpa using hi)]
      refine (List.filter_eq_nil_iff.mpr fun w _ hw => hi ?_).symm
      rw [hlength]
      exact (hbelow w i (List.contains_iff_mem.mp hw)).2
  rw [hafter, ← hlength]
  exact .of_inverse hnodup (hlength.symm ▸ hbelow)

/-- **The apply order is found by counting down**, taking the least position out each time. -/
theorem order_counted (h : build strict resources = .ok g) :
    ∃ last, Countdown.turns .least (entry g.dependents) (g.size + 1)
        (.start (entry g.dependencies) g.size) = some last ∧
      g.order = Resource.ids (g.pick last.placed) := by
  obtain ⟨last, hlast, hplaced⟩ := Countdown.turns_placed (network_of_build h)
  exact ⟨last, hlast, by rw [order, ordered, hplaced]⟩

end Graph

end Rollout
