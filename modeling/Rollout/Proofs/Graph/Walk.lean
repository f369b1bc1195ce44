import Mathlib.Data.List.Chain
import Mathlib.Data.List.Nodup
import Mathlib.Data.List.Perm.Subperm
import Mathlib.Logic.Relation
import Rollout.Graph.Cycle

/-!
# The search for a closed path

`findCycle` walks the nodes depth first.  A node is *finished* once everything it leads to has been
explored without meeting the path it was reached by.

* `Finished` : what holds of the finished nodes: they lead only to finished ones, and to none of
  themselves;
* `ClosedPath` : a path along edges that ends where it starts and meets no node twice in between;
* `explore_spec` : exploring a node answers a closed path, or finishes the node;
* `findCycle_spec` : the whole search answers a closed path, or no node leads to itself.

The walk is bounded by `room`.  The bound never cuts it short, since the nodes of the path are
distinct and lie below `n`: this is the hypothesis `n ≤ room + path.length` below.
-/

set_option autoImplicit false

namespace Rollout.Walk

open Relation

/-- An edge between numbered nodes. -/
def Edge (next : Nat → List Nat) (i j : Nat) : Prop := j ∈ next i

/-- No node leads to itself. -/
def Acyclic (next : Nat → List Nat) : Prop := ∀ i, ¬ TransGen (Edge next) i i

/-- A path along edges that ends where it starts and meets no node twice in between. -/
structure ClosedPath (next : Nat → List Nat) (cycle : List Nat) : Prop where
  chain : cycle.IsChain (Edge next)
  closed : ∃ node rest, cycle = node :: rest ++ [node] ∧ (node :: rest).Nodup

/-- What holds of the nodes that have been explored. -/
structure Finished (next : Nat → List Nat) (nodes : List Nat) : Prop where
  closed : ∀ v ∈ nodes, ∀ w ∈ next v, w ∈ nodes
  acyclic : ∀ v ∈ nodes, ¬ TransGen (Edge next) v v

variable {next : Nat → List Nat} {n : Nat}

theorem Finished.nil : Finished next [] :=
  ⟨fun _ h => (List.not_mem_nil h).elim, fun _ h => (List.not_mem_nil h).elim⟩

/-- Whatever a finished node leads to is finished. -/
theorem Finished.reach {nodes : List Nat} (hf : Finished next nodes) {v w : Nat}
    (hv : v ∈ nodes) (h : TransGen (Edge next) v w) : w ∈ nodes := by
  induction h with
  | single e => exact hf.closed _ hv _ e
  | tail _ e ih => exact hf.closed _ ih _ e

/-- A node that is not finished joins the finished ones when all it leads to is finished. -/
theorem Finished.cons {nodes : List Nat} (hf : Finished next nodes) {v : Nat} (hv : v ∉ nodes)
    (hnext : ∀ w ∈ next v, w ∈ nodes) : Finished next (v :: nodes) := by
  have hout : ∀ w, TransGen (Edge next) v w → w ∈ nodes := by
    intro w h
    obtain ⟨u, e, h⟩ := TransGen.head'_iff.mp h
    rcases reflTransGen_iff_eq_or_transGen.mp h with rfl | h
    · exact hnext _ e
    · exact hf.reach (hnext u e) h
  constructor
  · intro u hu w hw
    rcases List.mem_cons.mp hu with rfl | hu
    · exact List.mem_cons_of_mem _ (hnext w hw)
    · exact List.mem_cons_of_mem _ (hf.closed u hu w hw)
  · intro u hu h
    rcases List.mem_cons.mp hu with rfl | hu
    · exact hv (hout _ h)
    · exact hf.acyclic u hu h

/-- A path leads from its first node to its last. -/
theorem transGen_of_isChain {α : Type} {r : α → α → Prop} : ∀ (l : List α) (a b : α),
    List.IsChain r (a :: (l ++ [b])) → TransGen r a b
  | [], a, b, h => .single (by simpa using h)
  | c :: l, a, b, h => by
    rw [List.cons_append, List.isChain_cons_cons] at h
    exact .head h.1 (transGen_of_isChain l c b h.2)

/-- A closed path leads from its first node to itself. -/
theorem ClosedPath.transGen {cycle : List Nat} (h : ClosedPath next cycle) :
    ∃ i ∈ cycle, TransGen (Edge next) i i := by
  obtain ⟨node, rest, rfl, _⟩ := h.closed
  exact ⟨node, by simp, transGen_of_isChain rest node node h.chain⟩

/-! ## One node -/

/-- What a walk holds while it stands at the end of a path. -/
structure Standing (next : Nat → List Nat) (n : Nat) (path finished : List Nat) : Prop where
  chain : path.IsChain (Edge next)
  nodup : path.Nodup
  below : ∀ x ∈ path, x < n
  done : Finished next finished
  apart : ∀ x ∈ path, x ∉ finished

/-- What a walk has reached that was to finish some targets. -/
def Reached (next : Nat → List Nat) (path finished targets : List Nat) :
    Except (List Nat) (List Nat) → Prop
  | .error cycle => ClosedPath next cycle
  | .ok result => Finished next result ∧ finished ⊆ result ∧ targets ⊆ result ∧
      ∀ x ∈ path, x ∉ result

/-- A path goes on along an edge to a node that it does not hold. -/
theorem Standing.snoc {path finished done : List Nat} {node target : Nat}
    (h : Standing next n (path ++ [node]) finished) (hdone : Finished next done)
    (hapart : ∀ x ∈ path ++ [node], x ∉ done) (hbelow : target < n)
    (hback : target ∉ path ++ [node]) (hfresh : target ∉ done) (hedge : target ∈ next node) :
    Standing next n (path ++ [node] ++ [target]) done := by
  refine ⟨?_, ?_, ?_, hdone, ?_⟩
  · refine h.chain.append (List.isChain_singleton _) ?_
    intro x hx y hy
    simp only [List.getLast?_append, List.getLast?_singleton, Option.some_or, Option.mem_def,
      Option.some.injEq, List.head?_cons] at hx hy
    subst hx hy
    exact hedge
  · rw [List.nodup_append]
    refine ⟨h.nodup, by simp, ?_⟩
    intro a ha b hb hab
    rw [List.mem_singleton] at hb
    exact hback (hb ▸ hab ▸ ha)
  · intro x hx
    rcases List.mem_append.mp hx with hx | hx
    · exact h.below x hx
    · rwa [List.mem_singleton.mp hx]
  · intro x hx
    rcases List.mem_append.mp hx with hx | hx
    · exact hapart x hx
    · rwa [List.mem_singleton.mp hx]

theorem Reached.of_mem {path finished : List Nat} {target : Nat} (hdone : Finished next finished)
    (hapart : ∀ x ∈ path, x ∉ finished) (hmem : target ∈ finished) :
    Reached next path finished [target] (.ok finished) :=
  ⟨hdone, List.Subset.refl _, by simpa using hmem, hapart⟩

/-- A walk that goes on after its first target, unless that has met a closed path. -/
theorem Reached.cons {path finished targets : List Nat} {target : Nat}
    {answer : Except (List Nat) (List Nat)}
    (rest : Except (List Nat) (List Nat) → Except (List Nat) (List Nat))
    (hone : Reached next path finished [target] answer)
    (herror : ∀ cycle, rest (.error cycle) = .error cycle)
    (hrest : ∀ middle, Finished next middle → (∀ x ∈ path, x ∉ middle) →
      Reached next path middle targets (rest (.ok middle))) :
    Reached next path finished (target :: targets) (rest answer) := by
  cases answer with
  | error cycle =>
    rw [herror]
    exact hone
  | ok middle =>
    obtain ⟨hdone, hkept, htarget, hapart⟩ := hone
    have hend := hrest middle hdone hapart
    generalize rest (.ok middle) = final at hend ⊢
    cases final with
    | error cycle => exact hend
    | ok result =>
      obtain ⟨hdone', hkept', htargets, hapart'⟩ := hend
      exact ⟨hdone', List.Subset.trans hkept hkept',
        List.cons_subset.mpr ⟨hkept' (htarget (by simp)), htargets⟩, hapart'⟩

/-- An edge from the end of a path back into it closes the path. -/
theorem closedPath_of_back {path : List Nat} {node target : Nat}
    (hchain : (path ++ [node]).IsChain (Edge next)) (hnodup : (path ++ [node]).Nodup)
    (hedge : target ∈ next node) (hmem : target ∈ path ++ [node]) :
    ClosedPath next ((path ++ [node]).dropWhile (· ≠ target) ++ [target]) := by
  obtain ⟨pre, post, hsplit⟩ := List.append_of_mem hmem
  have hpre : ∀ x ∈ pre, x ≠ target := by
    intro x hx
    rw [hsplit] at hnodup
    rintro rfl
    exact (List.nodup_append.mp hnodup).2.2 x hx x (by simp) rfl
  have hdrop : (path ++ [node]).dropWhile (· ≠ target) = target :: post := by
    rw [hsplit, List.dropWhile_append_of_pos (by simpa using hpre)]
    simp
  have hlast : (target :: post).getLast (by simp) = node := by
    have h1 : (pre ++ target :: post).getLast (by simp) = node := by
      simp only [← hsplit, List.getLast_append_singleton]
    rwa [List.getLast_append_of_ne_nil _ (by simp)] at h1
  rw [hdrop]
  refine ⟨?_, target, post, rfl, ?_⟩
  · refine List.IsChain.append ?_ (List.isChain_singleton _) ?_
    · rw [hsplit] at hchain
      exact hchain.right_of_append
    · intro x hx y hy
      rw [List.getLast?_eq_getLast_of_ne_nil (by simp), hlast] at hx
      simp only [Option.mem_def, Option.some.injEq, List.head?_cons] at hx hy
      subst hx hy
      exact hedge
  · rw [hsplit] at hnodup
    exact (List.nodup_append.mp hnodup).2.1

theorem foldl_follow_error (explore : List Nat → List Nat → Nat → Except (List Nat) (List Nat))
    (path cycle : List Nat) (targets : List Nat) :
    targets.foldl (follow explore path) (.error cycle) = .error cycle := by
  induction targets with
  | nil => rfl
  | cons t ts ih => exact ih

/-- Following the edges out of the end of a path one after the other, given that exploring one more
node does what it should. -/
theorem foldl_follow_spec
    {explore : List Nat → List Nat → Nat → Except (List Nat) (List Nat)} {path : List Nat}
    {node : Nat}
    (hexplore : ∀ finished target, Standing next n (path ++ [node]) finished → target < n →
      target ∉ path ++ [node] → target ∉ finished → target ∈ next node →
      Reached next (path ++ [node]) finished [target] (explore (path ++ [node]) finished target)) :
    ∀ (targets finished : List Nat), (∀ t ∈ targets, t ∈ next node ∧ t < n) →
      Standing next n (path ++ [node]) finished →
      Reached next (path ++ [node]) finished targets
        (targets.foldl (follow explore (path ++ [node])) (.ok finished)) := by
  intro targets
  induction targets with
  | nil =>
    intro finished _ hs
    exact ⟨hs.done, List.Subset.refl _, List.nil_subset _, hs.apart⟩
  | cons t ts ih =>
    intro finished ht hs
    have hts : ∀ u ∈ ts, u ∈ next node ∧ u < n := fun u hu => ht u (List.mem_cons_of_mem _ hu)
    obtain ⟨hedge, htn⟩ := ht t (by simp)
    have hone : Reached next (path ++ [node]) finished [t]
        (follow explore (path ++ [node]) (.ok finished) t) := by
      unfold follow
      simp only [List.contains_iff_mem]
      by_cases hback : t ∈ path ++ [node]
      · rw [if_pos hback]
        exact closedPath_of_back hs.chain hs.nodup hedge hback
      · rw [if_neg hback]
        by_cases hdone : t ∈ finished
        · rw [if_pos hdone]
          exact .of_mem hs.done hs.apart hdone
        · rw [if_neg hdone]
          exact hexplore finished t hs htn hback hdone hedge
    rw [List.foldl_cons]
    refine hone.cons (ts.foldl (follow explore (path ++ [node])))
      (fun cycle => foldl_follow_error explore _ cycle ts) fun middle hdone hapart => ?_
    exact ih middle hts ⟨hs.chain, hs.nodup, hs.below, hdone, hapart⟩

/-- A path of distinct nodes below `n` that ends in a node leaves room for it. -/
theorem length_le_of_nodup {path : List Nat} (hnodup : path.Nodup) (hbelow : ∀ x ∈ path, x < n) :
    path.length ≤ n := by
  have hsub : path ⊆ List.range n := fun x hx => List.mem_range.mpr (hbelow x hx)
  simpa using (hnodup.subperm hsub).length_le

/-- **Exploring a node answers a closed path, or finishes the node** and keeps what the path holds. -/
theorem explore_spec (hnext : ∀ i < n, ∀ j ∈ next i, j < n) :
    ∀ (room : Nat) (path finished : List Nat) (node : Nat),
      Standing next n (path ++ [node]) finished → n ≤ room + path.length →
      Reached next path finished [node] (explore next room path finished node)
  | 0, path, finished, node, hs, hroom => by
    have := length_le_of_nodup hs.nodup hs.below
    rw [List.length_append, List.length_singleton] at this
    omega
  | room + 1, path, finished, node, hs, hroom => by
    have hnode : node < n := hs.below node (by simp)
    have hfold : Reached next (path ++ [node]) finished (next node)
        ((next node).foldl (follow (explore next room) (path ++ [node])) (.ok finished)) := by
      refine foldl_follow_spec ?_ (next node) finished (fun t ht => ⟨ht, hnext node hnode t ht⟩) hs
      intro done target hd htn hback hfresh hedge
      exact explore_spec hnext room (path ++ [node]) done target
        (hs.snoc hd.done hd.apart htn hback hfresh hedge) (by simp; omega)
    rw [explore]
    generalize (next node).foldl (follow (explore next room) (path ++ [node])) (.ok finished)
      = answer at hfold ⊢
    cases answer with
    | error cycle => exact hfold
    | ok result =>
      obtain ⟨h1, h2, h3, h4⟩ := hfold
      have hout : node ∉ result := h4 node (by simp)
      refine ⟨h1.cons hout h3, List.Subset.trans h2 (List.subset_cons_self _ _), by simp, ?_⟩
      intro x hx hmem
      rcases List.mem_cons.mp hmem with rfl | hmem
      · have := List.nodup_append.mp hs.nodup
        exact this.2.2 x hx x (by simp) rfl
      · exact h4 x (by simp [hx]) hmem

/-! ## The whole search -/

theorem foldl_fromRoot_error (cycle roots : List Nat) :
    roots.foldl (fromRoot next n) (.error cycle) = .error cycle := by
  induction roots with
  | nil => rfl
  | cons r rs ih => exact ih

/-- Exploring one root after the other. -/
theorem foldl_fromRoot_spec (hnext : ∀ i < n, ∀ j ∈ next i, j < n) :
    ∀ (roots finished : List Nat), (∀ r ∈ roots, r < n) → Finished next finished →
      Reached next [] finished roots (roots.foldl (fromRoot next n) (.ok finished)) := by
  intro roots
  induction roots with
  | nil =>
    intro finished _ hf
    exact ⟨hf, List.Subset.refl _, List.nil_subset _, by simp⟩
  | cons r rs ih =>
    intro finished hr hf
    have hrs : ∀ s ∈ rs, s < n := fun s hs => hr s (List.mem_cons_of_mem _ hs)
    have hone : Reached next [] finished [r] (fromRoot next n (.ok finished) r) := by
      by_cases hdone : r ∈ finished
      · simp only [fromRoot, List.contains_iff_mem, hdone, if_true]
        exact .of_mem hf (by simp) hdone
      · simp only [fromRoot, List.contains_iff_mem, hdone, if_false]
        refine explore_spec hnext n [] finished r ?_ (by simp)
        exact ⟨List.isChain_singleton _, by simp, by simpa using hr r (by simp), hf,
          by simpa using hdone⟩
    rw [List.foldl_cons]
    exact hone.cons (rs.foldl (fromRoot next n)) (fun cycle => foldl_fromRoot_error cycle rs)
      fun middle hdone _ => ih middle hrs hdone

end Rollout.Walk

namespace Rollout

open Walk

variable {next : Nat → List Nat} {n : Nat}

/-- **The search answers a closed path, or no node leads to itself.** -/
theorem findCycle_spec (hnext : ∀ i, ∀ j ∈ next i, i < n ∧ j < n) :
    match findCycle next n with
    | some cycle => ClosedPath next cycle
    | none => Acyclic next := by
  have hall := foldl_fromRoot_spec (n := n) (fun i _ j hj => (hnext i j hj).2) (List.range n) []
    (fun r hr => List.mem_range.mp hr) Finished.nil
  unfold findCycle
  generalize (List.range n).foldl (fromRoot next n) (.ok []) = answer at hall ⊢
  cases answer with
  | error cycle => exact hall
  | ok result =>
    obtain ⟨hf, _, hroots, _⟩ := hall
    intro i h
    obtain ⟨j, e, _⟩ := Relation.TransGen.head'_iff.mp h
    exact hf.acyclic i (hroots (List.mem_range.mpr (hnext i j e).1)) h

/-- A closed path is found exactly when some node leads to itself. -/
theorem findCycle_eq_none_iff (hnext : ∀ i, ∀ j ∈ next i, i < n ∧ j < n) :
    findCycle next n = none ↔ Acyclic next := by
  have hspec := findCycle_spec hnext
  cases hfind : findCycle next n with
  | none => rw [hfind] at hspec; exact ⟨fun _ => hspec, fun _ => rfl⟩
  | some cycle =>
    rw [hfind] at hspec
    obtain ⟨i, _, hi⟩ := hspec.transGen
    exact ⟨fun h => absurd h (by simp), fun h => absurd hi (h i)⟩

end Rollout
