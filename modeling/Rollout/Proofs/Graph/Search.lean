import Rollout.Proofs.Graph.Walk

/-!
# The search for a closed path, turn by turn

`findCycle` calls itself.  Here the same walk keeps its path and its place in the edges of each node
of the path itself, and nothing bounds how deep it goes.

* `Search.turn` : one turn of the loop.  It follows one edge, leaves a node whose edges have all been
  followed, or goes on to the next root;
* `Search.Sound` : what holds of every search that has not ended: the path and the finished nodes are
  apart, and the places lie within the edges;
* `turn_left` : a turn takes away one of what is left to do, so every search ends;
* `turns_start` : it ends with the answer of `findCycle`, after at most twice as many turns as there
  are nodes and one more for each edge.
-/

set_option autoImplicit false

namespace Rollout

/-- How far a node has been explored. -/
inductive Colour where
  /-- Not met yet. -/
  | white
  /-- On the path. -/
  | grey
  /-- Finished. -/
  | black
deriving DecidableEq, Repr

/-- Where a search stands: the nodes of its path, the last one first, each with the number of its
edges that have been followed; the finished nodes; and the next root. -/
structure Search where
  path : List (Nat × Nat)
  finished : List Nat
  root : Nat
deriving DecidableEq, Repr

namespace Search

variable {next : Nat → List Nat} {n : Nat}

/-- The nodes of the path, from its root on. -/
def nodes (s : Search) : List Nat := (s.path.map Prod.fst).reverse

/-- How far a node has been explored. -/
def colour (s : Search) (node : Nat) : Colour :=
  if s.nodes.contains node then .grey else if s.finished.contains node then .black else .white

/-- One turn of the loop: the search goes on, or has its answer. -/
def turn (next : Nat → List Nat) (n : Nat) (s : Search) : Search ⊕ Option (List Nat) :=
  match s.path with
  | [] =>
    if s.root < n then
      match s.colour s.root with
      | .white => .inl { s with path := [(s.root, 0)], root := s.root + 1 }
      | _ => .inl { s with root := s.root + 1 }
    else .inr none
  | (node, place) :: rest =>
    match (next node)[place]? with
    | none => .inl { s with path := rest, finished := node :: s.finished }
    | some target =>
      let path := (node, place + 1) :: rest
      match s.colour target with
      | .grey => .inr (some (s.nodes.dropWhile (· ≠ target) ++ [target]))
      | .white => .inl { s with path := (target, 0) :: path }
      | .black => .inl { s with path }

/-- The answer of a search that ends within so many turns. -/
def turns (next : Nat → List Nat) (n : Nat) : Nat → Search → Option (Option (List Nat))
  | 0, _ => none
  | count + 1, s =>
    match turn next n s with
    | .inl s => turns next n count s
    | .inr answer => some answer

/-- A search that has not met any node. -/
def start : Search := ⟨[], [], 0⟩

/-! ## What is left to do -/

/-- What holds of every search that has not ended. -/
structure Sound (next : Nat → List Nat) (n : Nat) (s : Search) : Prop where
  nodup : s.nodes.Nodup
  below : ∀ v ∈ s.nodes, v < n
  apart : ∀ v ∈ s.nodes, v ∉ s.finished
  within : ∀ entry ∈ s.path, entry.2 ≤ (next entry.1).length
  root : s.root ≤ n

/-- The nodes that have not been met. -/
def unmet (n : Nat) (s : Search) : List Nat := (List.range n).filter fun v => s.colour v = .white

/-- What is left to do for some nodes: to follow each of their edges, and to leave them. -/
def work (edges : List (List Nat)) : Nat := edges.flatten.length + edges.length

/-- What is left to do: for every node that has not been met, for every node of the path, and for
the roots to come. -/
def left (next : Nat → List Nat) (n : Nat) (s : Search) : Nat :=
  work ((s.unmet n).map next) + work (s.path.map fun entry => (next entry.1).drop entry.2) +
    (n - s.root)

@[simp] theorem work_nil : work [] = 0 := rfl

@[simp] theorem work_cons (edges : List Nat) (rest : List (List Nat)) :
    work (edges :: rest) = edges.length + 1 + work rest := by
  simp only [work, List.flatten_cons, List.length_append, List.length_cons]
  omega

theorem work_perm {edges edges' : List (List Nat)} (h : edges.Perm edges') :
    work edges = work edges' := by
  unfold work
  rw [h.flatten.length_eq, h.length_eq]

theorem colour_eq_white_iff {s : Search} {v : Nat} :
    s.colour v = .white ↔ v ∉ s.nodes ∧ v ∉ s.finished := by
  unfold colour
  by_cases hn : v ∈ s.nodes <;> by_cases hf : v ∈ s.finished <;> simp [hn, hf]

/-- A node that is met joins the path, and no other node changes between met and not met. -/
theorem unmet_perm {s s' : Search} {v : Nat} (hv : v < n) (hwhite : s.colour v = .white)
    (h : ∀ w, s'.colour w = .white ↔ w ≠ v ∧ s.colour w = .white) :
    (s.unmet n).Perm (v :: s'.unmet n) := by
  have hout : v ∉ s'.unmet n := by
    intro hmem
    have := (List.mem_filter.mp hmem).2
    exact ((h v).mp (by simpa using this)).1 rfl
  have hnd : (v :: s'.unmet n).Nodup :=
    List.nodup_cons.mpr ⟨hout, List.nodup_range.filter _⟩
  refine (List.perm_ext_iff_of_nodup (List.nodup_range.filter _) hnd).mpr fun w => ?_
  simp only [unmet, List.mem_cons, List.mem_filter, List.mem_range, decide_eq_true_eq, h]
  constructor
  · rintro ⟨hw, hwhite'⟩
    by_cases he : w = v
    · exact .inl he
    · exact .inr ⟨hw, he, hwhite'⟩
  · rintro (rfl | ⟨hw, _, hwhite'⟩)
    · exact ⟨hv, hwhite⟩
    · exact ⟨hw, hwhite'⟩

theorem unmet_eq {s s' : Search} (h : ∀ w, s'.colour w = .white ↔ s.colour w = .white) :
    s'.unmet n = s.unmet n := by
  unfold unmet
  exact List.filter_congr fun w _ => by simp [h w]

theorem Sound.start : Sound next n start :=
  ⟨List.nodup_nil, by simp [Search.start, nodes], by simp [Search.start, nodes],
    by simp [Search.start], Nat.zero_le n⟩

/-- At first every node has to be left, every edge to be followed and every root to be tried. -/
theorem left_start : left next n start = 2 * n + ((List.range n).flatMap next).length := by
  have hunmet : start.unmet n = List.range n := by
    unfold unmet
    exact List.filter_eq_self.mpr fun v _ => by simp [colour, nodes, start]
  rw [left, hunmet]
  simp only [work, start, List.map_nil, List.flatten_nil, List.length_nil, List.length_map,
    List.length_range, List.flatMap_def]
  omega

/-! ## One turn -/

/-- What one turn does that does not end the search. -/
inductive Turn (next : Nat → List Nat) (n : Nat) : Search → Search → Prop where
  | skip {finished : List Nat} {root : Nat} : root < n →
    Turn next n ⟨[], finished, root⟩ ⟨[], finished, root + 1⟩
  | enter {finished : List Nat} {root : Nat} : root < n → root ∉ finished →
    Turn next n ⟨[], finished, root⟩ ⟨[(root, 0)], finished, root + 1⟩
  | leave {node place root : Nat} {rest : List (Nat × Nat)} {finished : List Nat} :
    (next node).length ≤ place →
    Turn next n ⟨(node, place) :: rest, finished, root⟩ ⟨rest, node :: finished, root⟩
  | pass {node place root : Nat} {rest : List (Nat × Nat)} {finished : List Nat} :
    place < (next node).length →
    Turn next n ⟨(node, place) :: rest, finished, root⟩
      ⟨(node, place + 1) :: rest, finished, root⟩
  | descend {node place root target : Nat} {rest : List (Nat × Nat)} {finished : List Nat} :
    (next node)[place]? = some target →
    colour ⟨(node, place) :: rest, finished, root⟩ target = .white →
    Turn next n ⟨(node, place) :: rest, finished, root⟩
      ⟨(target, 0) :: (node, place + 1) :: rest, finished, root⟩

theorem turn_cases {s s' : Search} (h : turn next n s = .inl s') : Turn next n s s' := by
  obtain ⟨path, finished, root⟩ := s
  cases path with
  | nil =>
    by_cases hroot : root < n
    · simp only [turn, hroot, if_true] at h
      split at h
      · rename_i hwhite
        cases h
        exact .enter hroot (colour_eq_white_iff.mp hwhite).2
      · cases h
        exact .skip hroot
    · simp only [turn, hroot, if_false] at h
      cases h
  | cons last rest =>
    obtain ⟨node, place⟩ := last
    cases hget : (next node)[place]? with
    | none =>
      simp only [turn, hget] at h
      cases h
      exact .leave (List.getElem?_eq_none_iff.mp hget)
    | some target =>
      simp only [turn, hget] at h
      split at h
      · cases h
      · rename_i hwhite
        cases h
        exact .descend hget hwhite
      · cases h
        exact .pass (List.getElem?_eq_some_iff.mp hget).1

/-- What holds of a search that has not ended holds after one more turn. -/
theorem Turn.sound (hnext : ∀ i < n, ∀ j ∈ next i, j < n) {s s' : Search} (hs : Sound next n s)
    (h : Turn next n s s') : Sound next n s' := by
  cases h with
  | skip hroot => exact ⟨hs.nodup, hs.below, hs.apart, hs.within, hroot⟩
  | enter hroot hout =>
    refine ⟨by simp [nodes], ?_, ?_, by simp, hroot⟩
    · simpa [nodes] using hroot
    · simpa [nodes] using hout
  | @leave node place root rest finished hend =>
    have hnodes : nodes ⟨(node, place) :: rest, finished, root⟩ =
        nodes ⟨rest, node :: finished, root⟩ ++ [node] := by simp [nodes]
    have hnd := hs.nodup
    rw [hnodes, List.nodup_append] at hnd
    have hkept : ∀ v ∈ nodes ⟨rest, node :: finished, root⟩,
        v ∈ nodes ⟨(node, place) :: rest, finished, root⟩ := fun v hv => by simp [hnodes, hv]
    refine ⟨hnd.1, fun v hv => hs.below v (hkept v hv), fun v hv hmem => ?_,
      fun e he => hs.within e (List.mem_cons_of_mem _ he), hs.root⟩
    rcases List.mem_cons.mp hmem with rfl | hmem
    · exact hnd.2.2 v hv v (by simp) rfl
    · exact hs.apart v (hkept v hv) hmem
  | @pass node place root rest finished hplace =>
    refine ⟨by simpa [nodes] using hs.nodup, by simpa [nodes] using hs.below,
      by simpa [nodes] using hs.apart, fun e he => ?_, hs.root⟩
    rcases List.mem_cons.mp he with rfl | he
    · exact hplace
    · exact hs.within e (List.mem_cons_of_mem _ he)
  | @descend node place root target rest finished hget hwhite =>
    obtain ⟨hout, hfresh⟩ := colour_eq_white_iff.mp hwhite
    have hnodes : nodes ⟨(target, 0) :: (node, place + 1) :: rest, finished, root⟩ =
        nodes ⟨(node, place) :: rest, finished, root⟩ ++ [target] := by simp [nodes]
    have hnode : node < n := hs.below node (by simp [nodes])
    refine ⟨?_, ?_, ?_, fun e he => ?_, hs.root⟩
    · rw [hnodes, List.nodup_append]
      refine ⟨hs.nodup, by simp, fun a ha b hb hab => ?_⟩
      rw [List.mem_singleton] at hb
      exact hout (hb ▸ hab ▸ ha)
    · rw [hnodes]
      intro v hv
      rcases List.mem_append.mp hv with hv | hv
      · exact hs.below v hv
      · rw [List.mem_singleton.mp hv]
        exact hnext node hnode target (List.mem_of_getElem? hget)
    · rw [hnodes]
      intro v hv
      rcases List.mem_append.mp hv with hv | hv
      · exact hs.apart v hv
      · rwa [List.mem_singleton.mp hv]
    · rcases List.mem_cons.mp he with rfl | he
      · exact Nat.zero_le _
      rcases List.mem_cons.mp he with rfl | he
      · exact (List.getElem?_eq_some_iff.mp hget).1
      · exact hs.within e (List.mem_cons_of_mem _ he)

/-- **A turn takes away one of what is left to do.** -/
theorem Turn.left (hnext : ∀ i < n, ∀ j ∈ next i, j < n) {s s' : Search} (hs : Sound next n s)
    (h : Turn next n s s') : s.left next n = s'.left next n + 1 := by
  cases h with
  | @skip finished root hroot =>
    have hunmet : unmet n ⟨[], finished, root + 1⟩ = unmet n ⟨[], finished, root⟩ :=
      unmet_eq fun w => Iff.rfl
    simp only [Search.left, hunmet]
    omega
  | @enter finished root hroot hout =>
    have hunmet : (unmet n ⟨[], finished, root⟩).Perm
        (root :: unmet n ⟨[(root, 0)], finished, root + 1⟩) := by
      refine unmet_perm hroot (colour_eq_white_iff.mpr ⟨by simp [nodes], hout⟩) fun w => ?_
      simp [colour_eq_white_iff, nodes]
    simp only [Search.left, work_perm (hunmet.map next), List.map_cons, List.map_nil, work_cons,
      work_nil, List.drop_zero]
    omega
  | @leave node place root rest finished hend =>
    have hunmet : unmet n ⟨rest, node :: finished, root⟩ =
        unmet n ⟨(node, place) :: rest, finished, root⟩ := by
      refine unmet_eq fun w => ?_
      simp only [colour_eq_white_iff, nodes, List.map_cons, List.reverse_cons, List.mem_append,
        List.mem_cons, List.not_mem_nil, or_false]
      tauto
    simp only [Search.left, hunmet, List.map_cons, work_cons, List.drop_eq_nil_of_le hend,
      List.length_nil]
    omega
  | @pass node place root rest finished hplace =>
    have hunmet : unmet n ⟨(node, place + 1) :: rest, finished, root⟩ =
        unmet n ⟨(node, place) :: rest, finished, root⟩ := by
      refine unmet_eq fun w => ?_
      simp [colour_eq_white_iff, nodes]
    simp only [Search.left, hunmet, List.map_cons, work_cons, List.length_drop]
    omega
  | @descend node place root target rest finished hget hwhite =>
    have hplace := (List.getElem?_eq_some_iff.mp hget).1
    have htarget : target < n :=
      hnext node (hs.below node (by simp [nodes])) target (List.mem_of_getElem? hget)
    have hunmet : (unmet n ⟨(node, place) :: rest, finished, root⟩).Perm
        (target :: unmet n ⟨(target, 0) :: (node, place + 1) :: rest, finished, root⟩) := by
      refine unmet_perm htarget hwhite fun w => ?_
      simp only [colour_eq_white_iff, nodes, List.map_cons, List.reverse_cons, List.mem_append,
        List.mem_cons, List.not_mem_nil, or_false]
      tauto
    simp only [Search.left, work_perm (hunmet.map next), List.map_cons, work_cons, List.drop_zero,
      List.length_drop]
    omega

/-! ## The whole search -/

/-- One search becomes another by turns. -/
def Leads (next : Nat → List Nat) (n : Nat) : Search → Search → Prop :=
  Relation.ReflTransGen fun s s' => turn next n s = .inl s'

/-- A search comes to an answer. -/
def Answers (next : Nat → List Nat) (n : Nat) (s : Search) (answer : Option (List Nat)) : Prop :=
  ∃ last, Leads next n s last ∧ turn next n last = .inr answer

/-- A search does what a walk does: it answers the closed path that the walk meets, or goes on with
the nodes that the walk has finished. -/
def Does (next : Nat → List Nat) (n : Nat) (s : Search) (goOn : List Nat → Search) :
    Except (List Nat) (List Nat) → Prop
  | .error cycle => Answers next n s (some cycle)
  | .ok finished => Leads next n s (goOn finished)

theorem Answers.of_leads {s s' : Search} {answer : Option (List Nat)} (h : Leads next n s s')
    (ha : Answers next n s' answer) : Answers next n s answer := by
  obtain ⟨last, hlast, hturn⟩ := ha
  exact ⟨last, h.trans hlast, hturn⟩

theorem Does.of_leads {s s' : Search} {goOn : List Nat → Search}
    {answer : Except (List Nat) (List Nat)} (h : Leads next n s s')
    (hd : Does next n s' goOn answer) : Does next n s goOn answer := by
  cases answer with
  | error cycle => exact Answers.of_leads h hd
  | ok finished => exact h.trans hd

/-- A search that does what one walk does, and goes on with what the next one does. -/
theorem Does.bind {s : Search} {goOn goOn' : List Nat → Search}
    {answer : Except (List Nat) (List Nat)}
    (rest : Except (List Nat) (List Nat) → Except (List Nat) (List Nat))
    (herror : ∀ cycle, rest (.error cycle) = .error cycle) (hd : Does next n s goOn answer)
    (hrest : ∀ finished, Does next n (goOn finished) goOn' (rest (.ok finished))) :
    Does next n s goOn' (rest answer) := by
  cases answer with
  | error cycle =>
    rw [herror]
    exact hd
  | ok finished => exact (hrest finished).of_leads hd

theorem leads_of_turn {s s' : Search} (h : turn next n s = .inl s') : Leads next n s s' :=
  .single h

/-- A search that stands at the last node of a path follows the rest of its edges as the walk does,
given that it explores one more node as the walk does, and leaves the node. -/
theorem does_follow {explore : List Nat → List Nat → Nat → Except (List Nat) (List Nat)}
    {rest : List (Nat × Nat)} {path : List Nat} {node root : Nat}
    (hpath : (rest.map Prod.fst).reverse = path)
    (hexplore : ∀ place finished target, target ∈ next node → target ∉ path ++ [node] →
      Does next n ⟨(target, 0) :: (node, place) :: rest, finished, root⟩
        (fun done => ⟨(node, place) :: rest, done, root⟩)
        (explore (path ++ [node]) finished target)) :
    ∀ (targets : List Nat) (place : Nat) (finished : List Nat),
      (next node).drop place = targets →
      Does next n ⟨(node, place) :: rest, finished, root⟩ (fun done => ⟨rest, node :: done, root⟩)
        (targets.foldl (Walk.follow explore (path ++ [node])) (.ok finished)) := by
  intro targets
  induction targets with
  | nil =>
    intro place finished hdrop
    refine leads_of_turn ?_
    have hend : (next node)[place]? = none :=
      List.getElem?_eq_none_iff.mpr (List.drop_eq_nil_iff.mp hdrop)
    simp [turn, hend]
  | cons target targets ih =>
    intro place finished hdrop
    have hget : (next node)[place]? = some target := by
      rw [← List.head?_drop, hdrop, List.head?_cons]
    have hrest : (next node).drop (place + 1) = targets := by
      rw [← List.tail_drop, hdrop, List.tail_cons]
    have hnodes : nodes ⟨(node, place) :: rest, finished, root⟩ = path ++ [node] := by
      simp [nodes, hpath]
    have hcolour : colour ⟨(node, place) :: rest, finished, root⟩ target =
        if (path ++ [node]).contains target then .grey
        else if finished.contains target then .black else .white := by
      rw [colour, hnodes]
    rw [List.foldl_cons]
    by_cases hback : (path ++ [node]).contains target = true
    · rw [if_pos hback] at hcolour
      have hfollow : Walk.follow explore (path ++ [node]) (.ok finished) target =
          .error ((path ++ [node]).dropWhile (· ≠ target) ++ [target]) := by
        simp only [Walk.follow, hback, if_true]
      rw [hfollow, Walk.foldl_follow_error]
      refine ⟨_, .refl, ?_⟩
      simp only [turn, hget, hcolour, hnodes]
    · rw [if_neg hback] at hcolour
      by_cases hdone : finished.contains target = true
      · rw [if_pos hdone] at hcolour
        have hfollow : Walk.follow explore (path ++ [node]) (.ok finished) target =
            .ok finished := by
          simp only [Walk.follow, hback, hdone, if_true, if_false, Bool.false_eq_true]
        rw [hfollow]
        refine (ih (place + 1) finished hrest).of_leads (leads_of_turn ?_)
        simp only [turn, hget, hcolour]
      · rw [if_neg hdone] at hcolour
        have hfollow : Walk.follow explore (path ++ [node]) (.ok finished) target =
            explore (path ++ [node]) finished target := by
          simp only [Walk.follow, hback, hdone, if_false, Bool.false_eq_true]
        rw [hfollow]
        have hone := hexplore (place + 1) finished target (List.mem_of_getElem? hget)
          (by simpa using hback)
        refine (hone.bind (targets.foldl (Walk.follow explore (path ++ [node])))
          (fun cycle => Walk.foldl_follow_error explore _ cycle targets)
          fun done => ih (place + 1) done hrest).of_leads (leads_of_turn ?_)
        simp only [turn, hget, hcolour]

/-- **A search explores a node as the walk does.**  The nodes of the path are distinct and lie below
`n`, so that the bound of the walk does not cut it short. -/
theorem does_explore (hnext : ∀ i < n, ∀ j ∈ next i, j < n) (root : Nat) :
    ∀ (room : Nat) (rest : List (Nat × Nat)) (finished : List Nat) (node : Nat),
      ((rest.map Prod.fst).reverse ++ [node]).Nodup →
      (∀ v ∈ (rest.map Prod.fst).reverse ++ [node], v < n) →
      n ≤ room + (rest.map Prod.fst).reverse.length →
      Does next n ⟨(node, 0) :: rest, finished, root⟩ (fun done => ⟨rest, done, root⟩)
        (Walk.explore next room (rest.map Prod.fst).reverse finished node)
  | 0, rest, finished, node, hnd, hbelow, hroom => by
    have := Walk.length_le_of_nodup hnd hbelow
    rw [List.length_append, List.length_singleton] at this
    omega
  | room + 1, rest, finished, node, hnd, hbelow, hroom => by
    have hnode : node < n := hbelow node (by simp)
    have hfold : Does next n ⟨(node, 0) :: rest, finished, root⟩
        (fun done => ⟨rest, node :: done, root⟩)
        ((next node).foldl (Walk.follow (Walk.explore next room)
          ((rest.map Prod.fst).reverse ++ [node])) (.ok finished)) := by
      refine does_follow rfl ?_ (next node) 0 finished List.drop_zero
      intro place finished target htarget hback
      have hpath : (((node, place) :: rest).map Prod.fst).reverse =
          (rest.map Prod.fst).reverse ++ [node] := by simp
      have hone := does_explore hnext root room ((node, place) :: rest) finished target
      rw [hpath] at hone
      refine hone ?_ ?_ ?_
      · rw [List.nodup_append]
        refine ⟨hnd, by simp, fun a ha b hb hab => ?_⟩
        rw [List.mem_singleton] at hb
        exact hback (hb ▸ hab ▸ ha)
      · intro v hv
        rcases List.mem_append.mp hv with hv | hv
        · exact hbelow v hv
        · rw [List.mem_singleton.mp hv]
          exact hnext node hnode target htarget
      · rw [List.length_append, List.length_singleton]
        omega
    rw [Walk.explore]
    generalize (next node).foldl (Walk.follow (Walk.explore next room)
      ((rest.map Prod.fst).reverse ++ [node])) (.ok finished) = answer at hfold ⊢
    cases answer with
    | error cycle => exact hfold
    | ok done => exact hfold

/-- A search goes through the roots as the walk does. -/
theorem does_roots (hnext : ∀ i < n, ∀ j ∈ next i, j < n) :
    ∀ (count root : Nat) (finished : List Nat), root + count = n →
      Does next n ⟨[], finished, root⟩ (fun done => ⟨[], done, n⟩)
        ((List.range' root count).foldl (Walk.fromRoot next n) (.ok finished))
  | 0, root, finished, hroot => by
    have : root = n := by omega
    subst this
    exact .refl
  | count + 1, root, finished, hroot => by
    have hlt : root < n := by omega
    have hrest := fun done => does_roots hnext count (root + 1) done (by omega)
    rw [List.range'_succ, List.foldl_cons]
    by_cases hdone : finished.contains root = true
    · have hfrom : Walk.fromRoot next n (.ok finished) root = .ok finished := by
        simp only [Walk.fromRoot, hdone, if_true]
      rw [hfrom]
      refine (hrest finished).of_leads (leads_of_turn ?_)
      have hcolour : colour ⟨[], finished, root⟩ root = .black := by
        simp only [colour, nodes, List.map_nil, List.reverse_nil, List.contains_nil, hdone,
          Bool.false_eq_true, if_false, if_true]
      simp only [turn, hlt, if_true, hcolour]
    · have hfrom : Walk.fromRoot next n (.ok finished) root =
          Walk.explore next n [] finished root := by
        simp only [Walk.fromRoot, hdone, if_false, Bool.false_eq_true]
      rw [hfrom]
      have hone := does_explore hnext (root + 1) n [] finished root (by simp) (by simpa using hlt)
        (by simp)
      refine (hone.bind ((List.range' (root + 1) count).foldl (Walk.fromRoot next n))
        (fun cycle => Walk.foldl_fromRoot_error cycle _) hrest).of_leads (leads_of_turn ?_)
      have hcolour : colour ⟨[], finished, root⟩ root = .white := by
        simp only [colour, nodes, List.map_nil, List.reverse_nil, List.contains_nil, hdone,
          Bool.false_eq_true, if_false]
      simp only [turn, hlt, if_true, hcolour]

/-- A search comes to the answer of `findCycle`. -/
theorem answers_start (hnext : ∀ i < n, ∀ j ∈ next i, j < n) :
    Answers next n start (findCycle next n) := by
  have hroots := does_roots hnext n 0 [] (by omega)
  rw [← List.range_eq_range'] at hroots
  unfold findCycle
  generalize (List.range n).foldl (Walk.fromRoot next n) (.ok []) = answer at hroots ⊢
  cases answer with
  | error cycle => exact hroots
  | ok done => exact ⟨_, hroots, by simp [turn]⟩

/-- Turns enough for what is left to do bring a search to its answer. -/
theorem turns_of_leads (hnext : ∀ i < n, ∀ j ∈ next i, j < n) {s last : Search}
    {answer : Option (List Nat)} (hlead : Leads next n s last)
    (hturn : turn next n last = .inr answer) (hs : Sound next n s) :
    ∀ count, s.left next n < count → turns next n count s = some answer := by
  induction hlead using Relation.ReflTransGen.head_induction_on with
  | refl =>
    intro count hcount
    obtain ⟨count, rfl⟩ : ∃ k, count = k + 1 := ⟨count - 1, by omega⟩
    simp only [turns, hturn]
  | head hstep _ ih =>
    intro count hcount
    have hone := turn_cases hstep
    have hleft := hone.left hnext hs
    obtain ⟨count, rfl⟩ : ∃ k, count = k + 1 := ⟨count - 1, by omega⟩
    simp only [turns, hstep]
    exact ih (hone.sound hnext hs) count (by omega)

/-- **The search ends with the answer of `findCycle`**, after at most twice as many turns as there
are nodes and one for each edge, the turn of the answer included in neither. -/
theorem turns_start (hnext : ∀ i < n, ∀ j ∈ next i, j < n) :
    turns next n (2 * n + ((List.range n).flatMap next).length + 1) start =
      some (findCycle next n) := by
  obtain ⟨last, hlead, hturn⟩ := answers_start hnext
  refine turns_of_leads hnext hlead hturn .start _ ?_
  rw [left_start]
  exact Nat.lt_succ_self _

end Search

end Rollout
