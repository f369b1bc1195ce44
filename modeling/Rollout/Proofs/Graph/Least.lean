import Rollout.Proofs.Graph.Accepted

/-!
# The apply order is the least one

Many orders put every resource behind those it needs.  `Graph.order` is the one that is least when
orders are compared at the first place where they differ, by the positions in the collection.

* `Resource.Arranges` : a list holds every resource once, each behind those it needs;
* `Arrangement.place_least` : placing the first ready item again and again is least, since in any
  other order too the item in front is ready;
* `Resource.Arranges.orders`, `Graph.arranges_order` : the orders of a collection and of its
  positions are the same;
* `Graph.order_least` : the apply order, and its reverse.
-/

set_option autoImplicit false

namespace Rollout

open Relation

namespace Resource

/-- A list that holds every resource of a collection once, each behind all that it needs. -/
structure Arranges (resources : List Resource) (order : List String) : Prop where
  perm : order.Perm (ids resources)
  behind : ∀ pre id post, order = pre ++ id :: post → ∀ need, Needs resources id need → need ∈ pre

namespace Arranges

variable {resources : List Resource} {order : List String}

/-- What a resource needs, directly or through others, stands in front of it. -/
theorem mem_of_transGen (h : Arranges resources order) {id need : String}
    (hneeds : TransGen (Needs resources) id need) :
    ∀ pre post, order = pre ++ id :: post → need ∈ pre := by
  induction hneeds using TransGen.head_induction_on with
  | single hneed => exact fun pre post heq => h.behind pre _ post heq _ hneed
  | head hneed _ ih =>
    intro pre post heq
    obtain ⟨front, back, rfl⟩ := List.append_of_mem (h.behind pre _ post heq _ hneed)
    exact List.mem_append_left _ (ih front _ (by rw [heq, List.append_assoc, List.cons_append]))

/-- No resource needs one behind it, directly or through others. -/
theorem pairwise (h : Arranges resources order) (hnodup : (ids resources).Nodup) :
    order.Pairwise fun id later => ¬ TransGen (Needs resources) id later := by
  refine pairwise_of_forall_split fun pre id post heq later hlater hneeds => ?_
  have hnd : (pre ++ id :: post).Nodup := heq ▸ h.perm.nodup_iff.mpr hnodup
  exact (List.nodup_append.mp hnd).2.2 later (h.mem_of_transGen hneeds pre post heq) later
    (List.mem_cons_of_mem _ hlater) rfl

end Arranges

end Resource

/-! ## Positions -/

namespace Arrangement

variable {before : Nat → List Nat}

/-- Of ascending items the ready one that is found is the least that is ready. -/
theorem ready?_le {remaining : List Nat} (hasc : remaining.Pairwise (· < ·)) {i k : Nat}
    (h : ready? before remaining = some i) (hk : k ∈ remaining)
    (hfree : ∀ j ∈ before k, j ∉ remaining) : i ≤ k := by
  obtain ⟨_, front, back, hsplit, hfront⟩ := List.find?_eq_some_iff_append.mp h
  rw [hsplit, List.mem_append, List.mem_cons] at hk
  rcases hk with hk | rfl | hk
  · exfalso
    have hready : ((before k).all fun j => !remaining.contains j) = true := by
      rw [List.all_eq_true]
      intro j hj
      simpa using hfree j hj
    have := hfront k hk
    rw [hready] at this
    exact absurd this (by decide)
  · exact Nat.le_refl _
  · rw [hsplit] at hasc
    have := (List.pairwise_append.mp hasc).2.1
    exact Nat.le_of_lt ((List.pairwise_cons.mp this).1 k hk)

/-- **Placing the first ready item again and again is least** among the orders in which every item is
behind those of its prerequisites that remained. -/
theorem place_least : ∀ (steps : Nat) (remaining order : List Nat),
    remaining.Pairwise (· < ·) → (place before steps remaining).stuck = [] →
    order.Perm remaining →
    (∀ pre i post, order = pre ++ i :: post → ∀ j ∈ before i, j ∈ remaining → j ∈ pre) →
    order = (place before steps remaining).placed ∨
      List.Lex (· < ·) (place before steps remaining).placed order
  | 0, remaining, order, _, hstuck, hperm, _ => by
    rw [place] at hstuck ⊢
    subst hstuck
    exact .inl hperm.eq_nil
  | steps + 1, remaining, order, hasc, hstuck, hperm, hbehind => by
    rw [place] at hstuck ⊢
    cases hready : ready? before remaining with
    | none =>
      simp only [hready] at hstuck ⊢
      subst hstuck
      exact .inl hperm.eq_nil
    | some i =>
      simp only [hready] at hstuck ⊢
      have hnd : remaining.Nodup := hasc.imp fun h => Nat.ne_of_lt h
      have hi := (ready?_some hready).1
      cases order with
      | nil => exact absurd (hperm.mem_iff.mpr hi) List.not_mem_nil
      | cons first rest =>
        have hfirst : ∀ j ∈ before first, j ∉ remaining := by
          intro j hj hr
          exact List.not_mem_nil (hbehind [] first rest rfl j hj hr)
        have hle : i ≤ first := ready?_le hasc hready (hperm.mem_iff.mp (by simp)) hfirst
        rcases Nat.lt_or_eq_of_le hle with hlt | rfl
        · exact .inr (.rel hlt)
        · have hperm' : rest.Perm (remaining.erase i) := by
            have := hperm.erase i
            rwa [List.erase_cons_head] at this
          have hbehind' : ∀ pre k post, rest = pre ++ k :: post → ∀ j ∈ before k,
              j ∈ remaining.erase i → j ∈ pre := by
            intro pre k post heq j hj hr
            have hmem := hbehind (i :: pre) k post (by rw [heq]; rfl) j hj (List.mem_of_mem_erase hr)
            rcases List.mem_cons.mp hmem with rfl | hmem
            · exact absurd hr hnd.not_mem_erase
            · exact hmem
          rcases place_least steps (remaining.erase i) rest (hasc.sublist List.erase_sublist) hstuck
            hperm' hbehind' with hrest | hrest
          · exact .inl (by rw [hrest])
          · exact .inr (.cons hrest)

end Arrangement

/-- **An arrangement that leaves nothing is the least order.** -/
theorem arrange_least {before : Nat → List Nat} {n : Nat} {order : List Nat}
    (hstuck : (arrange before n).stuck = []) (h : Orders before n order) :
    order = (arrange before n).placed ∨ List.Lex (· < ·) (arrange before n).placed order :=
  Arrangement.place_least n (List.range n) order List.pairwise_lt_range hstuck h.perm
    fun pre i post heq j hj hr => h.behind pre i post heq j hj (List.mem_range.mp hr)

/-! ## Identifiers -/

section Positions

variable {ids : List String}

theorem idxOf_eq_iff (hnd : ids.Nodup) {id : String} (hid : id ∈ ids) {i : Nat} :
    ids.idxOf id = i ↔ ids[i]? = some id := by
  constructor
  · rintro rfl
    exact List.getElem?_idxOf hid
  · intro hi
    obtain ⟨hlt, rfl⟩ := List.getElem?_eq_some_iff.mp hi
    exact hnd.idxOf_getElem i hlt

theorem map_idxOf_self (hnd : ids.Nodup) : ids.map ids.idxOf = List.range ids.length := by
  refine List.ext_getElem (by simp) fun i h _ => ?_
  simp only [List.getElem_map, List.getElem_range]
  exact hnd.idxOf_getElem i (by simpa using h)

/-- The identifiers at the positions of some identifiers are those identifiers. -/
theorem map_getD_idxOf {order : List String} (h : ∀ id ∈ order, id ∈ ids) :
    (order.map ids.idxOf).map (fun i => ids.getD i "") = order := by
  rw [List.map_map]
  refine (List.map_congr_left fun id hid => ?_).trans (List.map_id order)
  rw [Function.comp_apply, List.getD_eq_getElem?_getD, List.getElem?_idxOf (h id hid)]
  rfl

end Positions

/-- An order of a collection is an order of its positions. -/
theorem Resource.Arranges.orders {resources : List Resource} (hnd : (ids resources).Nodup)
    {order : List String} (h : Arranges resources order) :
    Orders (Graph.entry (resources.map (Graph.needs (ids resources)))) resources.length
      (order.map (ids resources).idxOf) := by
  have hlen : (ids resources).length = resources.length := by simp [ids]
  constructor
  · have := h.perm.map (ids resources).idxOf
    rwa [map_idxOf_self hnd, hlen] at this
  · intro pre i post heq j hj _
    obtain ⟨front, rest, rfl, rfl, hrest⟩ := List.map_eq_append_iff.mp heq
    obtain ⟨id, back, rfl, rfl, _⟩ := List.map_eq_cons_iff.mp hrest
    have hid : id ∈ ids resources := h.perm.mem_iff.mp (by simp)
    obtain ⟨a, b, ha, hb, hab⟩ := (Graph.edge_iff hnd).mp hj
    rw [(idxOf_eq_iff hnd hid).mp rfl, Option.some.injEq] at ha
    subst ha
    exact List.mem_map.mpr ⟨b, h.behind front id back rfl b hab,
      (idxOf_eq_iff hnd hab.mem.2).mpr hb⟩

namespace Graph

variable {strict : Bool} {resources : List Resource} {g : Graph}

/-- The apply order holds the identifiers at the positions that have been placed. -/
theorem order_eq (h : build strict resources = .ok g) :
    g.order = (arrange (entry g.dependencies) g.size).placed.map
      fun i => (Resource.ids resources).getD i "" := by
  have hres : g.resources = resources := (build_inv h).2.2.2.1
  rw [order, ordered, pick, ids_filterMap_getElem?, hres]
  intro i hi
  exact (orders_placed h).mem_iff.mp hi

/-- The positions of the apply order are those that have been placed. -/
theorem map_idxOf_order (h : build strict resources = .ok g) :
    g.order.map (Resource.ids resources).idxOf =
      (arrange (entry g.dependencies) g.size).placed := by
  have hres : g.resources = resources := (build_inv h).2.2.2.1
  rw [order_eq h, List.map_map]
  refine (List.map_congr_left fun i hi => ?_).trans (List.map_id _)
  have hlt : i < (Resource.ids resources).length := by
    have := (orders_placed h).mem_iff.mp hi
    simpa [Resource.ids, size, hres] using this
  have hget := getElem?_of_getD hlt
  exact (idxOf_eq_iff (Accepted.of_build h).nodup (List.mem_of_getElem? hget)).mpr hget

/-- **The apply order holds every resource once, each behind all that it needs.** -/
theorem arranges_order (h : build strict resources = .ok g) :
    Resource.Arranges resources g.order := by
  have hnd := (Accepted.of_build h).nodup
  refine ⟨(ordered_perm h).map Resource.id, fun pre id post heq need hneed => ?_⟩
  have horders := orders_placed h
  rw [(build_inv h).2.2.2.2, size, (build_inv h).2.2.2.1] at horders
  have hpos := map_idxOf_order h
  rw [(build_inv h).2.2.2.2, size, (build_inv h).2.2.2.1, heq, List.map_append, List.map_cons]
    at hpos
  -- The position of what is needed is an edge away, so it has been placed before.
  have hedge : Walk.Edge (entry (resources.map (needs (Resource.ids resources))))
      ((Resource.ids resources).idxOf id) ((Resource.ids resources).idxOf need) :=
    (edge_iff hnd).mpr ⟨id, need, List.getElem?_idxOf hneed.mem.1, List.getElem?_idxOf hneed.mem.2,
      hneed⟩
  have hmem := horders.behind _ _ _ hpos.symm _ hedge (edge_below hnd _ _ hedge).2
  obtain ⟨other, hother, hsame⟩ := List.mem_map.mp hmem
  have hin : other ∈ Resource.ids resources := by
    refine ((ordered_perm h).map Resource.id).mem_iff.mp ?_
    show other ∈ g.order
    rw [heq]
    exact List.mem_append_left _ hother
  rwa [← (List.idxOf_inj hin).mp hsame]

/-- **The apply order is the least one**: every resource once, each behind all that it needs, and of
all such orders the one whose positions in the collection are least at the first difference.  The
destroy order is its reverse, each resource in front of all that it needs. -/
theorem order_least (h : build strict resources = .ok g) :
    Resource.Arranges resources g.order ∧
    (∀ order, Resource.Arranges resources order → order = g.order ∨
      List.Lex (· < ·) (g.order.map (Resource.ids resources).idxOf)
        (order.map (Resource.ids resources).idxOf)) ∧
    g.destroyOrder = g.order.reverse ∧
    ∀ pre id post, g.destroyOrder = pre ++ id :: post →
      ∀ need, Resource.Needs resources id need → need ∈ post := by
  have hacc := Accepted.of_build h
  have harr := arranges_order h
  have hreverse : g.destroyOrder = g.order.reverse := by
    rw [destroyOrder, destroyOrdered, order, Resource.ids, Resource.ids, List.map_reverse]
  refine ⟨harr, fun order horder => ?_, hreverse, fun pre id post heq need hneed => ?_⟩
  · have hstuck : (arrange (entry (resources.map (needs (Resource.ids resources))))
        resources.length).stuck = [] :=
      arrange_stuck_eq_nil ((acyclic_iff hacc.nodup).mpr hacc.acyclic)
    have hpos := map_idxOf_order h
    rw [(build_inv h).2.2.2.2, size, (build_inv h).2.2.2.1] at hpos
    rw [hpos]
    rcases arrange_least hstuck (horder.orders hacc.nodup) with heq | hlt
    · left
      rw [← map_getD_idxOf fun id hid => horder.perm.mem_iff.mp hid, heq, ← hpos,
        map_getD_idxOf fun id hid => harr.perm.mem_iff.mp hid]
    · exact .inr hlt
  · rw [hreverse, List.reverse_eq_iff] at heq
    rw [List.reverse_append, List.reverse_cons, List.append_assoc, List.singleton_append] at heq
    simpa using harr.behind _ _ _ heq need hneed

/-- A collection with a repeated need and a missing one, the last resource needed by all others. -/
def cluster : List Resource :=
  [⟨"app", .kubernetes, [], ["db", "cache", "db", "gone"], []⟩,
    ⟨"cache", .kubernetes, [], ["db"], []⟩, ⟨"mail", .kubernetes, [], ["db"], []⟩,
    ⟨"db", .kubernetes, [], [], []⟩]

/-- The graph of this collection. -/
def clusterGraph : Graph :=
  ⟨cluster, [[3, 1], [3], [3], []], [[], [0], [], [0, 1, 2]]⟩

/-- The application goes in front of the mail server, which is ready before it. -/
theorem order_least_cluster :
    build false cluster = .ok clusterGraph ∧
    clusterGraph.order = ["db", "cache", "app", "mail"] ∧
    ∀ order, Resource.Arranges cluster order → order = ["db", "cache", "app", "mail"] ∨
      List.Lex (· < ·) [3, 1, 0, 2] (order.map (Resource.ids cluster).idxOf) := by
  have hbuild : build false cluster = .ok clusterGraph := rfl
  have horder : clusterGraph.order = ["db", "cache", "app", "mail"] := by decide
  have hpos : clusterGraph.order.map (Resource.ids cluster).idxOf = [3, 1, 0, 2] := by decide
  obtain ⟨_, hleast, _⟩ := order_least hbuild
  rw [horder] at hleast
  refine ⟨hbuild, horder, fun order h => ?_⟩
  rw [← hpos, horder]
  exact hleast order h

end Graph

end Rollout
