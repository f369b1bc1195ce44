import Rollout.Proofs.Graph.Accepted
import Rollout.Proofs.Graph.Search

/-!
# What building a graph answers

* `Resource.Repeats`, `Resource.Misses`, `Resource.Circle` : what is reported of a collection that
  has no graph;
* `Graph.build_cases` : the answer of every collection, in the order of the checks;
* `Graph.dependenciesAt_eq`, `dependentsAt_eq` : what the graph of a collection says about a resource;
* `Graph.build_answers` : a collection is refused exactly for what is wrong with it, or its graph
  holds its resources, what each needs, and what needs each.
-/

set_option autoImplicit false

namespace Rollout

open Relation

namespace Resource

/-- The first resource whose identifier an earlier one has already has this identifier. -/
def Repeats (resources : List Resource) (id : String) : Prop :=
  ∃ before r after, resources = before ++ r :: after ∧ r.id = id ∧ id ∈ ids before ∧
    (ids before).Nodup

/-- The first resource that needs a missing one, with its first entry that names no resource. -/
def Misses (resources : List Resource) (id missing : String) : Prop :=
  ∃ before r after, resources = before ++ r :: after ∧ r.id = id ∧
    (∀ s ∈ before, ∀ need ∈ s.dependsOn, need ∈ ids resources) ∧
    ∃ met rest, r.dependsOn = met ++ missing :: rest ∧ (∀ need ∈ met, need ∈ ids resources) ∧
      missing ∉ ids resources

/-- Resources each of which depends on the next one: the first is the last, and no other one occurs
twice. -/
structure Circle (resources : List Resource) (cycle : List String) : Prop where
  chain : cycle.IsChain (Needs resources)
  closed : ∃ id rest, cycle = id :: rest ++ [id] ∧ (id :: rest).Nodup

/-- Every needed resource is one of the collection. -/
def Closed (resources : List Resource) : Prop :=
  ∀ r ∈ resources, ∀ need ∈ r.dependsOn, need ∈ ids resources

theorem Repeats.not_nodup {resources : List Resource} {id : String} (h : Repeats resources id) :
    ¬ (ids resources).Nodup := by
  obtain ⟨before, r, after, rfl, rfl, hmem, _⟩ := h
  intro hnd
  rw [ids, List.map_append, List.map_cons, List.nodup_append] at hnd
  exact hnd.2.2 r.id hmem r.id (by simp) rfl

theorem Misses.not_closed {resources : List Resource} {id missing : String}
    (h : Misses resources id missing) : ¬ Closed resources := by
  obtain ⟨before, r, after, hsplit, _, _, met, rest, hneeds, _, hout⟩ := h
  intro hclosed
  exact hout (hclosed r (by simp [hsplit]) missing (by simp [hneeds]))

/-- A circle leads from a resource to itself. -/
theorem Circle.transGen {resources : List Resource} {cycle : List String}
    (h : Circle resources cycle) : ∃ id, TransGen (Needs resources) id id := by
  obtain ⟨id, rest, rfl, _⟩ := h.closed
  exact ⟨id, Walk.transGen_of_isChain rest id id h.chain⟩

end Resource

namespace Graph

/-- What the graph of a collection says: its resources, for each what it needs, every one once and in
the order of its `dependsOn`, and what needs it, in the order of the collection. -/
structure Describes (g : Graph) (resources : List Resource) : Prop where
  holds : g.resources = resources
  dependencies : ∀ i r, resources[i]? = some r → g.dependenciesAt i =
    (r.dependsOn.filter fun need => (Resource.ids resources).contains need).eraseDups
  dependents : ∀ i r, resources[i]? = some r → g.dependentsAt i =
    Resource.ids (resources.filter fun s => s.dependsOn.contains r.id)

/-! ## The checks -/

theorem repeated?_eq_some_iff {id : String} : ∀ (rest seen : List String),
    repeated? seen rest = some id ↔
      ∃ pre post, rest = pre ++ id :: post ∧ (id ∈ pre ∨ id ∈ seen) ∧ pre.Nodup ∧
        ∀ x ∈ pre, x ∉ seen
  | [], seen => by simp [repeated?]
  | first :: rest, seen => by
    rw [repeated?]
    by_cases hseen : first ∈ seen
    · rw [if_pos (by simpa using hseen)]
      constructor
      · rintro ⟨⟩
        exact ⟨[], rest, rfl, .inr hseen, List.nodup_nil, by simp⟩
      · rintro ⟨pre, post, heq, _, _, hfresh⟩
        cases pre with
        | nil => simp only [List.nil_append, List.cons.injEq] at heq; rw [heq.1]
        | cons p pre =>
          simp only [List.cons_append, List.cons.injEq] at heq
          exact absurd (heq.1 ▸ hseen) (hfresh p (by simp))
    · rw [if_neg (by simpa using hseen), repeated?_eq_some_iff rest (first :: seen)]
      constructor
      · rintro ⟨pre, post, rfl, hmem, hnd, hfresh⟩
        refine ⟨first :: pre, post, rfl, ?_, ?_, ?_⟩
        · rcases hmem with hmem | hmem
          · exact .inl (List.mem_cons_of_mem _ hmem)
          · rcases List.mem_cons.mp hmem with rfl | hmem
            · exact .inl (by simp)
            · exact .inr hmem
        · refine List.nodup_cons.mpr ⟨fun hm => hfresh first hm (by simp), hnd⟩
        · intro x hx
          rcases List.mem_cons.mp hx with rfl | hx
          · exact hseen
          · exact fun hm => hfresh x hx (List.mem_cons_of_mem _ hm)
      · rintro ⟨pre, post, heq, hmem, hnd, hfresh⟩
        cases pre with
        | nil =>
          simp only [List.nil_append, List.cons.injEq] at heq
          have hin : id ∈ seen := by simpa using hmem
          exact absurd (heq.1 ▸ hin) hseen
        | cons p pre =>
          simp only [List.cons_append, List.cons.injEq] at heq
          obtain ⟨rfl, rfl⟩ := heq
          obtain ⟨hp, hnd⟩ := List.nodup_cons.mp hnd
          refine ⟨pre, post, rfl, ?_, hnd, ?_⟩
          · rcases hmem with hmem | hmem
            · rcases List.mem_cons.mp hmem with rfl | hmem
              · exact .inr (by simp)
              · exact .inl hmem
            · exact .inr (List.mem_cons_of_mem _ hmem)
          · intro x hx hm
            rcases List.mem_cons.mp hm with rfl | hm
            · exact hp hx
            · exact hfresh x (List.mem_cons_of_mem _ hx) hm

/-- The repeated identifier that is reported is that of the first resource that repeats one. -/
theorem repeated?_ids_iff {resources : List Resource} {id : String} :
    repeated? [] (Resource.ids resources) = some id ↔ Resource.Repeats resources id := by
  rw [repeated?_eq_some_iff]
  constructor
  · rintro ⟨pre, post, heq, hmem, hnd, _⟩
    obtain ⟨before, rest, rfl, rfl, hrest⟩ := List.map_eq_append_iff.mp heq
    obtain ⟨r, after, rfl, rfl, _⟩ := List.map_eq_cons_iff.mp hrest
    exact ⟨before, r, after, rfl, rfl, by simpa [Resource.ids] using hmem, hnd⟩
  · rintro ⟨before, r, after, rfl, rfl, hmem, hnd⟩
    exact ⟨Resource.ids before, Resource.ids after, by simp [Resource.ids], .inl hmem, hnd,
      by simp⟩

/-- The missing resource that is reported is the first one of the first resource that needs one. -/
theorem dangling?_ids_iff {resources : List Resource} {id missing : String} :
    dangling? (Resource.ids resources) resources = some (id, missing) ↔
      Resource.Misses resources id missing := by
  unfold dangling?
  rw [List.findSome?_eq_some_iff]
  constructor
  · rintro ⟨before, r, after, heq, hr, hbefore⟩
    obtain ⟨need, hfind, hneed⟩ := Option.map_eq_some_iff.mp hr
    simp only [Prod.mk.injEq] at hneed
    obtain ⟨hid, rfl⟩ := hneed
    obtain ⟨hout, met, rest, hneeds, hmet⟩ := List.find?_eq_some_iff_append.mp hfind
    refine ⟨before, r, after, heq, hid, ?_, met, rest, hneeds, ?_, by simpa using hout⟩
    · intro s hs need hneed
      have := Option.map_eq_none_iff.mp (hbefore s hs)
      simpa using List.find?_eq_none.mp this need hneed
    · intro need hneed
      simpa using hmet need hneed
  · rintro ⟨before, r, after, heq, hid, hbefore, met, rest, hneeds, hmet, hout⟩
    refine ⟨before, r, after, heq, ?_, fun s hs => ?_⟩
    · rw [List.find?_eq_some_iff_append.mpr
        ⟨by simpa using hout, met, rest, hneeds, fun need hneed => by simpa using hmet need hneed⟩]
      simp [hid]
    · rw [Option.map_eq_none_iff, List.find?_eq_none]
      intro need hneed
      simpa using hbefore s hs need hneed

/-- A closed path of positions is a circle of resources. -/
theorem circle_of_closedPath {resources : List Resource} (hnd : (Resource.ids resources).Nodup)
    {cycle : List Nat}
    (h : Walk.ClosedPath (entry (resources.map (needs (Resource.ids resources)))) cycle) :
    Resource.Circle resources (cycle.map fun i => (Resource.ids resources).getD i "") := by
  have hedge : ∀ i j, Walk.Edge (entry (resources.map (needs (Resource.ids resources)))) i j →
      Resource.Needs resources ((Resource.ids resources).getD i "")
        ((Resource.ids resources).getD j "") := by
    intro i j hij
    obtain ⟨a, b, ha, hb, hab⟩ := (edge_iff hnd).mp hij
    rw [List.getD_eq_getElem?_getD, List.getD_eq_getElem?_getD, ha, hb]
    exact hab
  obtain ⟨i, rest, rfl, hrest⟩ := h.closed
  refine ⟨(List.isChain_map _).mpr (h.chain.imp hedge), (Resource.ids resources).getD i "",
    rest.map fun i => (Resource.ids resources).getD i "", by simp, ?_⟩
  -- Every node of a closed path has an edge, so its position is one of the collection.
  have hbelow : ∀ j ∈ i :: rest, j < (Resource.ids resources).length := by
    intro j hj
    obtain ⟨pre, post, hsplit⟩ := List.append_of_mem hj
    have hchain := h.chain
    rw [hsplit, List.append_assoc, List.cons_append] at hchain
    obtain ⟨k, hk⟩ : ∃ k, Walk.Edge (entry (resources.map (needs (Resource.ids resources)))) j k := by
      cases post with
      | nil => exact ⟨i, by simpa using hchain.right_of_append⟩
      | cons k post => exact ⟨k, (List.isChain_cons_cons.mp hchain.right_of_append).1⟩
    have := (edge_below hnd j k hk).1
    simpa [Resource.ids] using this
  rw [← List.map_cons (f := fun i => (Resource.ids resources).getD i "")]
  refine hrest.map_on fun a ha b hb hab => ?_
  have hpa := getElem?_of_getD (hbelow a ha)
  have hpb := getElem?_of_getD (hbelow b hb)
  rw [hab] at hpa
  have hia := (position?_eq_some_iff hnd).mpr hpa
  rw [(position?_eq_some_iff hnd).mpr hpb] at hia
  exact (Option.some.inj hia).symm

/-! ## What a graph says -/

theorem eraseDups_map {α β : Type} [DecidableEq α] [DecidableEq β] {f : α → β} :
    ∀ (count : Nat) (l : List α), l.length ≤ count → (∀ a ∈ l, ∀ b ∈ l, f a = f b → a = b) →
      (l.map f).eraseDups = l.eraseDups.map f
  | _, [], _, _ => rfl
  | count + 1, a :: l, hlen, hinj => by
    rw [List.map_cons, List.eraseDups_cons, List.eraseDups_cons, List.map_cons, List.filter_map]
    have hfilter : l.filter ((fun b => !b == f a) ∘ f) = l.filter fun b => !b == a := by
      refine List.filter_congr fun b hb => ?_
      by_cases hba : b = a
      · simp [hba]
      · have : f b ≠ f a := fun h => hba (hinj b (List.mem_cons_of_mem _ hb) a (by simp) h)
        simp [hba, this]
    rw [hfilter, eraseDups_map count]
    · have := List.length_filter_le (fun b => !b == a) l
      rw [List.length_cons] at hlen
      omega
    · intro x hx y hy
      exact hinj x (List.mem_cons_of_mem _ (List.mem_filter.mp hx).1) y
        (List.mem_cons_of_mem _ (List.mem_filter.mp hy).1)

/-- The identifier at the position of an identifier is that identifier. -/
theorem map_positions {ids : List String} (hnd : ids.Nodup) : ∀ entries : List String,
    (entries.filterMap (position? ids)).map (fun i => ids.getD i "") =
      entries.filter fun need => ids.contains need
  | [] => rfl
  | need :: entries => by
    rw [List.filterMap_cons, List.filter_cons]
    cases hpos : position? ids need with
    | none =>
      have hout : ids.contains need = false := by
        have := List.findIdx?_eq_none_iff.mp hpos
        rw [← Bool.not_eq_true, List.contains_iff_mem]
        intro hmem
        simpa using this need hmem
      rw [if_neg (by simp only [hout, Bool.false_eq_true, not_false_iff])]
      exact map_positions hnd entries
    | some i =>
      have hi := (position?_eq_some_iff hnd).mp hpos
      have hin : ids.contains need = true := List.contains_iff_mem.mpr (List.mem_of_getElem? hi)
      rw [if_pos hin, List.map_cons, map_positions hnd entries, List.getD_eq_getElem?_getD, hi,
        Option.getD_some]

/-- A resource needs the resources that it names, each once. -/
theorem dependenciesAt_eq {g : Graph} {resources : List Resource}
    (hnd : (Resource.ids resources).Nodup) (hres : g.resources = resources)
    (hdeps : g.dependencies = resources.map (needs (Resource.ids resources))) {i : Nat}
    {r : Resource} (hi : resources[i]? = some r) :
    g.dependenciesAt i =
      (r.dependsOn.filter fun need => (Resource.ids resources).contains need).eraseDups := by
  have hentry : entry g.dependencies i = needs (Resource.ids resources) r := by
    rw [entry, hdeps, List.getD_eq_getElem?_getD, List.getElem?_map, hi]
    rfl
  have hlen : (Resource.ids resources).length = resources.length := by simp [Resource.ids]
  have hbelow : ∀ j ∈ r.dependsOn.filterMap (position? (Resource.ids resources)),
      (Resource.ids resources)[j]? = some ((Resource.ids resources).getD j "") := by
    intro j hj
    obtain ⟨need, _, hpos⟩ := List.mem_filterMap.mp hj
    have hget := (position?_eq_some_iff hnd).mp hpos
    exact getElem?_of_getD (List.getElem?_eq_some_iff.mp hget).1
  rw [dependenciesAt, pick, hres, hentry, needs, ids_filterMap_getElem?, ← eraseDups_map _ _ le_rfl,
    map_positions hnd]
  · intro j hj k hk hjk
    have hpj := (position?_eq_some_iff hnd).mpr (hbelow j hj)
    rw [hjk, (position?_eq_some_iff hnd).mpr (hbelow k hk)] at hpj
    exact (Option.some.inj hpj).symm
  · intro j hj
    have := hbelow j (List.mem_eraseDups.mp hj)
    exact hlen ▸ (List.getElem?_eq_some_iff.mp this).1

theorem filterMap_filter_range {α : Type} (l : List α) {p : Nat → Bool} {q : α → Bool}
    (h : ∀ (i : Nat) a, l[i]? = some a → p i = q a) :
    ((List.range l.length).filter p).filterMap (fun i => l[i]?) = l.filter q := by
  rw [List.filterMap_filter]
  conv_rhs => rw [← filterMap_getElem?_range l, List.filter_filterMap]
  refine List.filterMap_congr fun i _ => ?_
  cases hi : l[i]? with
  | none => simp
  | some a => simp [h i a hi, Option.filter]

/-- A resource is needed by the resources that name it. -/
theorem dependentsAt_eq {g : Graph} {resources : List Resource}
    (hnd : (Resource.ids resources).Nodup) (hres : g.resources = resources)
    (hdependents : g.dependents = (List.range resources.length).map
      (inverse (resources.map (needs (Resource.ids resources))))) {i : Nat} {r : Resource}
    (hi : resources[i]? = some r) :
    g.dependentsAt i = Resource.ids (resources.filter fun s => s.dependsOn.contains r.id) := by
  have hlt : i < resources.length := (List.getElem?_eq_some_iff.mp hi).1
  have hentry : entry g.dependents i =
      inverse (resources.map (needs (Resource.ids resources))) i := by
    rw [entry, hdependents, List.getD_eq_getElem?_getD, List.getElem?_map,
      List.getElem?_range hlt]
    rfl
  have hid : ∀ {k : Nat} {s : Resource}, resources[k]? = some s →
      (Resource.ids resources)[k]? = some s.id := by
    intro k s hk
    rw [Resource.ids, List.getElem?_map, hk]
    rfl
  rw [dependentsAt, pick, hres, hentry, inverse, List.length_map]
  congr 1
  refine filterMap_filter_range resources fun k s hk => ?_
  rw [Bool.eq_iff_iff, List.contains_iff_mem, List.contains_iff_mem]
  constructor
  · intro hmem
    obtain ⟨a, b, ha, hb, t, ht, hta, hneed, _⟩ := (edge_iff hnd).mp hmem
    rw [hid hk, Option.some.injEq] at ha
    rw [hid hi, Option.some.injEq] at hb
    have : t = s := Resource.eq_of_id_eq hnd ht (List.mem_of_getElem? hk) (hta.trans ha.symm)
    rw [← this, hb]
    exact hneed
  · intro hneed
    exact (edge_iff hnd).mpr ⟨s.id, r.id, hid hk, hid hi, s, List.mem_of_getElem? hk, rfl, hneed,
      Resource.mem_ids_of_mem (List.mem_of_getElem? hi)⟩

/-! ## The answer -/

/-- **The answer of every collection**, in the order of the checks. -/
theorem build_cases (strict : Bool) (resources : List Resource) :
    (∃ id, build strict resources = .error (.duplicate id) ∧ Resource.Repeats resources id) ∨
    ((Resource.ids resources).Nodup ∧ strict = true ∧ ∃ id missing,
      build strict resources = .error (.dangling id missing) ∧
        Resource.Misses resources id missing) ∨
    ((Resource.ids resources).Nodup ∧ (strict = true → Resource.Closed resources) ∧ ∃ cycle,
      build strict resources = .error (.cycle cycle) ∧ Resource.Circle resources cycle) ∨
    (Resource.Accepted strict resources ∧ ∃ g,
      build strict resources = .ok g ∧ g.Describes resources) := by
  cases hrep : repeated? [] (Resource.ids resources) with
  | some id =>
    have hbuild : build strict resources = .error (.duplicate id) := by
      simp only [build, hrep]
    exact .inl ⟨id, hbuild, repeated?_ids_iff.mp hrep⟩
  | none =>
    have hnd := ((repeated?_eq_none_iff _ _).mp hrep).1
    cases hdang : (if strict then dangling? (Resource.ids resources) resources else none) with
    | some names =>
      obtain ⟨id, missing⟩ := names
      have hbuild : build strict resources = .error (.dangling id missing) := by
        simp only [build, hrep, hdang]
      cases strict with
      | false => simp at hdang
      | true =>
        rw [if_pos rfl] at hdang
        exact .inr (.inl ⟨hnd, rfl, id, missing, hbuild, dangling?_ids_iff.mp hdang⟩)
    | none =>
      have hclosed : strict = true → Resource.Closed resources := by
        rintro rfl
        exact (dangling?_eq_none_iff _ _).mp (by simpa using hdang)
      have hspec := findCycle_spec (edge_below hnd)
      cases hcyc : findCycle (entry (resources.map (needs (Resource.ids resources))))
          resources.length with
      | some cycle =>
        rw [hcyc] at hspec
        have hbuild : build strict resources = .error
            (.cycle (cycle.map fun i => (Resource.ids resources).getD i "")) := by
          simp only [build, hrep, hdang, hcyc]
        exact .inr (.inr (.inl ⟨hnd, hclosed, _, hbuild, circle_of_closedPath hnd hspec⟩))
      | none =>
        rw [hcyc] at hspec
        have hbuild : build strict resources = .ok ⟨resources,
            resources.map (needs (Resource.ids resources)),
            (List.range resources.length).map
              (inverse (resources.map (needs (Resource.ids resources))))⟩ := by
          simp only [build, hrep, hdang, hcyc]
        exact .inr (.inr (.inr ⟨⟨hnd, hclosed, (acyclic_iff hnd).mp hspec⟩, _, hbuild, rfl,
          fun _ _ hi => dependenciesAt_eq hnd rfl rfl hi,
          fun _ _ hi => dependentsAt_eq hnd rfl rfl hi⟩))

/-- The edges of all positions together. -/
theorem flatMap_entry (adjacency : List (List Nat)) :
    (List.range adjacency.length).flatMap (entry adjacency) = adjacency.flatten := by
  have hmap : (List.range adjacency.length).map (entry adjacency) = adjacency := by
    refine List.ext_getElem? fun i => ?_
    rw [List.getElem?_map]
    by_cases hi : i < adjacency.length
    · rw [List.getElem?_range hi, Option.map_some, entry, List.getD_eq_getElem?_getD,
        List.getElem?_eq_getElem hi, Option.getD_some]
    · rw [List.getElem?_eq_none (by simpa using hi), List.getElem?_eq_none (by simpa using hi),
        Option.map_none]
  rw [List.flatMap_def, hmap]

/-- The edges of a collection lead to its positions. -/
theorem needs_below (resources : List Resource) :
    ∀ i < resources.length, ∀ j ∈ entry (resources.map (needs (Resource.ids resources))) i,
      j < resources.length := by
  intro i hi j hj
  rw [entry, List.getD_eq_getElem?_getD, List.getElem?_map, List.getElem?_eq_getElem hi,
    Option.map_some, Option.getD_some, needs, List.mem_eraseDups, List.mem_filterMap] at hj
  obtain ⟨need, _, hpos⟩ := hj
  have := (List.findIdx?_eq_some_iff_getElem.mp hpos).1
  simpa [Resource.ids] using this

variable {strict : Bool} {resources : List Resource}

/-- A repeated identifier is reported exactly when there is one. -/
theorem exists_duplicate_iff : (∃ id, build strict resources = .error (.duplicate id)) ↔
    ¬ (Resource.ids resources).Nodup := by
  rcases build_cases strict resources with ⟨id, hb, hrep⟩ | ⟨hnd, _, _, _, hb, _⟩ |
    ⟨hnd, _, _, hb, _⟩ | ⟨hacc, _, hb, _⟩
  · exact ⟨fun _ => hrep.not_nodup, fun _ => ⟨id, hb⟩⟩
  · simp [hb, hnd]
  · simp [hb, hnd]
  · simp [hb, hacc.nodup]

/-- A missing resource is reported exactly when that is asked and one is missing, unless an
identifier is repeated. -/
theorem exists_dangling_iff :
    (∃ id missing, build strict resources = .error (.dangling id missing)) ↔
      (Resource.ids resources).Nodup ∧ strict = true ∧ ¬ Resource.Closed resources := by
  rcases build_cases strict resources with ⟨_, hb, hrep⟩ | ⟨hnd, hstrict, id, missing, hb, hmiss⟩ |
    ⟨_, hclosed, _, hb, _⟩ | ⟨hacc, _, hb, _⟩
  · simp [hb, hrep.not_nodup]
  · exact ⟨fun _ => ⟨hnd, hstrict, hmiss.not_closed⟩, fun _ => ⟨id, missing, hb⟩⟩
  · simpa [hb] using fun _ => hclosed
  · simpa [hb, Resource.Closed] using fun _ => hacc.present

/-- A circle is reported exactly when there is one, unless something else is wrong. -/
theorem exists_cycle_iff : (∃ cycle, build strict resources = .error (.cycle cycle)) ↔
    (Resource.ids resources).Nodup ∧ (strict = true → Resource.Closed resources) ∧
      ∃ id, TransGen (Resource.Needs resources) id id := by
  rcases build_cases strict resources with ⟨_, hb, hrep⟩ | ⟨_, hstrict, _, _, hb, hmiss⟩ |
    ⟨hnd, hclosed, cycle, hb, hcircle⟩ | ⟨hacc, _, hb, _⟩
  · simp [hb, hrep.not_nodup]
  · subst hstrict
    simp [hb, hmiss.not_closed]
  · exact ⟨fun _ => ⟨hnd, hclosed, hcircle.transGen⟩, fun _ => ⟨cycle, hb⟩⟩
  · simp [hb, hacc.acyclic]

/-- What is reported is there, and a graph describes its collection. -/
theorem build_sound (strict : Bool) (resources : List Resource) :
    (∀ id, build strict resources = .error (.duplicate id) → Resource.Repeats resources id) ∧
    (∀ id missing, build strict resources = .error (.dangling id missing) →
      Resource.Misses resources id missing) ∧
    (∀ cycle, build strict resources = .error (.cycle cycle) → Resource.Circle resources cycle) ∧
    ∀ g, build strict resources = .ok g → g.Describes resources := by
  rcases build_cases strict resources with ⟨_, hb, hrep⟩ | ⟨_, _, _, _, hb, hmiss⟩ |
    ⟨_, _, _, hb, hcircle⟩ | ⟨_, _, hb, hdesc⟩
  · simpa [hb] using hrep
  · simpa [hb] using hmiss
  · simpa [hb] using hcircle
  · simpa [hb] using hdesc

/-- The search for a closed path in a collection ends. -/
theorem search_ends (resources : List Resource) :
    Search.turns (entry (resources.map (needs (Resource.ids resources)))) resources.length
        (2 * resources.length +
          (resources.map (needs (Resource.ids resources))).flatten.length + 1) Search.start =
      some (findCycle (entry (resources.map (needs (Resource.ids resources))))
        resources.length) := by
  have hends := Search.turns_start (needs_below resources)
  have hedges := flatMap_entry (resources.map (needs (Resource.ids resources)))
  rw [List.length_map] at hedges
  rwa [hedges] at hends

/-- **A collection is refused exactly for what is wrong with it**, in the order of the checks, and
what is reported is there; otherwise its graph holds its resources, what each needs, and what needs
each.  The search for a closed path ends on every collection, after at most two turns for each
resource, one for each edge, and the one of its answer. -/
theorem build_answers (strict : Bool) (resources : List Resource) :
    ((∃ id, build strict resources = .error (.duplicate id)) ↔
      ¬ (Resource.ids resources).Nodup) ∧
    (∀ id, build strict resources = .error (.duplicate id) → Resource.Repeats resources id) ∧
    ((∃ id missing, build strict resources = .error (.dangling id missing)) ↔
      (Resource.ids resources).Nodup ∧ strict = true ∧ ¬ Resource.Closed resources) ∧
    (∀ id missing, build strict resources = .error (.dangling id missing) →
      Resource.Misses resources id missing) ∧
    ((∃ cycle, build strict resources = .error (.cycle cycle)) ↔
      (Resource.ids resources).Nodup ∧ (strict = true → Resource.Closed resources) ∧
        ∃ id, TransGen (Resource.Needs resources) id id) ∧
    (∀ cycle, build strict resources = .error (.cycle cycle) →
      Resource.Circle resources cycle) ∧
    ((∃ g, build strict resources = .ok g) ↔ Resource.Accepted strict resources) ∧
    (∀ g, build strict resources = .ok g → g.Describes resources) ∧
    Search.turns (entry (resources.map (needs (Resource.ids resources)))) resources.length
        (2 * resources.length +
          (resources.map (needs (Resource.ids resources))).flatten.length + 1) Search.start =
      some (findCycle (entry (resources.map (needs (Resource.ids resources))))
        resources.length) := by
  obtain ⟨hduplicate, hdangling, hcycle, hgraph⟩ := build_sound strict resources
  exact ⟨exists_duplicate_iff, hduplicate, exists_dangling_iff, hdangling, exists_cycle_iff, hcycle,
    build_isOk_iff strict resources, hgraph, search_ends resources⟩

/-- The circle that is reported begins where the search has met it again, not at its root. -/
example : build true [⟨"app", .kubernetes, [], ["db"], []⟩, ⟨"db", .kubernetes, [], ["disk"], []⟩,
    ⟨"disk", .kubernetes, [], ["disk", "db"], []⟩] = .error (.cycle ["disk", "disk"]) := rfl

end Graph

end Rollout
