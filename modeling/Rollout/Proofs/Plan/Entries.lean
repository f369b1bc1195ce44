import Rollout.Proofs.Plan.Swapped
import Rollout.Proofs.Value.Reordered

/-!
# One entry for each position

The entries of all levels of two objects stand in one map, under dotted paths.  Where two positions
are written with one path, the entry that is written last stands, and which one that is depends on
the order of the keys.

* `Differences.Separate` : no two positions where two objects differ share a path;
* `Differences.lookup_reordered` : at a clear path the order of keys does not count;
* `Differences.OneEach` : every position has an entry of its own, in whatever order the keys are;
* `Differences.entries_by_position` : that is so exactly if the positions are separate.
-/

set_option autoImplicit false

namespace Rollout

/-- Two differences whose values are the same but for the order of keys. -/
structure Difference.Reordered (d d' : Difference) : Prop where
  current : d.current.Reordered d'.current
  desired : d.desired.Reordered d'.desired

theorem Difference.Reordered.symm {d d' : Difference} (h : d.Reordered d') : d'.Reordered d :=
  ⟨h.current.symm, h.desired.symm⟩

namespace Differences

/-! ## Positions do not depend on the order of keys -/

theorem Plain.reordered {a a' b b' : Value} (h : Plain a b) (ha : a.Reordered a')
    (hb : b.Reordered b') : Plain a' b' := by
  rintro l r rfl rfl
  cases ha <;> cases hb <;> exact h _ _ rfl rfl

/-- Where two sides differ, the reordered sides do, by values that are reordered. -/
theorem Differs.reordered {a a' b b' : Option Value} {position : List String} {d : Difference}
    (h : Differs a b position d) (ha : Option.Rel Value.Reordered a a')
    (hb : Option.Rel Value.Reordered b b') (hda : Sided Value.Distinct a)
    (hdb : Sided Value.Distinct b) : ∃ d', Differs a' b' position d' ∧ d.Reordered d' := by
  induction h generalizing a' b' with
  | gone a =>
    cases ha with
    | some ha =>
      cases hb
      exact ⟨_, .gone _, ha, .refl _⟩
  | new b =>
    cases hb with
    | some hb =>
      cases ha
      exact ⟨_, .new _, .refl _, hb⟩
  | changed plain differ =>
    cases ha with
    | some ha =>
      cases hb with
      | some hb =>
        rw [ha.same_eq hb (hdb _ rfl)] at differ
        exact ⟨_, .changed (plain.reordered ha hb) differ, ha, hb⟩
  | inside key below ih =>
    cases ha with
    | some ha =>
      cases hb with
      | some hb =>
        obtain ⟨l', rfl, hl⟩ := ha.exists_object (hda _ rfl).1
        obtain ⟨r', rfl, hr⟩ := hb.exists_object (hdb _ rfl).1
        obtain ⟨d', hbelow, hd⟩ := ih (hl key) (hr key) (sided_distinct (hda _ rfl) key)
          (sided_distinct (hdb _ rfl) key)
        exact ⟨d', .inside key hbelow, hd⟩

section

variable {base p : String} {current current' desired desired' : Fields} {d : Difference}
  {position : List String}

theorem DifferAt.reordered (h : DifferAt current desired position d)
    (hc : (Value.object current).Reordered (.object current'))
    (hd : (Value.object desired).Reordered (.object desired'))
    (hcurrent : (Value.object current).Distinct) (hdesired : (Value.object desired).Distinct) :
    ∃ d', DifferAt current' desired' position d' ∧ d.Reordered d' :=
  Differs.reordered h (.some hc) (.some hd) (.some hcurrent) (.some hdesired)

/-- **No path depends on the order of keys.** -/
theorem mem_keys_reordered (hc : (Value.object current).Reordered (.object current'))
    (hd : (Value.object desired).Reordered (.object desired'))
    (hcurrent : (Value.object current).Distinct) (hdesired : (Value.object desired).Distinct) :
    p ∈ Assoc.keys (differences base current' desired') ↔
      ∃ position d, DifferAt current desired position d ∧ path base position = p := by
  rw [mem_keys_iff (hc.distinct hcurrent) (hd.distinct hdesired)]
  constructor
  · rintro ⟨position, d', hdiffer, hp⟩
    obtain ⟨d, hdiffer, _⟩ := hdiffer.reordered hc.symm hd.symm (hc.distinct hcurrent)
      (hd.distinct hdesired)
    exact ⟨position, d, hdiffer, hp⟩
  · rintro ⟨position, d, hdiffer, hp⟩
    obtain ⟨d', hdiffer, _⟩ := hdiffer.reordered hc hd hcurrent hdesired
    exact ⟨position, d', hdiffer, hp⟩

/-- **At a clear path the order of keys does not count.** -/
theorem lookup_reordered (hc : (Value.object current).Reordered (.object current'))
    (hd : (Value.object desired).Reordered (.object desired'))
    (hcurrent : (Value.object current).Distinct) (hdesired : (Value.object desired).Distinct)
    (hclear : Clear base current desired p) :
    Option.Rel Difference.Reordered (Assoc.lookup p (differences base current desired))
      (Assoc.lookup p (differences base current' desired')) := by
  have hkeys : p ∈ Assoc.keys (differences base current' desired') ↔
      p ∈ Assoc.keys (differences base current desired) :=
    (mem_keys_reordered hc hd hcurrent hdesired).trans (mem_keys_iff hcurrent hdesired).symm
  cases hfound : Assoc.lookup p (differences base current desired) with
  | none =>
    rw [Assoc.lookup_eq_none_iff.mpr (mt hkeys.mp (Assoc.lookup_eq_none_iff.mp hfound))]
    exact .none
  | some d =>
    obtain ⟨position, hdiffer, hp⟩ :=
      exists_differs_of_mem hcurrent hdesired (Assoc.mem_of_lookup hfound)
    obtain ⟨d', hfound'⟩ :=
      Assoc.mem_keys_iff.mp (hkeys.mpr (Assoc.mem_keys (Assoc.mem_of_lookup hfound)))
    obtain ⟨position', hdiffer', hp'⟩ := exists_differs_of_mem (hc.distinct hcurrent)
      (hd.distinct hdesired) (Assoc.mem_of_lookup hfound')
    -- seen in the old order, the other entry is that of a position with the same path
    obtain ⟨e, hback, he⟩ := hdiffer'.reordered hc.symm hd.symm (hc.distinct hcurrent)
      (hd.distinct hdesired)
    rw [hfound', hclear position position' d e hdiffer hback hp hp']
    exact .some he.symm

/-- At a clear path stand the values of its positions. -/
theorem lookup_of_clear (hcurrent : (Value.object current).Distinct)
    (hdesired : (Value.object desired).Distinct)
    (hclear : Clear base current desired (path base position))
    (h : DifferAt current desired position d) :
    Assoc.lookup (path base position) (differences base current desired) = some d := by
  have hkey : path base position ∈ Assoc.keys (differences base current desired) :=
    mem_keys_of_differs h
  obtain ⟨d', hfound⟩ := Assoc.mem_keys_iff.mp hkey
  obtain ⟨position', hdiffer', hp'⟩ :=
    exists_differs_of_mem hcurrent hdesired (Assoc.mem_of_lookup hfound)
  rw [hfound, hclear position position' d d' h hdiffer' rfl hp']

/-! ## Entries -/

mutual

theorem nodup_keys_ofValues : ∀ (path : String) (a b : Value),
    (Assoc.keys (ofValues path a b)).Nodup
  | path, .object l, .object r => by
    rw [ofValues]
    exact Assoc.nodup_keys_overlay _ (nodup_keys_ofCurrent (path ++ ".") l r)
  | path, .object l, .null | path, .object l, .bool _ | path, .object l, .int _
  | path, .object l, .double _ | path, .object l, .str _ | path, .object l, .list _
  | path, .null, b | path, .bool _, b | path, .int _, b | path, .double _, b | path, .str _, b
  | path, .list _, b => by
    rw [ofValues_of_plain (by rintro _ _ ⟨⟩ <;> nofun)]
    split <;> simp

theorem nodup_keys_ofCurrent : ∀ (base : String) (current : List (String × Value))
    (desired : Fields), (Assoc.keys (ofCurrent base current desired)).Nodup
  | base, [], desired => by simp [ofCurrent]
  | base, (key, a) :: rest, desired => by
    rw [ofCurrent_cons]
    refine Assoc.nodup_keys_overlay _ ?_
    cases Assoc.lookup key desired with
    | none => exact List.nodup_singleton _
    | some b => exact nodup_keys_ofValues (base ++ key) a b

end

/-- No path has two entries. -/
theorem nodup_keys_differences : (Assoc.keys (differences base current desired)).Nodup :=
  Assoc.nodup_keys_overlay _ (nodup_keys_ofCurrent base current desired)

/-! ## Separate positions -/

/-- No two positions where two objects differ are written with one path. -/
def Separate (base : String) (current desired : Fields) : Prop :=
  ∀ position position' d d', DifferAt current desired position d →
    DifferAt current desired position' d' → path base position = path base position' →
    position = position'

theorem Separate.clear (h : Separate base current desired) (p : String) :
    Clear base current desired p := by
  intro position position' d d' hdiffer hdiffer' hp hp'
  obtain rfl := h position position' d d' hdiffer hdiffer' (hp.trans hp'.symm)
  exact Differs.unique hdiffer hdiffer'

/-- Without dots in the keys all positions are separate. -/
theorem separate_of_dotless (hcurrent : Dotless (.object current))
    (hdesired : Dotless (.object desired)) : Separate base current desired := by
  intro position position' d d' hdiffer hdiffer' hp
  exact path_injective (Differs.dotless hdiffer (.some hcurrent) (.some hdesired))
    (Differs.dotless hdiffer' (.some hcurrent) (.some hdesired)) hdiffer.position_ne_nil
    hdiffer'.position_ne_nil hp

/-- Entries that are those of the positions where two objects differ, one for each, under its path and
with its two values. -/
def OfPositions (base : String) (current desired : Fields) (entries : Differences) : Prop :=
  ∃ positions : List (List String × Difference), positions.Nodup ∧
    (∀ position d, (position, d) ∈ positions ↔ DifferAt current desired position d) ∧
    entries.Perm (positions.map fun (position, d) => (path base position, d))

/-- Entries of positions leave no path to two of them. -/
theorem OfPositions.separate {entries : Differences}
    (h : OfPositions base current desired entries) (hnodup : (Assoc.keys entries).Nodup) :
    Separate base current desired := by
  obtain ⟨positions, _, hmem, hperm⟩ := h
  have hpaths : (positions.map fun entry => path base entry.1).Nodup := by
    have hkeys := (hperm.map Prod.fst).nodup_iff.mp hnodup
    rwa [List.map_map] at hkeys
  intro position position' d d' hdiffer hdiffer' hp
  have heq := List.inj_on_of_nodup_map hpaths ((hmem position d).mpr hdiffer)
    ((hmem position' d').mpr hdiffer') hp
  exact congrArg Prod.fst heq

/-- Separate positions all have their entries. -/
theorem Separate.ofPositions (h : Separate base current desired)
    (hcurrent : (Value.object current).Distinct) (hdesired : (Value.object desired).Distinct) :
    OfPositions base current desired (differences base current desired) := by
  have hcome : ∀ entry ∈ differences base current desired, ∃ position,
      DifferAt current desired position entry.2 ∧ path base position = entry.1 :=
    fun entry hentry => exists_differs_of_mem hcurrent hdesired hentry
  choose! positionOf hdiffer hpath using hcome
  have hback : ((differences base current desired).map fun entry =>
      (positionOf entry, entry.2)).map (fun (position, d) => (path base position, d)) =
      differences base current desired := by
    rw [List.map_map]
    refine (List.map_congr_left fun entry hentry => ?_).trans (List.map_id _)
    exact Prod.ext (hpath entry hentry) rfl
  refine ⟨_, ?_, fun position d => ⟨fun hmem => ?_, fun hd => ?_⟩, (List.Perm.of_eq hback).symm⟩
  · refine List.Nodup.of_map (fun (position, d) => (path base position, d)) ?_
    rw [hback]
    exact .of_map Prod.fst nodup_keys_differences
  · obtain ⟨entry, hentry, heq⟩ := List.mem_map.mp hmem
    obtain ⟨rfl, rfl⟩ := Prod.mk.inj heq
    exact hdiffer entry hentry
  · have hentry := Assoc.mem_of_lookup (lookup_of_clear hcurrent hdesired (h.clear _) hd)
    have hposition := h _ _ _ _ (hdiffer _ hentry) hd (hpath _ hentry)
    exact List.mem_map.mpr ⟨_, hentry, Prod.ext hposition rfl⟩

/-- **Every position has an entry of its own, in whatever order the keys are**: the entries are those
of the positions where the objects differ, and reordering either object keeps the path and the values
of every entry. -/
structure OneEach (base : String) (current desired : Fields) : Prop where
  entries : OfPositions base current desired (differences base current desired)
  reordered : ∀ current' desired' p, (Value.object current).Reordered (.object current') →
    (Value.object desired).Reordered (.object desired') →
    Option.Rel Difference.Reordered (Assoc.lookup p (differences base current desired))
      (Assoc.lookup p (differences base current' desired'))

theorem oneEach_iff (hcurrent : (Value.object current).Distinct)
    (hdesired : (Value.object desired).Distinct) :
    OneEach base current desired ↔ Separate base current desired := by
  constructor
  · exact fun h => h.entries.separate nodup_keys_differences
  · intro h
    exact ⟨h.ofPositions hcurrent hdesired, fun _ _ p hc hd =>
      lookup_reordered hc hd hcurrent hdesired (h.clear p)⟩

/-- **What the entries tell of the positions.**  Every position has an entry of its own, in whatever
order the keys are, exactly if no two positions share a path, so in particular if no key has a dot in
it.  In any case every path is there, in whatever order the keys are, and at a path whose positions
agree the values are there too. -/
theorem entries_by_position (hcurrent : (Value.object current).Distinct)
    (hdesired : (Value.object desired).Distinct) :
    (OneEach base current desired ↔ Separate base current desired) ∧
      (Dotless (.object current) → Dotless (.object desired) → Separate base current desired) ∧
      ∀ current' desired' p, (Value.object current).Reordered (.object current') →
        (Value.object desired).Reordered (.object desired') →
        (p ∈ Assoc.keys (differences base current' desired') ↔
          ∃ position d, DifferAt current desired position d ∧ path base position = p) ∧
        (Clear base current desired p →
          (∀ position d, DifferAt current desired position d → path base position = p →
            Assoc.lookup p (differences base current desired) = some d) ∧
          Option.Rel Difference.Reordered (Assoc.lookup p (differences base current desired))
            (Assoc.lookup p (differences base current' desired'))) := by
  refine ⟨oneEach_iff hcurrent hdesired, separate_of_dotless, fun current' desired' p hc hd =>
    ⟨mem_keys_reordered hc hd hcurrent hdesired, fun hclear => ⟨?_, ?_⟩⟩⟩
  · rintro position d hdiffer rfl
    exact lookup_of_clear hcurrent hdesired hclear hdiffer
  · exact lookup_reordered hc hd hcurrent hdesired hclear

end

/-! ## Labels with dots

A workload whose label with dots in it changes, and its number of replicas: no other position is
written as the label is.  And a workload with a tier and a label that is written like it: one of the
two entries is lost, and which one depends on the order of the labels. -/

namespace Labelled

def recorded : Fields :=
  [("labels", .object [("app.kubernetes.io/name", .str "web")]), ("replicas", .int 1)]

def desired : Fields :=
  [("replicas", .int 3), ("labels", .object [("app.kubernetes.io/name", .str "api")])]

theorem distinct_recorded : (Value.object recorded).Distinct := by
  simp [recorded, Value.Distinct, Value.DistinctFields]

theorem distinct_desired : (Value.object desired).Distinct := by
  simp [desired, Value.Distinct, Value.DistinctFields]

/-- The label and the number of replicas are the only positions that differ. -/
theorem position_cases {position : List String} {d : Difference}
    (h : DifferAt recorded desired position d) :
    position = ["labels", "app.kubernetes.io/name"] ∨ position = ["replicas"] := by
  cases h with
  | changed plain _ => exact absurd rfl (plain _ _ rfl)
  | inside key below =>
    by_cases hlabels : key = "labels"
    · subst hlabels
      cases below with
      | changed plain _ => exact absurd rfl (plain _ _ rfl)
      | inside name below =>
        by_cases hname : name = "app.kubernetes.io/name"
        · subst hname
          cases below
          exact .inl rfl
        · simp only [Assoc.lookup, if_neg (Ne.symm hname)] at below
          cases below
    · by_cases hreplicas : key = "replicas"
      · subst hreplicas
        cases below
        exact .inr rfl
      · simp only [recorded, desired, Assoc.lookup, if_neg (Ne.symm hlabels),
          if_neg (Ne.symm hreplicas)] at below
        cases below

theorem separate : Separate "" recorded desired := by
  intro position position' d d' hdiffer hdiffer' hp
  rcases position_cases hdiffer with rfl | rfl <;> rcases position_cases hdiffer' with rfl | rfl
  · rfl
  · exact absurd hp (by decide)
  · exact absurd hp (by decide)
  · rfl

end Labelled

/-- Both changes of the workload have their entries, with the dots of the label in the path. -/
theorem entries_by_position_labelled :
    (Value.object Labelled.recorded).Distinct ∧ (Value.object Labelled.desired).Distinct ∧
      OneEach "" Labelled.recorded Labelled.desired ∧
      differences "" Labelled.recorded Labelled.desired =
        [("labels.app.kubernetes.io/name", ⟨.str "web", .str "api"⟩),
          ("replicas", ⟨.int 1, .int 3⟩)] :=
  ⟨Labelled.distinct_recorded, Labelled.distinct_desired,
    (entries_by_position Labelled.distinct_recorded Labelled.distinct_desired).1.mpr
      Labelled.separate, by decide⟩

namespace Tiers

def recorded : Fields :=
  [("labels", .object [("app", .object [("tier", .int 1)]), ("app.tier", .int 1)])]

/-- The same labels in another order. -/
def reordered : Fields :=
  [("labels", .object [("app.tier", .int 1), ("app", .object [("tier", .int 1)])])]

def desired : Fields :=
  [("labels", .object [("app", .object [("tier", .int 2)]), ("app.tier", .int 3)])]

theorem distinct_recorded : (Value.object recorded).Distinct := by
  simp [recorded, Value.Distinct, Value.DistinctFields]

theorem distinct_desired : (Value.object desired).Distinct := by
  simp [desired, Value.Distinct, Value.DistinctFields]

theorem reordered_recorded : (Value.object recorded).Reordered (.object reordered) :=
  .object (.cons "labels" (.object (.cons "app" (.refl _) (.cons "app.tier" (.refl _) .nil))
    (.swap _ _ _)) .nil) (.refl _)

theorem plain_int (i : Int) (b : Value) : Plain (.int i) b := fun _ _ h => by cases h

theorem differAt_tier :
    DifferAt recorded desired ["labels", "app", "tier"] ⟨.int 1, .int 2⟩ :=
  .inside "labels" (.inside "app" (.inside "tier" (.changed (plain_int 1 _) (by decide))))

theorem differAt_label : DifferAt recorded desired ["labels", "app.tier"] ⟨.int 1, .int 3⟩ :=
  .inside "labels" (.inside "app.tier" (.changed (plain_int 1 _) (by decide)))

end Tiers

/-- Two labels differ and one entry is left, in one order of the labels this and in another that. -/
theorem entries_collide :
    (Value.object Tiers.recorded).Distinct ∧ (Value.object Tiers.desired).Distinct ∧
      DifferAt Tiers.recorded Tiers.desired ["labels", "app", "tier"] ⟨.int 1, .int 2⟩ ∧
      DifferAt Tiers.recorded Tiers.desired ["labels", "app.tier"] ⟨.int 1, .int 3⟩ ∧
      differences "" Tiers.recorded Tiers.desired = [("labels.app.tier", ⟨.int 1, .int 3⟩)] ∧
      (Value.object Tiers.recorded).Reordered (.object Tiers.reordered) ∧
      differences "" Tiers.reordered Tiers.desired = [("labels.app.tier", ⟨.int 1, .int 2⟩)] ∧
      ¬ OneEach "" Tiers.recorded Tiers.desired := by
  refine ⟨Tiers.distinct_recorded, Tiers.distinct_desired, Tiers.differAt_tier,
    Tiers.differAt_label, by decide, Tiers.reordered_recorded, by decide, fun h => ?_⟩
  have heq := h.entries.separate nodup_keys_differences _ _ _ _ Tiers.differAt_tier
    Tiers.differAt_label (by decide)
  exact absurd heq (by decide)

end Differences

end Rollout
