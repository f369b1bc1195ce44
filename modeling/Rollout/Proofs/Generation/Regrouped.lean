import Rollout.Generation.Listing
import Rollout.Generation.Patch
import Rollout.Proofs.Generation.Stages
import Rollout.Proofs.Generation.Workbench

/-!
# Resources in other groups

A patcher may put resources into other groups as it likes, into several or into none, change them and
make new ones.  All of that is done by acts of three sorts, and none of them takes a resource for
another: those that were generated are found in the end where they were, and as what became of them.

* `Act`, `Workbench.Takes` : what can be done at a workbench, one act after the other;
* `Workbench.Takes.item?_eq` : what becomes of each resource;
* `Workbench.leads_iff` : what acts can do, which is all that leaves the resources where they are;
* `Workbench.leads_edit`, `ScriptStep.acts`, `Patch.acts` : edits, scripts and patches act;
* `Pipeline.run_regrouped` : what a pipeline produces when its patchers act.
-/

set_option autoImplicit false

namespace Rollout

/-! ## Acts -/

/-- What can be done at a workbench. -/
inductive Act where
  /-- Puts resources into other groups. -/
  | regroup (groups : List (String × List Nat))
  /-- Makes a new resource, which is in no group yet. -/
  | make (r : Resource)
  /-- Changes the resource with a label. -/
  | change (label : Nat) (f : Resource → Resource)

namespace Act

/-- The workbench after an act. -/
def carryOut (b : Workbench) : Act → Workbench
  | .regroup groups => { b with groups }
  | .make r => { b with items := b.items ++ [r] }
  | .change label f => b.modify label f

/-- An act is about resources that there are. -/
def Fits (b : Workbench) : Act → Prop
  | .regroup groups => ∀ label ∈ groups.flatMap Prod.snd, label < b.items.length
  | .make _ => True
  | .change label _ => label < b.items.length

/-- The resources that acts make. -/
def made : List Act → List Resource
  | [] => []
  | .make r :: acts => r :: made acts
  | .regroup _ :: acts | .change _ _ :: acts => made acts

/-- What becomes of the resource with a label. -/
def outcome (label : Nat) : List Act → Resource → Resource
  | [], r => r
  | .change l f :: acts, r => outcome label acts (if l = label then f r else r)
  | .regroup _ :: acts, r | .make _ :: acts, r => outcome label acts r

/-- The resource with a label, generated or made, as it is in the end. -/
def object? (generated : List Resource) (acts : List Act) (label : Nat) : Option Resource :=
  (generated ++ made acts)[label]?.map (outcome label acts)

end Act

namespace Workbench

variable {b b' : Workbench} {acts : List Act} {act : Act} {label : Nat} {key : String}
  {labels : List Nat}

/-- All groups are of resources that there are. -/
def Sound (b : Workbench) : Prop := ∀ label ∈ b.labels, label < b.items.length

theorem sound_ofResources (resources : List Resource) : (ofResources resources).Sound :=
  fun _ => (whole_ofResources resources).mem_labels_iff.mp

/-- No resource in a group is missing from what is left in the end. -/
theorem map_some_resources (h : b.Sound) : b.resources.map some =
    ((List.range b.generated).filter b.isKept ++ b.labels.filter fun l => b.generated ≤ l).map
      fun l => b.item? l := by
  rw [resources, List.map_filterMap_some_eq_filter_map_isSome, List.filter_eq_self]
  intro object hobject
  obtain ⟨label, hlabel, rfl⟩ := List.mem_map.mp hobject
  have hgroup : label ∈ b.labels := by
    rcases List.mem_append.mp hlabel with hkept | hadded
    · exact List.contains_iff_mem.mp (List.mem_filter.mp hkept).2
    · exact (List.mem_filter.mp hadded).1
  rw [item?, List.getElem?_eq_getElem (h label hgroup)]
  rfl

/-- Acts in a row, each of them about resources that there are, lead from one workbench to another. -/
inductive Takes : List Act → Workbench → Workbench → Prop
  | nil (b : Workbench) : Takes [] b b
  | cons {act : Act} {acts : List Act} {b last : Workbench} (fits : act.Fits b)
      (rest : Takes acts (act.carryOut b) last) : Takes (act :: acts) b last

/-- What stands in the first of two lists is changed there. -/
theorem modify_append {α : Type} {xs : List α} {i : Nat} (h : i < xs.length) (f : α → α)
    (ys : List α) : (xs ++ ys).modify i f = xs.modify i f ++ ys := by
  ext1 j
  rw [List.getElem?_modify, List.getElem?_append, List.getElem?_append, List.length_modify,
    List.getElem?_modify]
  by_cases hj : j < xs.length
  · rw [if_pos hj, if_pos hj]
  · have hne : i ≠ j := by omega
    simp [hj, hne]

theorem sound_carryOut (hfits : act.Fits b) (h : b.Sound) : (act.carryOut b).Sound := by
  cases act with
  | regroup groups => exact hfits
  | make r =>
    intro label hlabel
    have hless := h label hlabel
    simp only [Act.carryOut, List.length_append]
    omega
  | change label f =>
    intro other hother
    simpa [Act.carryOut, modify] using h other hother

theorem length_carryOut (act : Act) (b : Workbench) :
    b.items.length ≤ (act.carryOut b).items.length := by
  cases act <;> simp [Act.carryOut, modify]

namespace Takes

theorem append {acts' : List Act} {b'' : Workbench} (h : Takes acts b b')
    (h' : Takes acts' b' b'') : Takes (acts ++ acts') b b'' := by
  induction h with
  | nil => exact h'
  | cons fits _ ih => exact .cons fits (ih h')

theorem sound (h : Takes acts b b') (hsound : b.Sound) : b'.Sound := by
  induction h with
  | nil => exact hsound
  | cons fits _ ih => exact ih (sound_carryOut fits hsound)

theorem length_le (h : Takes acts b b') : b.items.length ≤ b'.items.length := by
  induction h with
  | nil => exact Nat.le_refl _
  | cons _ _ ih => exact (length_carryOut _ _).trans ih

/-- Nothing more is generated. -/
theorem generated_eq (h : Takes acts b b') : b'.generated = b.generated := by
  induction h with
  | nil => rfl
  | @cons act _ _ _ _ _ ih =>
    rw [ih]
    cases act <;> rfl

/-- **What becomes of each resource**: the changes that are made to it, one after the other, wherever
it is put.  New resources come behind those that there are. -/
theorem item?_eq (h : Takes acts b b') (label : Nat) :
    b'.item? label = Act.object? b.items acts label := by
  induction h with
  | nil b => simp [item?, Act.object?, Act.made, Act.outcome]
  | @cons act acts b last fits _ ih =>
    rw [ih]
    cases act with
    | regroup groups => rfl
    | make r => simp [Act.object?, Act.carryOut, Act.made, Act.outcome]
    | change l f =>
      have hmodify : b.items.modify l f ++ Act.made acts = (b.items ++ Act.made acts).modify l f :=
        (modify_append fits f (Act.made acts)).symm
      simp only [Act.object?, Act.carryOut, modify, Act.made, Act.outcome, hmodify,
        List.getElem?_modify, Option.map_eq_map, Option.map_map]
      rfl

end Takes

/-! ## What acts lead to -/

/-- Some acts lead from one workbench to another. -/
def Leads (b b' : Workbench) : Prop := ∃ acts, Takes acts b b'

namespace Leads

theorem refl (b : Workbench) : Leads b b := ⟨[], .nil b⟩

theorem trans {b'' : Workbench} (h : Leads b b') (h' : Leads b' b'') : Leads b b'' :=
  ⟨_, h.choose_spec.append h'.choose_spec⟩

theorem sound (h : Leads b b') : b.Sound → b'.Sound := h.choose_spec.sound

theorem of_act (act : Act) (h : act.Fits b) : Leads b (act.carryOut b) := ⟨[act], .cons h (.nil _)⟩

end Leads

theorem mem_labels_of_group (h : label ∈ b.group key) : label ∈ b.labels := by
  unfold group at h
  cases hlookup : Assoc.lookup key b.groups with
  | none =>
    rw [hlookup] at h
    cases h
  | some group =>
    rw [hlookup] at h
    exact List.mem_flatMap.mpr ⟨(key, group), Assoc.mem_of_lookup hlookup, h⟩

theorem leads_regroup {groups : List (String × List Nat)}
    (h : ∀ label ∈ groups.flatMap Prod.snd, label < b.items.length) : Leads b { b with groups } :=
  Leads.of_act (.regroup groups) h

theorem leads_setGroup (hsound : b.Sound) (h : ∀ label ∈ labels, label < b.items.length) :
    Leads b (b.setGroup key labels) := by
  refine leads_regroup fun label hlabel => ?_
  obtain ⟨group, hgroup, hlabel⟩ := List.mem_flatMap.mp hlabel
  rcases Assoc.mem_of_mem_put hgroup with rfl | hgroup
  · exact h label hlabel
  · exact hsound label (List.mem_flatMap.mpr ⟨group, hgroup, hlabel⟩)

theorem leads_append (hsound : b.Sound) (h : label < b.items.length) :
    Leads b (b.append key label) := by
  refine leads_setGroup hsound fun other hother => ?_
  rcases List.mem_append.mp hother with hother | hother
  · exact hsound other (mem_labels_of_group hother)
  · exact List.mem_singleton.mp hother ▸ h

theorem leads_remove (hsound : b.Sound) : Leads b (b.remove key label) :=
  leads_setGroup hsound fun other hother =>
    hsound other (mem_labels_of_group (List.mem_of_mem_erase hother))

/-- To change a resource that there is not is to do nothing. -/
theorem leads_modify (label : Nat) (f : Resource → Resource) (b : Workbench) :
    Leads b (b.modify label f) := by
  by_cases h : label < b.items.length
  · exact Leads.of_act (.change label f) h
  · have hnone : b.item? label = none := List.getElem?_eq_none (Nat.not_lt.mp h)
    rw [modify_eq_self fun r hr => by rw [hnone] at hr; cases hr]
    exact .refl b

theorem leads_modifyAll (f : Resource → Resource) (b : Workbench) : Leads b (b.modifyAll f) := by
  unfold modifyAll
  generalize b.labels = labels
  induction labels generalizing b with
  | nil => exact .refl b
  | cons label rest ih => exact (leads_modify label f b).trans (ih (b.modify label f))

/-! ### All that can be done -/

theorem leads_makeAll : ∀ (made : List Resource) (b : Workbench),
    Leads b { b with items := b.items ++ made }
  | [], b => by
    rw [List.append_nil]
    exact .refl b
  | r :: made, b => by
    have hfirst : Leads b { b with items := b.items ++ [r] } := Leads.of_act (.make r) trivial
    have hrest := hfirst.trans (leads_makeAll made _)
    rwa [List.append_assoc, List.singleton_append] at hrest

/-- All resources are changed, from the first to the last one. -/
theorem leads_changeAll (changed : List Resource) (h : changed.length = b.items.length) :
    Leads b { b with items := changed } := by
  have hfront : ∀ k ≤ b.items.length,
      Leads b { b with items := changed.take k ++ b.items.drop k } := by
    intro k hk
    induction k with
    | zero => exact .refl b
    | succ k ih =>
      have hless : k < changed.length := by omega
      have hnext : (changed.take k ++ b.items.drop k).modify k (fun _ => changed[k]) =
          changed.take (k + 1) ++ b.items.drop (k + 1) := by
        have hlength : (changed.take k).length = k := List.length_take_of_le (Nat.le_of_lt hless)
        rw [List.modify_eq_take_drop, List.take_left' hlength, List.drop_left' hlength,
          List.drop_eq_getElem_cons hk, List.take_succ_eq_append_getElem hless, List.append_assoc]
        rfl
      refine (ih (by omega)).trans ?_
      rw [← hnext]
      exact leads_modify k _ _
  have hall := hfront b.items.length (Nat.le_refl _)
  rwa [← h, List.take_length, h, List.drop_length, List.append_nil] at hall

/-- **Acts can do all that leaves the resources where they are**, whatever becomes of them and of their
groups. -/
theorem leads_iff (hsound : b.Sound) : Leads b b' ↔
    b'.generated = b.generated ∧ b.items.length ≤ b'.items.length ∧ b'.Sound := by
  constructor
  · rintro ⟨acts, h⟩
    exact ⟨h.generated_eq, h.length_le, h.sound hsound⟩
  · rintro ⟨hgenerated, hlength, hsound'⟩
    have hmade := leads_makeAll (b'.items.drop b.items.length) b
    have hchanged := leads_changeAll b'.items
      (b := { b with items := b.items ++ b'.items.drop b.items.length }) (by simp; omega)
    have hgrouped := leads_regroup (b := { b with items := b'.items }) hsound'
    have hall := (hmade.trans hchanged).trans hgrouped
    rwa [← hgenerated] at hall

/-! ## Edits -/

section

variable {id : String} {f : String → Nat → Workbench → Workbench}

/-- What is done to one resource after the other acts if each time it does. -/
theorem leads_forEach (hf : ∀ {key label} {b : Workbench}, b.Sound → label < b.items.length →
    Leads b (f key label b)) (hsound : b.Sound) : Leads b (b.forEach id f) := by
  have hgroup : ∀ (key : String) (labels : List Nat) (b : Workbench), b.Sound → Leads b
      (labels.foldl (fun b label => if b.isCalled id label then f key label b else b) b) := by
    intro key labels
    induction labels with
    | nil => exact fun b _ => .refl b
    | cons label rest ih =>
      intro b hsound
      rw [List.foldl_cons]
      split
      · rename_i hcalled
        have hless : label < b.items.length := by
          cases hitem : b.item? label with
          | none => simp [isCalled, hitem] at hcalled
          | some r => exact (List.getElem?_eq_some_iff.mp hitem).1
        have hfirst : Leads b (f key label b) := hf hsound hless
        exact hfirst.trans (ih _ (hfirst.sound hsound))
      · exact ih b hsound
  unfold forEach
  generalize Assoc.keys b.groups = keys
  induction keys generalizing b with
  | nil => exact .refl b
  | cons key rest ih =>
    have hfirst : Leads b (b.forGroup id f key) := hgroup key _ b hsound
    exact hfirst.trans (ih (hfirst.sound hsound))

end

/-- **Every edit consists of acts.** -/
theorem leads_edit (e : Edit) (hsound : b.Sound) : Leads b (b.edit e) := by
  cases e with
  | add key r =>
    have hmade : Leads b { b with items := b.items ++ [r] } := Leads.of_act (.make r) trivial
    refine hmade.trans (leads_append (hmade.sound hsound) ?_)
    simp
  | dropGroup key =>
    refine leads_regroup fun label hlabel => hsound label ?_
    obtain ⟨group, hgroup, hlabel⟩ := List.mem_flatMap.mp hlabel
    exact List.mem_flatMap.mpr ⟨group, (List.mem_filter.mp hgroup).1, hlabel⟩
  | drop id => exact leads_forEach (fun hsound _ => leads_remove hsound) hsound
  | move id target =>
    refine leads_forEach (fun hsound hless => ?_) hsound
    exact (leads_remove hsound).trans (leads_append ((leads_remove hsound).sound hsound) hless)
  | share id target => exact leads_forEach leads_append hsound
  | set id key value => exact leads_forEach (fun _ _ => leads_modify _ _ _) hsound
  | depend id on => exact leads_forEach (fun _ _ => leads_modify _ _ _) hsound
  | rename id name => exact leads_forEach (fun _ _ => leads_modify _ _ _) hsound

end Workbench

/-! ## Patchers -/

open Workbench (Leads Takes)

/-- **A patcher that acts**: whatever it meets, it does no more than can be done at a workbench. -/
def Patcher.Acts (q : Patcher) : Prop :=
  ∀ b b', b.Sound → q.patch b = .ok b' → Leads b b'

/-- A script acts. -/
theorem ScriptStep.acts (name : String) (steps : List ScriptStep) :
    (ScriptStep.toPatcher name steps).Acts := by
  intro b b' hsound h
  change ScriptStep.runAll steps b = .ok b' at h
  induction steps generalizing b with
  | nil =>
    cases h
    exact .refl _
  | cons step rest ih =>
    cases step with
    | fail e => cases h
    | edit e =>
      have hfirst := Workbench.leads_edit e hsound
      exact hfirst.trans (ih _ (hfirst.sound hsound) h)

namespace Patch

theorem leads_moveItem {space : String} {label : Nat} {state state' : Moves}
    (h : moveItem space state label = .ok state') : Leads state.1 state'.1 := by
  unfold moveItem at h
  split at h
  · cases h
    exact .refl _
  · split at h
    · cases h
    · cases h
      exact .refl _
    · cases h
      exact Workbench.leads_modify _ _ _

theorem leads_moveItems {space : String} : ∀ {labels : List Nat} {state state' : Moves},
    moveItems space labels state = .ok state' → Leads state.1 state'.1
  | [], _, _, h => by
    cases h
    exact .refl _
  | label :: rest, state, state', h => by
    unfold moveItems at h
    split at h
    · cases h
    · rename_i hfirst
      exact (leads_moveItem hfirst).trans (leads_moveItems h)

theorem leads_labelItems {added : Metadata} : ∀ {labels : List Nat} {b b' : Workbench},
    labelItems added labels b = .ok b' → Leads b b'
  | [], _, _, h => by
    cases h
    exact .refl _
  | label :: rest, b, b', h => by
    unfold labelItems at h
    split at h
    · exact leads_labelItems h
    · split at h
      · cases h
      · exact (Workbench.leads_modify _ _ _).trans (leads_labelItems h)

/-- A patch acts. -/
theorem acts (p : Patch) : p.toPatcher.Acts := by
  intro b b' _ h
  cases p with
  | space name =>
    change moveAll name b = .ok b' at h
    unfold moveAll at h
    split at h
    · cases h
    · rename_i hmoved
      cases h
      exact (leads_moveItems hmoved).trans (Workbench.leads_modifyAll _ _)
  | metadata added => exact leads_labelItems h
  | kubeConfig path =>
    cases h
    exact Workbench.leads_modifyAll _ _

end Patch

namespace Pipeline

/-- Patchers that act, one after the other, act. -/
theorem leads_patchAll : ∀ {patchers : List Patcher} {b b' : Workbench},
    (∀ q ∈ patchers, q.Acts) → b.Sound → patchAll patchers b = .ok b' → Leads b b'
  | [], _, _, _, _, h => by
    cases h
    exact .refl _
  | q :: rest, b, b', hacts, hsound, h => by
    obtain ⟨hq, hrest⟩ := List.forall_mem_cons.mp hacts
    unfold patchAll at h
    split at h
    · cases h
    · rename_i next hpatched
      have hfirst := hq b next hsound hpatched
      exact hfirst.trans (leads_patchAll hrest (hfirst.sound hsound) h)

/-- **What a pipeline produces when its patchers act.**  Each generated resource that is still in some
group is there once, in the order of generation, and behind them what was made, as often as it is in a
group and in the order of the groups; all of them as they were changed, and nothing else. -/
theorem run_regrouped {p : Pipeline} {resources : List Resource} {b : Workbench}
    (hgenerated : generateAll p.generators [] = .ok resources) (hacts : ∀ q ∈ p.patchers, q.Acts)
    (hpatched : patchAll p.patchers (.ofResources resources) = .ok b) :
    ∃ acts kept spec, Takes acts (.ofResources resources) b ∧ p.run = .ok spec ∧
      kept.Pairwise (· < ·) ∧
      (∀ label, label ∈ kept ↔ label < resources.length ∧ ∃ group ∈ b.groups, label ∈ group.2) ∧
      spec.map some = (kept ++ (b.groups.flatMap Prod.snd).filter (resources.length ≤ ·)).map
        (Act.object? resources acts) ∧
      (p.patchers = [] → spec = resources) := by
  have hsound := Workbench.sound_ofResources resources
  obtain ⟨acts, htakes⟩ := leads_patchAll hacts hsound hpatched
  have hgeneratedLabels : b.generated = resources.length := htakes.generated_eq
  refine ⟨acts, (List.range b.generated).filter b.isKept, b.resources, htakes, ?_, ?_, ?_, ?_, ?_⟩
  · simp only [run, hgenerated, hpatched]
  · exact List.pairwise_lt_range.filter _
  · intro label
    simp [Workbench.isKept, Workbench.labels, hgeneratedLabels]
  · have hobject : ∀ label, b.item? label = Act.object? resources acts label := htakes.item?_eq
    rw [← hgeneratedLabels, ← funext hobject]
    exact Workbench.map_some_resources (htakes.sound hsound)
  · intro hnone
    rw [hnone] at hpatched
    cases hpatched
    exact (Workbench.whole_ofResources resources).resources_eq

/-! ## A shop that is rearranged -/

namespace Rearranged

def resources : List Resource :=
  [⟨"v1:Service:default:web", .kubernetes, [], [], []⟩, ⟨"v1:Node:a", .kubernetes, [], [], []⟩,
    ⟨"v1:Secret:default:db", .kubernetes, [], [], []⟩,
    ⟨"v1:Service:default:api", .kubernetes, [], [], []⟩]

def generators : List Generator := [⟨"shop", fun _ => .ok resources⟩]

/-- The services are moved behind the node, one of them twice; the secret is dropped, and what comes in
its place is in two groups. -/
def steps : List ScriptStep :=
  [.edit (.move "v1:Service:default:web" "v1:Node"), .edit (.share "v1:Service:default:web" "front"),
    .edit (.move "v1:Service:default:api" "v1:Node"), .edit (.rename "v1:Node:a" "v1:Node:b"),
    .edit (.drop "v1:Secret:default:db"),
    .edit (.add "front" ⟨"v1:ConfigMap:default:db", .kubernetes, [], [], []⟩),
    .edit (.share "v1:ConfigMap:default:db" "back"), .edit (.dropGroup "v1:Service")]

def patchers : List Patcher := [ScriptStep.toPatcher "arrange" steps, (Patch.space "prod").toPatcher]

theorem acts : ∀ q ∈ patchers, q.Acts := by
  rintro q (_ | ⟨_, _ | ⟨_, ⟨⟩⟩⟩)
  · exact ScriptStep.acts "arrange" steps
  · exact Patch.acts (.space "prod")

end Rearranged

/-- What is generated is left in its order, but for the secret, and what was made comes twice. -/
theorem run_regrouped_rearranged :
    generateAll Rearranged.generators [] = .ok Rearranged.resources ∧
      (∀ q ∈ Rearranged.patchers, q.Acts) ∧
      ∃ (b : Workbench) (acts : List Act) (kept : List Nat) (spec : List Resource),
        patchAll Rearranged.patchers (.ofResources Rearranged.resources) = .ok b ∧
        Takes acts (.ofResources Rearranged.resources) b ∧
        run ⟨Rearranged.generators, Rearranged.patchers⟩ = .ok spec ∧
        (∀ label, label ∈ kept ↔ label < 4 ∧ ∃ group ∈ b.groups, label ∈ group.2) ∧
        spec.map Resource.id = ["v1:Service:prod:web", "v1:Node:b", "v1:Service:prod:api",
          "v1:ConfigMap:prod:db", "v1:ConfigMap:prod:db"] := by
  have hgenerated : generateAll Rearranged.generators [] = .ok Rearranged.resources := rfl
  obtain ⟨b, hpatched⟩ : ∃ b,
      patchAll Rearranged.patchers (.ofResources Rearranged.resources) = .ok b := ⟨_, rfl⟩
  have hids : (run ⟨Rearranged.generators, Rearranged.patchers⟩).map (List.map Resource.id) =
      .ok ["v1:Service:prod:web", "v1:Node:b", "v1:Service:prod:api", "v1:ConfigMap:prod:db",
        "v1:ConfigMap:prod:db"] := by decide
  obtain ⟨acts, kept, spec, htakes, hrun, -, hkept, -, -⟩ :=
    run_regrouped (p := ⟨Rearranged.generators, Rearranged.patchers⟩) hgenerated Rearranged.acts
      hpatched
  rw [hrun] at hids
  exact ⟨hgenerated, Rearranged.acts, b, acts, kept, spec, hpatched, htakes, hrun, hkept,
    Except.ok.inj hids⟩

end Pipeline

end Rollout
