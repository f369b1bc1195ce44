import Rollout.Proofs.Assoc
import Rollout.Proofs.Record.RoundTrip
import Rollout.Record.Workspace

/-!
# Blocks of a module that are written inline

The blocks of a module may be written inline: every key but that of the default block names a patch
block, and every key of a patch block but that of its selector is configuration.  Blocks that are
written out have fields of their own, and which form is meant is told from the names of these fields
alone.  So an inline key may have any name but theirs.

* `Record.Inline` : an object that is meant as inline blocks; `ModuleBlocks.Stated` : what it states;
* `Record.Unreserved` : none of its keys is the name of a field of the other form;
* `Record.moduleBlocks_eq_ok_iff` : without such keys, blocks are read exactly as they are stated;
* `Record.inline_loses_nothing` : inline blocks are read as they are stated exactly if they have no
  such keys.
-/

set_option autoImplicit false

namespace Rollout

/-! ## What inline blocks state -/

/-- What the fields of an inline patch block state: a selector, which is empty if there is none, and
everything else as configuration. -/
structure PatchBlock.Stated (fs : Fields) (b : PatchBlock) : Prop where
  config : b.config = fs.filter fun field => field.1 ≠ Record.selectorField
  selector : Assoc.lookup Record.selectorField fs = some (Record.stringList b.selector) ∨
    Record.selectorField ∉ Assoc.keys fs ∧ b.selector = []

/-- What the fields of inline blocks state: a default block, which is empty if there is none or a null
or the like in its place, and all others as patch blocks, in order and under their names. -/
structure ModuleBlocks.Stated (fs : Fields) (b : ModuleBlocks) : Prop where
  base : Assoc.lookup defaultBlock fs = some (.object b.base) ∨
    (∀ v ∈ Assoc.lookup defaultBlock fs, v.truthy = false) ∧ b.base = []
  patches : List.Forall₂
    (fun (field : String × Value) (patch : String × PatchBlock) =>
      patch.1 = field.1 ∧ ∃ inner, field.2 = .object inner ∧ patch.2.Stated inner)
    (fs.filter fun field => field.1 ≠ defaultBlock) b.patches

namespace Record

/-- An object that is meant as inline blocks: its default block is an object or counts as absent, and
all its other blocks are objects whose selectors, if they have any, are lists of names. -/
structure Inline (fs : Fields) : Prop where
  base : ∀ v ∈ Assoc.lookup defaultBlock fs, v.truthy = true → ∃ base, v = .object base
  patches : ∀ field ∈ fs, field.1 ≠ defaultBlock → ∃ inner, field.2 = .object inner ∧
    ∀ v ∈ Assoc.lookup selectorField inner, ∃ names, v = stringList names

/-- No block is called, and no key in a patch block is, like a field of blocks that are written out. -/
structure Unreserved (fs : Fields) : Prop where
  blocks : "patchers" ∉ Assoc.keys fs
  keys : ∀ name inner, (name, Value.object inner) ∈ fs → name ≠ defaultBlock →
    "config" ∉ Assoc.keys inner ∧ plainSelectorField ∉ Assoc.keys inner

open Checked

/-! ## Lists of names and objects -/

section

variable {α : Type} {read : Value → Checked α}

theorem list_string_eq_ok_iff : ∀ {items : List Value} {names : List String} {i : Nat},
    Checked.list string i items = .ok names ↔ items = names.map .str
  | [], [], _ => by simp [Checked.list]
  | [], _ :: _, _ => by simp [Checked.list]
  | v :: rest, names, i => by
    constructor
    · intro h
      obtain ⟨p, hp, rfl⟩ := exists_of_map h
      obtain ⟨hfirst, hrest⟩ := exists_of_both hp
      rw [List.map_cons, ← list_string_eq_ok_iff.mp hrest]
      cases v with
      | str s =>
        cases hfirst
        rfl
      | null | bool _ | int _ | double _ | list _ | object _ => cases hfirst
    · rintro h
      rw [h]
      exact list_map i fun name _ => string_rereads name

/-- Names are read from the list of them, and from nothing else. -/
theorem strings_eq_ok_iff {v : Value} {names : List String} :
    strings v = .ok names ↔ v = stringList names := by
  cases v with
  | list items => simpa [strings, listOf, stringList] using list_string_eq_ok_iff
  | null | bool _ | int _ | double _ | str _ | object _ => simp [strings, listOf, stringList, fault]

/-- The entries of an object are read one by one, in order and under their keys. -/
theorem entries_eq_ok_iff : ∀ {fs : Fields} {es : List (String × α)},
    entries read fs = .ok es ↔
      List.Forall₂ (fun field e => e.1 = field.1 ∧ read field.2 = .ok e.2) fs es
  | [], [] => by simp [entries]
  | [], _ :: _ => by simp [entries]
  | (key, v) :: rest, es => by
    constructor
    · intro h
      obtain ⟨p, hp, rfl⟩ := exists_of_map h
      obtain ⟨hfirst, hrest⟩ := exists_of_both hp
      exact .cons ⟨rfl, under_eq_ok_iff.mp hfirst⟩ (entries_eq_ok_iff.mp hrest)
    · intro h
      cases h with
      | @cons _ e _ es hfirst hrest =>
        obtain ⟨rfl, hfirst⟩ := hfirst
        rw [entries, hfirst, entries_eq_ok_iff.mpr hrest]
        rfl

end

/-! ## Patch blocks -/

section

variable {fs inner : Fields} {v : Value} {key : String} {b : PatchBlock} {blocks : ModuleBlocks}

theorem inlineSelector_eq_ok_iff (hplain : plainSelectorField ∉ Assoc.keys inner)
    {names : List String} : inlineSelector inner = .ok names ↔
      Assoc.lookup selectorField inner = some (stringList names) ∨
        selectorField ∉ Assoc.keys inner ∧ names = [] := by
  cases hlookup : Assoc.lookup selectorField inner with
  | some v =>
    have hmem : selectorField ∈ Assoc.keys inner := Assoc.mem_keys_iff.mpr ⟨v, hlookup⟩
    simp [inlineSelector, field?, hlookup, under_eq_ok_iff, strings_eq_ok_iff, hmem]
  | none =>
    have hmem := Assoc.lookup_eq_none_iff.mp hlookup
    simp [inlineSelector, field?, hlookup, Assoc.lookup_eq_none_iff.mpr hplain, hmem, eq_comm]

/-- A block with a field for its configuration is read as one that is written out. -/
theorem config_mem_of_patchBlock (hconfig : "config" ∈ Assoc.keys inner)
    (h : patchBlock (.object inner) = .ok b) : ("config", .object b.config) ∈ inner := by
  obtain ⟨v, hlookup⟩ := Assoc.mem_keys_iff.mp hconfig
  have hhas : Assoc.has "config" inner = true := Assoc.has_eq_true_iff.mpr hconfig
  simp only [patchBlock, record, hhas, if_true] at h
  obtain ⟨_, _, hfirst, _, rfl⟩ := exists_of_app h
  obtain ⟨config, hread, rfl⟩ := exists_of_map hfirst
  simp only [required, field?, hlookup, under_eq_ok_iff] at hread
  cases v with
  | object fields =>
    cases hread
    exact Assoc.mem_of_lookup hlookup
  | null | bool _ | int _ | double _ | str _ | list _ => cases hread

/-- Any other block is read as an inline one, whose selector goes by two names. -/
theorem patchBlock_of_notMem (hconfig : "config" ∉ Assoc.keys inner) :
    patchBlock (.object inner) =
      Checked.map (PatchBlock.mk (Assoc.erase plainSelectorField (Assoc.erase selectorField inner)))
        (inlineSelector inner) := by
  have hhas : Assoc.has "config" inner = false :=
    Bool.eq_false_iff.mpr (mt Assoc.has_eq_true_iff.mp hconfig)
  simp only [patchBlock, record, hhas, if_neg Bool.false_ne_true]

/-- **A patch block without the names of fields is read as it is stated.** -/
theorem patchBlock_eq_ok_iff (hconfig : "config" ∉ Assoc.keys inner)
    (hplain : plainSelectorField ∉ Assoc.keys inner) :
    patchBlock (.object inner) = .ok b ↔ b.Stated inner := by
  have herase : plainSelectorField ∉ Assoc.keys (Assoc.erase selectorField inner) :=
    fun h => hplain (Assoc.mem_keys_erase.mp h).2
  rw [patchBlock_of_notMem hconfig, Assoc.erase_of_notMem herase]
  constructor
  · intro h
    obtain ⟨names, hnames, rfl⟩ := exists_of_map h
    exact ⟨rfl, (inlineSelector_eq_ok_iff hplain).mp hnames⟩
  · rintro ⟨hconfig, hselector⟩
    rw [map_ok ((inlineSelector_eq_ok_iff hplain).mpr hselector)]
    exact congrArg (fun config => Except.ok (PatchBlock.mk config b.selector)) hconfig.symm

/-! ### Sizes -/

/-- No entry of an object is as large as the object. -/
theorem sizeOf_lt_of_mem (h : (key, v) ∈ fs) : sizeOf v < sizeOf fs := by
  have hlt := List.sizeOf_lt_of_mem h
  simp only [Prod.mk.sizeOf_spec] at hlt
  omega

/-- Nor is what was read of a block as large as the block. -/
theorem sizeOf_lt_of_patchBlock (h : patchBlock (.object inner) = .ok b)
    (hmem : (key, v) ∈ b.config) : sizeOf v < sizeOf inner := by
  by_cases hconfig : "config" ∈ Assoc.keys inner
  · have hentry := sizeOf_lt_of_mem hmem
    have hfield := sizeOf_lt_of_mem (config_mem_of_patchBlock hconfig h)
    simp only [Value.object.sizeOf_spec] at hfield
    omega
  · rw [patchBlock_of_notMem hconfig] at h
    obtain ⟨_, _, rfl⟩ := exists_of_map h
    exact sizeOf_lt_of_mem (List.mem_of_mem_filter (List.mem_of_mem_filter hmem))

/-! ### Names of fields -/

theorem mem_config_of_stated (h : b.Stated inner) (hmem : (key, v) ∈ inner)
    (hkey : key ≠ selectorField) : (key, v) ∈ b.config := by
  rw [h.config, List.mem_filter]
  exact ⟨hmem, decide_eq_true hkey⟩

/-- **A patch block is read as it is stated exactly if it has not the names of fields.** -/
theorem patchBlock_iff_of_stated (h : b.Stated inner) : patchBlock (.object inner) = .ok b ↔
    "config" ∉ Assoc.keys inner ∧ plainSelectorField ∉ Assoc.keys inner := by
  refine ⟨fun hread => ?_, fun ⟨hconfig, hplain⟩ => (patchBlock_eq_ok_iff hconfig hplain).mpr h⟩
  have hconfig : "config" ∉ Assoc.keys inner := by
    intro hconfig
    -- the field would be part of the configuration, which is the field
    have hfield := mem_config_of_stated h (config_mem_of_patchBlock hconfig hread) (by decide)
    have hlt := sizeOf_lt_of_mem hfield
    simp only [Value.object.sizeOf_spec] at hlt
    omega
  refine ⟨hconfig, fun hplain => ?_⟩
  obtain ⟨v, hlookup⟩ := Assoc.mem_keys_iff.mp hplain
  have hstated := mem_config_of_stated h (Assoc.mem_of_lookup hlookup) (by decide)
  rw [patchBlock_of_notMem hconfig] at hread
  obtain ⟨_, _, rfl⟩ := exists_of_map hread
  exact (Assoc.mem_keys_erase.mp (Assoc.mem_keys hstated)).1 rfl

/-- Every inline patch block states something. -/
theorem exists_patchBlock_stated
    (h : ∀ v ∈ Assoc.lookup selectorField inner, ∃ names, v = stringList names) :
    ∃ b : PatchBlock, b.Stated inner := by
  cases hlookup : Assoc.lookup selectorField inner with
  | some v =>
    obtain ⟨names, rfl⟩ := h v hlookup
    exact ⟨⟨_, names⟩, rfl, .inl hlookup⟩
  | none => exact ⟨⟨_, []⟩, rfl, .inr ⟨Assoc.lookup_eq_none_iff.mp hlookup, rfl⟩⟩

/-! ## Blocks of a module -/

theorem inlineDefault_eq_ok_iff {base : Fields} : inlineDefault fs = .ok base ↔
    Assoc.lookup defaultBlock fs = some (.object base) ∨
      (∀ v ∈ Assoc.lookup defaultBlock fs, v.truthy = false) ∧ base = [] := by
  unfold inlineDefault
  cases Assoc.lookup defaultBlock fs with
  | none =>
    simp only [Except.ok.injEq, Option.mem_def, reduceCtorEq, false_implies, implies_true, true_and,
      false_or]
    exact eq_comm
  | some v =>
    cases htruthy : v.truthy with
    | true =>
      simp only [htruthy, if_true, under_eq_ok_iff, Option.some.injEq, Option.mem_def, forall_eq',
        Bool.true_eq_false, false_and, or_false]
      cases v with
      | object inner => simp only [fields, Except.ok.injEq, Value.object.injEq]
      | null | bool _ | int _ | double _ | str _ | list _ => simp only [fields, fault, reduceCtorEq]
    | false =>
      -- an object that counts as absent is empty
      have hempty : ∀ inner, v = .object inner → inner = [] := by
        rintro inner rfl
        simpa [Value.truthy] using htruthy
      simp only [htruthy, Bool.false_eq_true, if_false, Except.ok.injEq, Option.some.injEq,
        Option.mem_def, forall_eq', true_and]
      exact ⟨fun h => .inr h.symm, fun h => (h.elim (hempty base) id).symm⟩

/-- Relations that agree on the items of a list agree on the list. -/
theorem forall₂_congr_left {α β : Type} {R S : α → β → Prop} : ∀ {l : List α} {r : List β},
    (∀ a ∈ l, ∀ b, R a b ↔ S a b) → (List.Forall₂ R l r ↔ List.Forall₂ S l r)
  | [], _, _ => by simp
  | a :: l, r, h => by
    have ih : ∀ {r}, List.Forall₂ R l r ↔ List.Forall₂ S l r :=
      forall₂_congr_left fun a ha => h a (List.mem_cons_of_mem _ ha)
    simp only [List.forall₂_cons_left_iff, h a List.mem_cons_self, ih]

/-- What is related to a list is related to its items. -/
theorem exists_of_forall₂ {α β : Type} {R : α → β → Prop} {a : α} : ∀ {l : List α} {r : List β},
    List.Forall₂ R l r → a ∈ l → ∃ b ∈ r, R a b
  | _, _, .cons (b := b) hab hrest, ha => by
    rcases List.mem_cons.mp ha with rfl | ha
    · exact ⟨b, List.mem_cons_self, hab⟩
    · obtain ⟨c, hc, hac⟩ := exists_of_forall₂ hrest ha
      exact ⟨c, List.mem_cons_of_mem _ hc, hac⟩

/-- What is related to something, one by one, is related to a list. -/
theorem exists_forall₂ {α β : Type} {R : α → β → Prop} : ∀ {l : List α},
    (∀ a ∈ l, ∃ b, R a b) → ∃ r, List.Forall₂ R l r
  | [], _ => ⟨[], .nil⟩
  | a :: l, h => by
    obtain ⟨b, hb⟩ := h a List.mem_cons_self
    obtain ⟨r, hr⟩ := exists_forall₂ fun a ha => h a (List.mem_cons_of_mem _ ha)
    exact ⟨b :: r, .cons hb hr⟩

/-- What a module without patch blocks that are written out is read as. -/
theorem moduleBlocks_iff_of_notMem (h : "patchers" ∉ Assoc.keys fs) :
    moduleBlocks (.object fs) = .ok blocks ↔ inlineDefault fs = .ok blocks.base ∧
      List.Forall₂ (fun field patch => patch.1 = field.1 ∧ patchBlock field.2 = .ok patch.2)
        (fs.filter fun field => field.1 ≠ defaultBlock) blocks.patches := by
  simp only [moduleBlocks, record, Assoc.lookup_eq_none_iff.mpr h]
  constructor
  · intro hread
    obtain ⟨_, patches, hfirst, hpatches, rfl⟩ := exists_of_app hread
    obtain ⟨base, hbase, rfl⟩ := exists_of_map hfirst
    exact ⟨hbase, entries_eq_ok_iff.mp (under_eq_ok_iff.mp hpatches)⟩
  · rintro ⟨hbase, hpatches⟩
    exact app_ok (map_ok hbase) (under_eq_ok_iff.mpr (entries_eq_ok_iff.mpr hpatches))

/-- **Blocks without the names of fields are read as they are stated**, and refused if they state
nothing. -/
theorem moduleBlocks_eq_ok_iff (h : Unreserved fs) :
    moduleBlocks (.object fs) = .ok blocks ↔ blocks.Stated fs := by
  have hpatches : List.Forall₂
        (fun field patch => patch.1 = field.1 ∧ patchBlock field.2 = .ok patch.2)
        (fs.filter fun field => field.1 ≠ defaultBlock) blocks.patches ↔ List.Forall₂
        (fun field patch => patch.1 = field.1 ∧
          ∃ inner, field.2 = .object inner ∧ patch.2.Stated inner)
        (fs.filter fun field => field.1 ≠ defaultBlock) blocks.patches := by
    refine forall₂_congr_left ?_
    rintro ⟨name, v⟩ hfield ⟨_, b⟩
    obtain ⟨hmem, hname⟩ := List.mem_filter.mp hfield
    refine and_congr_right fun _ => ?_
    cases v with
    | object inner =>
      obtain ⟨hconfig, hplain⟩ := h.keys name inner hmem (of_decide_eq_true hname)
      simp only [Value.object.injEq, exists_eq_left', patchBlock_eq_ok_iff hconfig hplain]
    | null | bool _ | int _ | double _ | str _ | list _ => simp [patchBlock, record, fault]
  rw [moduleBlocks_iff_of_notMem h.blocks, inlineDefault_eq_ok_iff, hpatches]
  exact ⟨fun ⟨hbase, hall⟩ => ⟨hbase, hall⟩, fun hstated => ⟨hstated.base, hstated.patches⟩⟩

/-- Inline blocks state something. -/
theorem exists_moduleBlocks_stated (h : Inline fs) : ∃ blocks : ModuleBlocks, blocks.Stated fs := by
  have hbase : ∃ base : Fields, Assoc.lookup defaultBlock fs = some (.object base) ∨
      (∀ v ∈ Assoc.lookup defaultBlock fs, v.truthy = false) ∧ base = [] := by
    by_cases habsent : ∀ v ∈ Assoc.lookup defaultBlock fs, v.truthy = false
    · exact ⟨[], .inr ⟨habsent, rfl⟩⟩
    · simp only [not_forall, Bool.not_eq_false] at habsent
      obtain ⟨v, hv, htruthy⟩ := habsent
      obtain ⟨base, rfl⟩ := h.base v hv htruthy
      exact ⟨base, .inl hv⟩
  obtain ⟨base, hbase⟩ := hbase
  have hpatch : ∀ field ∈ fs.filter fun field => field.1 ≠ defaultBlock,
      ∃ patch : String × PatchBlock, patch.1 = field.1 ∧
        ∃ inner, field.2 = .object inner ∧ patch.2.Stated inner := by
    intro field hfield
    obtain ⟨hmem, hname⟩ := List.mem_filter.mp hfield
    obtain ⟨inner, hinner, hselector⟩ := h.patches field hmem (of_decide_eq_true hname)
    obtain ⟨b, hb⟩ := exists_patchBlock_stated hselector
    exact ⟨(field.1, b), rfl, inner, hinner, hb⟩
  obtain ⟨patches, hpatches⟩ := exists_forall₂ hpatch
  exact ⟨⟨base, patches⟩, hbase, hpatches⟩

/-- What was read of the field for patch blocks is smaller than it, so no patch block has its name. -/
theorem notMem_of_moduleBlocks (h : blocks.Stated fs)
    (hread : moduleBlocks (.object fs) = .ok blocks) : "patchers" ∉ Assoc.keys fs := by
  intro hmem
  obtain ⟨w, hlookup⟩ := Assoc.mem_keys_iff.mp hmem
  have hfield : ("patchers", w) ∈ fs.filter fun field => field.1 ≠ defaultBlock :=
    List.mem_filter.mpr ⟨Assoc.mem_of_lookup hlookup, rfl⟩
  obtain ⟨⟨name, b⟩, hb, hname, inner, hw, hstated⟩ := exists_of_forall₂ h.patches hfield
  obtain rfl : name = "patchers" := hname
  obtain rfl : w = .object inner := hw
  simp only [moduleBlocks, record, hlookup] at hread
  obtain ⟨_, patches, hfirst, hpatches, rfl⟩ := exists_of_app hread
  obtain ⟨_, _, rfl⟩ := exists_of_map hfirst
  obtain ⟨v, hv, hblock⟩ := exists_of_mem_entries (under_eq_ok_iff.mp hpatches) _ hb
  have hne : "patchers" ≠ selectorField := by decide
  cases v with
  | object fields =>
    have hlt := sizeOf_lt_of_patchBlock hblock (mem_config_of_stated hstated hv hne)
    simp only [Value.object.sizeOf_spec] at hlt
    omega
  | null | bool _ | int _ | double _ | str _ | list _ => cases hblock

/-- Blocks that are read as they are stated have not the names of fields. -/
theorem unreserved_of_moduleBlocks (h : blocks.Stated fs)
    (hread : moduleBlocks (.object fs) = .ok blocks) : Unreserved fs where
  blocks := notMem_of_moduleBlocks h hread
  keys name inner hmem hname := by
    have hfield : (name, Value.object inner) ∈ fs.filter fun field => field.1 ≠ defaultBlock :=
      List.mem_filter.mpr ⟨hmem, decide_eq_true hname⟩
    have hpatches := ((moduleBlocks_iff_of_notMem (notMem_of_moduleBlocks h hread)).mp hread).2
    -- the block is stated, and read, as one and the same
    obtain ⟨b, _, ⟨_, inner', hinner, hb⟩, -, hblock⟩ :=
      exists_of_forall₂ (h.patches.mp (fun _ _ => And.intro) hpatches) hfield
    obtain rfl : inner = inner' := Value.object.inj hinner
    exact (patchBlock_iff_of_stated hb).mp hblock

/-- **Inline blocks lose nothing**: they state a default block and patch blocks, and what they state is
what they are read as, exactly if no key of theirs is the name of a field of the other form. -/
theorem inline_loses_nothing (h : Inline fs) : (∃ blocks : ModuleBlocks, blocks.Stated fs) ∧
    ∀ blocks : ModuleBlocks, blocks.Stated fs →
      (moduleBlocks (.object fs) = .ok blocks ↔ Unreserved fs) :=
  ⟨exists_moduleBlocks_stated h, fun _ hstated => ⟨unreserved_of_moduleBlocks hstated,
    fun hunreserved => (moduleBlocks_eq_ok_iff hunreserved).mpr hstated⟩⟩

end

/-! ## Two modules -/

namespace Sized

/-- Two sizes of a module; names that mean something elsewhere mean nothing here. -/
def fields : Fields :=
  [("large", .object [("default", .int 2), (selectorField, stringList ["shop", "cart"]),
      ("patchers", .object [])]),
    (defaultBlock, .object [("replicas", .int 1), ("config", .null)]),
    (selectorField, .object [("replicas", .int 3)])]

def blocks : ModuleBlocks where
  base := [("replicas", .int 1), ("config", .null)]
  patches := [("large", ⟨[("default", .int 2), ("patchers", .object [])], ["shop", "cart"]⟩),
    (selectorField, ⟨[("replicas", .int 3)], []⟩)]

theorem inline : Inline fields where
  base _ h _ := ⟨_, (Option.some.inj h).symm⟩
  patches := by
    simp only [fields, List.mem_cons, List.not_mem_nil, or_false, forall_eq_or_imp, forall_eq]
    exact ⟨fun _ => ⟨_, rfl, fun _ h => ⟨_, (Option.some.inj h).symm⟩⟩, fun h => absurd rfl h,
      fun _ => ⟨_, rfl, nofun⟩⟩

theorem stated : blocks.Stated fields where
  base := .inl rfl
  patches := .cons ⟨rfl, _, rfl, rfl, .inl rfl⟩ (.cons ⟨rfl, _, rfl, rfl, .inr ⟨by decide, rfl⟩⟩ .nil)

theorem unreserved : Unreserved fields where
  blocks := by decide
  keys := by
    simp only [fields, List.mem_cons, Prod.mk.injEq, Value.object.injEq, List.not_mem_nil, or_false]
    rintro name inner (⟨rfl, rfl⟩ | ⟨rfl, rfl⟩ | ⟨rfl, rfl⟩) hname
    · decide
    · exact absurd rfl hname
    · decide

end Sized

/-- Both sizes are read as they are stated, in order. -/
theorem inline_loses_nothing_sized : Inline Sized.fields ∧ Sized.blocks.Stated Sized.fields ∧
    moduleBlocks (.object Sized.fields) = .ok Sized.blocks :=
  ⟨Sized.inline, Sized.stated,
    ((inline_loses_nothing Sized.inline).2 _ Sized.stated).mpr Sized.unreserved⟩

/-! ## Keys that are taken for fields -/

/-- A default block and one patch block, written inline. -/
def twoBlocks (base : Fields) (name : String) (inner : Fields) : Fields :=
  [(defaultBlock, .object base), (name, .object inner)]

/-- Inline blocks that are read as other blocks than they state. -/
def Misread (fs : Fields) (blocks : ModuleBlocks) : Prop :=
  Inline fs ∧ moduleBlocks (.object fs) = .ok blocks ∧ ¬ blocks.Stated fs

theorem misread_twoBlocks {base inner : Fields} {name : String} {blocks : ModuleBlocks}
    (hselector : selectorField ∉ Assoc.keys inner)
    (hread : moduleBlocks (.object (twoBlocks base name inner)) = .ok blocks)
    (hreserved : ¬ Unreserved (twoBlocks base name inner)) :
    Misread (twoBlocks base name inner) blocks := by
  refine ⟨⟨fun _ h _ => ⟨_, (Option.some.inj h).symm⟩, ?_⟩, hread, fun hstated =>
    hreserved (unreserved_of_moduleBlocks hstated hread)⟩
  simp only [twoBlocks, List.mem_cons, List.not_mem_nil, or_false, forall_eq_or_imp, forall_eq]
  refine ⟨fun h => absurd rfl h, fun _ => ⟨inner, rfl, fun v hv => ?_⟩⟩
  exact absurd (Assoc.mem_keys_iff.mpr ⟨v, hv⟩) hselector

/-- **Inline blocks with the name of a field among their keys** lose configuration, give some of it
away as a selector, or are taken for all patch blocks there are. -/
theorem inline_misread :
    Misread (twoBlocks [("replicas", .int 1)] "small"
        [("config", .object [("tier", .str "s")]), ("replicas", .int 3)])
      ⟨[("replicas", .int 1)], [("small", ⟨[("tier", .str "s")], []⟩)]⟩ ∧
    Misread (twoBlocks [("replicas", .int 1)] "small" [(plainSelectorField, stringList ["shop"])])
      ⟨[("replicas", .int 1)], [("small", ⟨[], ["shop"]⟩)]⟩ ∧
    Misread (twoBlocks [("replicas", .int 1)] "patchers" []) ⟨[("replicas", .int 1)], []⟩ := by
  refine ⟨misread_twoBlocks (by decide) rfl fun h => ?_, misread_twoBlocks (by decide) rfl fun h => ?_,
    misread_twoBlocks (by decide) rfl fun h => absurd h.blocks (by decide)⟩
  · exact absurd (h.keys "small" _ (.tail _ (.head _)) (by decide)).1 (by decide)
  · exact absurd (h.keys "small" _ (.tail _ (.head _)) (by decide)).2 (by decide)

end Record

end Rollout
