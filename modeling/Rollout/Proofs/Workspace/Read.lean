import Rollout.Proofs.Record.RoundTrip
import Rollout.Proofs.Value.Same
import Rollout.Proofs.Workspace.Validation
import Rollout.Record.Workspace

/-!
# Workspaces that were read

In a record no object has a key twice.  So no two patch blocks of a module that is read have one
name, whether the blocks are written out or inline.  That is all that the check of a workspace relies
on.

* `Record.moduleConfig_keyed`, `Record.workspace_keyed` : modules that are read;
* `Workspace.check_covers` : what the check of a workspace refuses, and what it ensures.
-/

set_option autoImplicit false

namespace Rollout

namespace Record

open Checked

variable {α : Type} {read : Value → Checked α} {fs : Fields} {v : Value}

theorem keys_entries : ∀ {fs : Fields} {es : List (String × α)},
    entries read fs = .ok es → Assoc.keys es = Assoc.keys fs
  | [], _, h => by cases h; rfl
  | (key, _) :: rest, _, h => by
    obtain ⟨p, hp, rfl⟩ := exists_of_map h
    rw [Assoc.keys_cons, Assoc.keys_cons, keys_entries (exists_of_both hp).2]

/-- A field that is there is one of the entries. -/
theorem distinct_of_optional {name plain : String} {default a : α}
    (hdistinct : Value.DistinctFields fs) (h : optional name plain default read fs = .ok a) :
    a = default ∨ ∃ v, v.Distinct ∧ read v = .ok a := by
  unfold optional field? at h
  split at h
  · rename_i hfield
    refine .inr ⟨_, ?_, under_eq_ok_iff.mp h⟩
    split at hfield
    · rename_i hlookup
      obtain ⟨rfl, rfl⟩ := Prod.mk.inj (Option.some.inj hfield)
      exact Value.distinctFields_iff.mp hdistinct _ _ (Assoc.mem_of_lookup hlookup)
    · obtain ⟨w, hlookup, heq⟩ := Option.map_eq_some_iff.mp hfield
      obtain ⟨rfl, rfl⟩ := Prod.mk.inj heq
      exact Value.distinctFields_iff.mp hdistinct _ _ (Assoc.mem_of_lookup hlookup)
  · exact .inl (Except.ok.inj h).symm

theorem patchBlocks_nodup {patches : List (String × PatchBlock)}
    (hkeys : ∀ fs, v = .object fs → (Assoc.keys fs).Nodup) (h : patchBlocks v = .ok patches) :
    (Assoc.keys patches).Nodup := by
  have hread := under_eq_ok_iff.mp h
  cases v with
  | object fs =>
    rw [keys_entries hread]
    exact hkeys fs rfl
  | null | bool _ | int _ | double _ | str _ | list _ => cases hread

theorem moduleBlocks_nodup {blocks : ModuleBlocks} (hdistinct : v.Distinct)
    (h : moduleBlocks v = .ok blocks) : (Assoc.keys blocks.patches).Nodup := by
  cases v with
  | object fs =>
    obtain ⟨hnodup, hfields⟩ := hdistinct
    simp only [moduleBlocks, record] at h
    split at h
    · rename_i patches hlookup
      obtain ⟨_, _, hbase, hpatches, rfl⟩ := exists_of_app h
      obtain ⟨_, _, rfl⟩ := exists_of_map hbase
      refine patchBlocks_nodup (fun inner hinner => ?_) hpatches
      have hdistinct := Value.distinctFields_iff.mp hfields _ _ (Assoc.mem_of_lookup hlookup)
      rw [hinner] at hdistinct
      exact hdistinct.1
    · obtain ⟨_, _, hbase, hpatches, rfl⟩ := exists_of_app h
      obtain ⟨_, _, rfl⟩ := exists_of_map hbase
      refine patchBlocks_nodup (fun inner hinner => ?_) hpatches
      cases hinner
      exact Assoc.nodup_keys_erase defaultBlock hnodup
  | null | bool _ | int _ | double _ | str _ | list _ => cases h

/-- **No two patch blocks of a module that is read have one name.** -/
theorem moduleConfig_keyed {m : ModuleConfig} (hdistinct : v.Distinct)
    (h : moduleConfig v = .ok m) : m.Keyed := by
  cases v with
  | object fs =>
    obtain ⟨_, blocks, h₁, hblocks, rfl⟩ := exists_of_app h
    obtain ⟨_, _, h₂, _, rfl⟩ := exists_of_app h₁
    obtain ⟨_, _, rfl⟩ := exists_of_map h₂
    rcases distinct_of_optional hdistinct.2 hblocks with rfl | ⟨v, hv, hread⟩
    · exact List.nodup_nil
    · exact moduleBlocks_nodup hv hread
  | null | bool _ | int _ | double _ | str _ | list _ => cases h

/-- **So it is with every module of a workspace that is read.** -/
theorem workspace_keyed {w : Workspace} (hdistinct : v.Distinct) (h : workspace v = .ok w) :
    ∀ name m, (name, m) ∈ w.modules → m.Keyed := by
  cases v with
  | object fs =>
    obtain ⟨_, _, h₁, _, rfl⟩ := exists_of_app h
    obtain ⟨_, _, h₂, _, rfl⟩ := exists_of_app h₁
    obtain ⟨_, modules, h₃, hmodules, rfl⟩ := exists_of_app h₂
    obtain ⟨_, _, rfl⟩ := exists_of_map h₃
    intro name m hmem
    rcases distinct_of_optional hdistinct.2 hmodules with rfl | ⟨v, hv, hread⟩
    · cases hmem
    · cases v with
      | object inner =>
        obtain ⟨w, hw, hmodule⟩ := exists_of_mem_entries hread (name, m) hmem
        exact moduleConfig_keyed (Value.distinctFields_iff.mp hv.2 _ _ hw) hmodule
      | null | bool _ | int _ | double _ | str _ | list _ => cases hread
  | null | bool _ | int _ | double _ | str _ | list _ => cases h

end Record

namespace Workspace

/-- **The check of a workspace covers what can go wrong with its configuration later.**  It refuses
a workspace exactly if something is wrong with it.  With a workspace that it accepts, every module
has a configuration for every project, every Terraform resource an identifier, and the place for
secrets one provider.  A project has no configuration exactly if the check of the module finds it to
be contested.  The modules are as they are in every workspace that is read. -/
theorem check_covers (w : Workspace) :
    ((∃ e, w.check = .error e) ↔ w.Flawed) ∧
    (w.check = .ok () → (∀ name m, (name, m) ∈ w.modules → m.Keyed) →
      (∀ name m, (name, m) ∈ w.modules → ∀ project,
        ∃ fields, m.effective? project = .ok fields ∧ m.Configures project fields) ∧
      (∀ settings, w.backends = some settings → ∀ name p, (name, p) ∈ settings.terraform →
        ∀ type resource, ∃ id, terraformId? p.source type resource = .ok id) ∧
      ∀ store, w.secretStore = some store → ∃ spec provider, store.provider = some spec ∧
        spec.single? = .ok provider ∧ spec.Has provider) ∧
    (∀ m : ModuleConfig, m.Keyed → ∀ project, (∃ e, m.effective? project = .error e) ↔
      ∃ first second, .contested project first second ∈ m.issues) ∧
    ∀ v : Value, v.Distinct → Record.workspace v = .ok w →
      ∀ name m, (name, m) ∈ w.modules → m.Keyed := by
  refine ⟨exists_check_error_iff, fun hok hkeyed => ?_,
    fun m hkeyed project => ModuleConfig.exists_effective_error_iff hkeyed,
    fun v hdistinct hread => Record.workspace_keyed hdistinct hread⟩
  obtain ⟨hmodules, hproviders, hsecrets⟩ := check_eq_ok_iff.mp hok
  rw [moduleIssues_eq_nil_iff] at hmodules
  rw [providerIssues_eq_nil_iff] at hproviders
  rw [secretIssues_eq_nil_iff] at hsecrets
  refine ⟨fun name m hmem project => ?_, fun settings hbackends name p hmem type resource => ?_,
    fun store hstore => ?_⟩
  · cases heffective : m.effective? project with
    | ok fields => exact ⟨fields, rfl, ModuleConfig.configures_of_effective heffective⟩
    | error e =>
      obtain ⟨_, _, hissue⟩ :=
        (ModuleConfig.exists_effective_error_iff (hkeyed name m hmem)).mp ⟨e, heffective⟩
      exact absurd (ModuleConfig.flawed_iff.mpr ⟨_, ModuleConfig.mem_issues_iff.mp hissue⟩)
        (hmodules name m hmem)
  · exact exists_terraformId_iff.mpr (hproviders settings hbackends name p hmem)
  · obtain ⟨spec, provider, hspec, hprovider⟩ := hsecrets store hstore
    exact ⟨spec, provider, hspec, hprovider,
      (ProviderSpec.single_eq_ok_iff.mp hprovider provider).mpr rfl⟩

/-! ## A workspace that passes

The large block selects the shop twice, which does not matter.  In another module three blocks
select the shop. -/

namespace Passing

/-- A module with a patch block. -/
def service : ModuleConfig where
  blocks :=
    { base := [("replicas", .int 1), ("image", .str "web")]
      patches := [("large", ⟨[("replicas", .int 3)], ["shop", "shop"]⟩)] }

/-- The workspace. -/
def workspace : Workspace where
  modules := [("service", service)]
  backends :=
    some { terraform := [("cloud", { source := "registry.terraform.io/hashicorp/aws/5.0.1" })] }
  secretStore := some ⟨some { fake := some {} }⟩

/-- A module in which three patch blocks select the shop. -/
def disputed : ModuleConfig where
  blocks :=
    { patches :=
        [("large", ⟨[], ["shop"]⟩), ("red", ⟨[], ["blog", "shop"]⟩), ("new", ⟨[], ["shop"]⟩)] }

end Passing

/-- The workspace is accepted, and the other module has no configuration for the shop. -/
theorem check_covers_passing :
    Passing.workspace.check = .ok () ∧
    (∃ fields, Passing.service.effective? "shop" = .ok fields ∧
      Passing.service.Configures "shop" fields) ∧
    (∃ id, terraformId? "registry.terraform.io/hashicorp/aws/5.0.1" "aws_instance" "web" = .ok id) ∧
    ∃ e, Passing.disputed.effective? "shop" = .error e := by
  obtain ⟨-, hcovers, hcontested, -⟩ := check_covers Passing.workspace
  have hok : Passing.workspace.check = .ok () := rfl
  have hkeyed : ∀ name m, (name, m) ∈ Passing.workspace.modules → m.Keyed := by
    intro name m hmem
    obtain ⟨rfl, rfl⟩ := Prod.mk.inj (List.mem_singleton.mp hmem)
    exact List.nodup_singleton _
  obtain ⟨hmodules, hproviders, -⟩ := hcovers hok hkeyed
  refine ⟨hok, hmodules _ _ List.mem_cons_self "shop",
    hproviders _ rfl _ _ List.mem_cons_self "aws_instance" "web", ?_⟩
  refine (hcontested Passing.disputed ?_ "shop").mpr ⟨"large", "red", ?_⟩
  · unfold ModuleConfig.Keyed
    decide
  · decide

end Workspace

end Rollout
