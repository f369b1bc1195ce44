import Rollout.Proofs.Workspace.Validation
import Rollout.Secret.Resolve

/-!
# How the resolution of a secret ends

A secret is read from the store of the one provider that a specification fills in.  What goes wrong
on the way is to be reported in two ways: the configuration is refused, or the secret could not be
resolved.  The failures of an opened store are translated so; those of the way of opening it are not.

* `Resolves` : the ways in which the resolution of a secret ends;
* `resolveSecret_eq_iff` : it ends in one of them, and in no other;
* `resolves_ok_iff`, `resolves_configuration_iff`, `resolves_secret_iff`, `resolves_error_iff` : which
  of the ways lead to an answer;
* `resolveSecret_ends` : which value or failure it ends with, and when only the two failures can be met;
* `resolveSecret_escapes` : a failure of a third kind.
-/

set_option autoImplicit false

namespace Rollout

/-- A failure that the resolution of a secret is meant to end with: the configuration is refused, or
the secret could not be resolved. -/
inductive Failure.OfResolution : Failure → Prop
  | configuration (e : ConfigurationError) : OfResolution (.configuration e)
  | secret (e : SecretError) : OfResolution (.secret e)

/-- A specification fills in one provider, whose store is opened with this answer. -/
def SecretRegistry.Opens (registry : SecretRegistry) (spec : ProviderSpec)
    (answer : Except Failure SecretStore) : Prop :=
  ∃ provider factory, spec.single? = .ok provider ∧
    Assoc.lookup provider.kind registry.factories = some factory ∧ factory provider = answer

/-- The stores that are opened for a specification fail to read a secret only in ordinary ways. -/
def SecretRegistry.ReadsOrdinarily (registry : SecretRegistry) (ref : SecretRef)
    (spec : ProviderSpec) : Prop :=
  ∀ store, registry.Opens spec (.ok store) → ∀ e, store ref = .error e → e.IsOrdinary

/-- Why an answer of a store leaves a secret unresolved. -/
inductive SecretRef.Unread (ref : SecretRef) : Except Failure (Option String) → SecretError → Prop
  | noValue : Unread ref (.ok none) (.noValue ref.name)
  | secret (e : SecretError) : Unread ref (.error (.secret e)) e
  | other {e : Failure} (other : ¬ e.OfResolution) :
      Unread ref (.error e) (.unreadable ref.name e.message)

/-- The ways in which the resolution of a secret ends. -/
inductive Resolves (registry : SecretRegistry) (ref : SecretRef) (spec : ProviderSpec) :
    Except Failure String → Prop
  | value {store : SecretStore} {value : String} (opens : registry.Opens spec (.ok store))
      (answered : store ref = .ok (some value)) : Resolves registry ref spec (.ok value)
  | misfilled {e : ConfigurationError} (single : spec.single? = .error e) :
      Resolves registry ref spec (.error (.configuration e))
  | unregistered {provider : SecretProvider} (single : spec.single? = .ok provider)
      (unknown : Assoc.lookup provider.kind registry.factories = none) :
      Resolves registry ref spec (.error (.secret (.unregistered provider.kind)))
  | unopened {e : Failure} (opens : registry.Opens spec (.error e)) :
      Resolves registry ref spec (.error e)
  | refused {store : SecretStore} {e : ConfigurationError} (opens : registry.Opens spec (.ok store))
      (answered : store ref = .error (.configuration e)) :
      Resolves registry ref spec (.error (.configuration e))
  | unread {store : SecretStore} {answer : Except Failure (Option String)} {e : SecretError}
      (opens : registry.Opens spec (.ok store)) (answered : store ref = answer)
      (unread : ref.Unread answer e) : Resolves registry ref spec (.error (.secret e))

variable {registry : SecretRegistry} {ref : SecretRef} {spec : ProviderSpec}

/-- A store that is opened with an answer is what the registry answers with. -/
theorem SecretRegistry.Opens.storeFor {answer : Except Failure SecretStore}
    (h : registry.Opens spec answer) : registry.storeFor spec = answer := by
  obtain ⟨provider, factory, hsingle, hknown, rfl⟩ := h
  simp only [SecretRegistry.storeFor, hsingle, hknown]

/-- What a store fails with, where it leaves a secret unresolved. -/
theorem SecretRef.failedRead_of_not {e : Failure} (hordinary : e.IsOrdinary)
    (h : ¬ e.OfResolution) : ref.failedRead e = .secret (.unreadable ref.name e.message) := by
  cases e with
  | configuration e => exact absurd (.configuration e) h
  | secret e => exact absurd (.secret e) h
  | cancelled text => exact absurd rfl (hordinary text)
  | _ => rfl

/-- **The resolution of a secret ends in one of the ways listed**, where stores fail in ordinary
ways. -/
theorem resolveSecret_spec (hordinary : registry.ReadsOrdinarily ref spec) :
    Resolves registry ref spec (resolveSecret registry ref spec) := by
  cases hsingle : spec.single? with
  | error e =>
    simp only [resolveSecret, SecretRegistry.storeFor, hsingle]
    exact .misfilled hsingle
  | ok provider =>
    cases hknown : Assoc.lookup provider.kind registry.factories with
    | none =>
      simp only [resolveSecret, SecretRegistry.storeFor, hsingle, hknown]
      exact .unregistered hsingle hknown
    | some factory =>
      have hopens : registry.Opens spec (factory provider) := ⟨_, _, hsingle, hknown, rfl⟩
      cases hfactory : factory provider with
      | error e =>
        rw [hfactory] at hopens
        simp only [resolveSecret, hopens.storeFor]
        exact .unopened hopens
      | ok store =>
        rw [hfactory] at hopens
        simp only [resolveSecret, hopens.storeFor]
        match hread : store ref with
        | .ok none => exact .unread hopens hread .noValue
        | .ok (some value) => exact .value hopens hread
        | .error e =>
          by_cases hdeclared : e.OfResolution
          · cases hdeclared with
            | configuration e => exact .refused hopens hread
            | secret e => exact .unread hopens hread (.secret e)
          · simp only [SecretRef.failedRead_of_not (hordinary store hopens e hread) hdeclared]
            exact .unread hopens hread (.other hdeclared)

/-- The resolution of a secret ends in no other way. -/
theorem Resolves.eq {answer : Except Failure String} (h : Resolves registry ref spec answer)
    (hordinary : registry.ReadsOrdinarily ref spec) :
    resolveSecret registry ref spec = answer := by
  unfold resolveSecret
  cases h with
  | value hopens hread => simp only [hopens.storeFor, hread]
  | misfilled hsingle => simp only [SecretRegistry.storeFor, hsingle]
  | unregistered hsingle hunknown => simp only [SecretRegistry.storeFor, hsingle, hunknown]
  | unopened hopens => simp only [hopens.storeFor]
  | refused hopens hread => simp only [hopens.storeFor, hread, SecretRef.failedRead]
  | unread hopens hread hunread =>
    simp only [hopens.storeFor, hread]
    cases hunread with
    | noValue => rfl
    | secret e => rfl
    | other hother =>
      simp only [SecretRef.failedRead_of_not (hordinary _ hopens _ hread) hother]

/-- **The ways listed are the only ones.** -/
theorem resolveSecret_eq_iff (hordinary : registry.ReadsOrdinarily ref spec)
    {answer : Except Failure String} :
    resolveSecret registry ref spec = answer ↔ Resolves registry ref spec answer :=
  ⟨fun h => h ▸ resolveSecret_spec hordinary, fun h => h.eq hordinary⟩

/-! ## Values and failures -/

/-- The value of a secret is the one that its store gives. -/
theorem resolves_ok_iff {value : String} : Resolves registry ref spec (.ok value) ↔
    ∃ store, registry.Opens spec (.ok store) ∧ store ref = .ok (some value) := by
  constructor
  · rintro ⟨hopens, hread⟩
    exact ⟨_, hopens, hread⟩
  · rintro ⟨store, hopens, hread⟩
    exact .value hopens hread

/-- A specification without a single provider is refused. -/
theorem ProviderSpec.not_existsUnique_of_single {e : ConfigurationError}
    (h : spec.single? = .error e) : ¬ ∃! provider, spec.Has provider := by
  rw [← Workspace.exists_single_iff, h]
  rintro ⟨_, heq⟩
  cases heq

/-- The configuration is refused for the specification, or by a store or the way of opening it. -/
theorem resolves_configuration_iff {e : ConfigurationError} :
    Resolves registry ref spec (.error (.configuration e)) ↔
      (¬ ∃! provider, spec.Has provider) ∧ spec.single? = .error e ∨
        registry.Opens spec (.error (.configuration e)) ∨
        ∃ store, registry.Opens spec (.ok store) ∧ store ref = .error (.configuration e) := by
  constructor
  · intro h
    cases h with
    | misfilled hsingle => exact .inl ⟨ProviderSpec.not_existsUnique_of_single hsingle, hsingle⟩
    | unopened hopens => exact .inr (.inl hopens)
    | refused hopens hread => exact .inr (.inr ⟨_, hopens, hread⟩)
  · rintro (⟨-, hsingle⟩ | hopens | ⟨store, hopens, hread⟩)
    · exact .misfilled hsingle
    · exact .unopened hopens
    · exact .refused hopens hread

/-- A secret is not resolved for want of a store, or since the store or the way of opening it does
not give its value. -/
theorem resolves_secret_iff {e : SecretError} :
    Resolves registry ref spec (.error (.secret e)) ↔
      (∃ provider, spec.single? = .ok provider ∧
        Assoc.lookup provider.kind registry.factories = none ∧ e = .unregistered provider.kind) ∨
        registry.Opens spec (.error (.secret e)) ∨
        ∃ store, registry.Opens spec (.ok store) ∧ ref.Unread (store ref) e := by
  constructor
  · intro h
    cases h with
    | unregistered hsingle hunknown => exact .inl ⟨_, hsingle, hunknown, rfl⟩
    | unopened hopens => exact .inr (.inl hopens)
    | unread hopens hread hunread => exact .inr (.inr ⟨_, hopens, hread ▸ hunread⟩)
  · rintro (⟨provider, hsingle, hunknown, rfl⟩ | hopens | ⟨store, hopens, hunread⟩)
    · exact .unregistered hsingle hunknown
    · exact .unopened hopens
    · exact .unread hopens rfl hunread

/-- A failure of a third kind is that of a way of opening stores. -/
theorem resolves_error_iff {e : Failure} (hother : ¬ e.OfResolution) :
    Resolves registry ref spec (.error e) ↔ registry.Opens spec (.error e) := by
  refine ⟨fun h => ?_, .unopened⟩
  cases h with
  | unopened hopens => exact hopens
  | misfilled => exact absurd (.configuration _) hother
  | refused => exact absurd (.configuration _) hother
  | unregistered => exact absurd (.secret _) hother
  | unread => exact absurd (.secret _) hother

/-- **How the resolution of a secret ends**: with the value that the store gave; with a refused
configuration, if the specification does not fill in exactly one provider or if the store or the way
of opening it refuses it; with a secret that could not be resolved; or with whatever else the way of
opening the store fails with, and with nothing else.  So only the two failures are met exactly if
no store is opened with a failure of another kind. -/
theorem resolveSecret_ends (registry : SecretRegistry) (ref : SecretRef) (spec : ProviderSpec)
    (hordinary : registry.ReadsOrdinarily ref spec) :
    (∀ value, resolveSecret registry ref spec = .ok value ↔
      ∃ store, registry.Opens spec (.ok store) ∧ store ref = .ok (some value)) ∧
    (∀ e, resolveSecret registry ref spec = .error (.configuration e) ↔
      (¬ ∃! provider, spec.Has provider) ∧ spec.single? = .error e ∨
        registry.Opens spec (.error (.configuration e)) ∨
        ∃ store, registry.Opens spec (.ok store) ∧ store ref = .error (.configuration e)) ∧
    (∀ e, resolveSecret registry ref spec = .error (.secret e) ↔
      (∃ provider, spec.single? = .ok provider ∧
        Assoc.lookup provider.kind registry.factories = none ∧ e = .unregistered provider.kind) ∨
        registry.Opens spec (.error (.secret e)) ∨
        ∃ store, registry.Opens spec (.ok store) ∧ ref.Unread (store ref) e) ∧
    (∀ e, ¬ e.OfResolution →
      (resolveSecret registry ref spec = .error e ↔ registry.Opens spec (.error e))) ∧
    ((∀ e, resolveSecret registry ref spec = .error e → e.OfResolution) ↔
      ∀ e, registry.Opens spec (.error e) → e.OfResolution) := by
  simp only [resolveSecret_eq_iff hordinary]
  refine ⟨fun _ => resolves_ok_iff, fun _ => resolves_configuration_iff, fun _ => resolves_secret_iff,
    fun _ => resolves_error_iff, forall_congr' fun e => ?_⟩
  by_cases hdeclared : e.OfResolution
  · exact iff_of_true (fun _ => hdeclared) fun _ => hdeclared
  · rw [resolves_error_iff hdeclared]

/-! ## A vault -/

/-- The provider of a vault. -/
def ProviderSpec.vaultOnly : ProviderSpec := { vault := some { server := "https://vault:8200" } }

/-- The vault is opened, but cannot be read. -/
def SecretRegistry.sealedVault : SecretRegistry :=
  ⟨[("vault", fun _ => .ok fun _ => .error (.foreign "RuntimeError" "vault is sealed"))]⟩

/-- The vault cannot be opened. -/
def SecretRegistry.closedVault : SecretRegistry :=
  ⟨[("vault", fun _ => .error (.foreign "RuntimeError" "vault is sealed"))]⟩

/-- A store that cannot be read is reported as a secret that could not be resolved. -/
theorem resolveSecret_ends_sealed :
    resolveSecret .sealedVault { name := "db" } .vaultOnly =
      .error (.secret (.unreadable "db" "vault is sealed")) := by
  have hopens : SecretRegistry.sealedVault.Opens .vaultOnly
      (.ok fun _ => .error (.foreign "RuntimeError" "vault is sealed")) := ⟨_, _, rfl, rfl, rfl⟩
  refine ((resolveSecret_ends .sealedVault { name := "db" } .vaultOnly fun store hstore e he => ?_).2.2.1
    _).mpr (.inr (.inr ⟨_, hopens, .other nofun⟩))
  cases hopens.storeFor.symm.trans hstore.storeFor
  cases he
  exact nofun

/-- **A failure of a third kind**: the failure of a way of opening stores is passed on as it is. -/
theorem resolveSecret_escapes :
    ¬ ∀ registry ref spec e, resolveSecret registry ref spec = .error e → e.OfResolution :=
  fun h => nomatch h .closedVault { name := "db" } .vaultOnly
    (.foreign "RuntimeError" "vault is sealed") rfl

end Rollout
