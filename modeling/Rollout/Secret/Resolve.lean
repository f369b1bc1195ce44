import Rollout.Json.Printer
import Rollout.Record.Secret

/-!
# Resolving secrets

A registry knows how to open a store for each kind of provider.  A reference is resolved through the
store of the one provider that a specification fills in; nothing is kept between two resolutions.

* `resolveSecret` : the value of a secret, or why there is none.
-/

set_option autoImplicit false

namespace Rollout

/-- A store of secrets that has been opened: it answers a reference with a value, with nothing, or
with a failure. -/
abbrev SecretStore := SecretRef → Except Failure (Option String)

/-- Opens the store of a provider. -/
abbrev StoreFactory := SecretProvider → Except Failure SecretStore

/-- The ways of opening stores, by kind of provider. -/
structure SecretRegistry where
  factories : List (String × StoreFactory) := []

namespace FakeProvider

/-- Whether a secret is the one that a reference means. -/
def isMeant (ref : SecretRef) (s : FakeSecret) : Bool := s.key = ref.name && s.version = ref.version

/-- What a secret answers: a property if one is asked for, else the value; a secret that has only
properties answers with all of them. -/
def answer (ref : SecretRef) (s : FakeSecret) : Except SecretError String :=
  if ref.property ≠ "" then
    match Assoc.lookup ref.property s.properties with
    | some value => .ok value
    | none => .error (.noProperty ref.name ref.property)
  else if s.value = "" ∧ s.properties ≠ [] then
    .ok (Json.writeSorted (Record.stringFields s.properties))
  else .ok s.value

/-- Reads a secret written into the specification. -/
def read (p : FakeProvider) (ref : SecretRef) : Except SecretError String :=
  match p.secrets.find? (isMeant ref) with
  | some s => answer ref s
  | none => .error (.notFound ref.name ref.version)

/-- The store of the secrets written into the specification. -/
def store (p : FakeProvider) : SecretStore := fun ref =>
  match p.read ref with
  | .ok value => .ok (some value)
  | .error e => .error (.secret e)

/-- Opens the store of the secrets written into the specification. -/
def factory : StoreFactory
  | .fake p => .ok p.store
  | _ => .ok fun ref => .error (.secret (.notFound ref.name ref.version))

end FakeProvider

namespace SecretRegistry

/-- The registry that knows only the secrets written into a specification. -/
def builtIn : SecretRegistry := ⟨[("fake", FakeProvider.factory)]⟩

/-- The kinds of providers that a registry knows, in ascending order. -/
def kinds (r : SecretRegistry) : List String :=
  (Assoc.keys r.factories).mergeSort fun a b => decide (a ≤ b)

/-- Makes a way of opening stores known. -/
def register (kind : String) (factory : StoreFactory) (r : SecretRegistry) : SecretRegistry :=
  ⟨Assoc.put kind factory r.factories⟩

/-- Opens the store of the provider that a specification fills in. -/
def storeFor (r : SecretRegistry) (spec : ProviderSpec) : Except Failure SecretStore :=
  match spec.single? with
  | .error e => .error (.configuration e)
  | .ok provider =>
    match Assoc.lookup provider.kind r.factories with
    | none => .error (.secret (.unregistered provider.kind))
    | some factory => factory provider

end SecretRegistry

/-- What a failure of a store is reported as: a refused configuration, a secret that could not be
resolved and a cancelled task as they are, anything else as an unreadable secret. -/
def SecretRef.failedRead (ref : SecretRef) : Failure → Failure
  | .secret e => .secret e
  | .configuration e => .configuration e
  | .cancelled text => .cancelled text
  | e => .secret (.unreadable ref.name e.message)

/-- The value of a secret. -/
def resolveSecret (registry : SecretRegistry) (ref : SecretRef) (spec : ProviderSpec) :
    Except Failure String :=
  match registry.storeFor spec with
  | .error e => .error e
  | .ok store =>
    match store ref with
    | .error e => .error (ref.failedRead e)
    | .ok none => .error (.secret (.noValue ref.name))
    | .ok (some value) => .ok value

end Rollout
