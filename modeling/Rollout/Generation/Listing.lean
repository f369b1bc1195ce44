import Rollout.Generation.Pipeline
import Rollout.Secret.Resolve

/-!
# Listed resources and scripted patchers

The plainest generators and patchers: a generator that lists its resources and fills secrets into
their attributes, and a patcher that carries out a list of edits.
-/

set_option autoImplicit false

namespace Rollout

/-- A secret that goes into an attribute. -/
structure SecretUse where
  ref : SecretRef
  provider : ProviderSpec
  registry : SecretRegistry
  /-- The position of the resource; a negative one counts from the end. -/
  into : Int
  key : String

/-- A list of resources with secrets, and the failure in which it ends, if it does. -/
structure Listing where
  name : String
  resources : List Resource := []
  secrets : List SecretUse := []
  failure : Option Failure := none

namespace Listing

/-- The position that an index means, if there is one. -/
def position? (length : Nat) (index : Int) : Option Nat :=
  let i := if index < 0 then index + length else index
  if 0 ≤ i ∧ i < length then some i.toNat else none

/-- Fills a secret in. -/
def fill (use : SecretUse) (resources : List Resource) : Except Failure (List Resource) :=
  match resolveSecret use.registry use.ref use.provider with
  | .error e => .error e
  | .ok value =>
    match position? resources.length use.into with
    | none => .error .outOfRange
    | some i =>
      .ok (resources.modify i fun r =>
        { r with attributes := Assoc.put use.key (.str value) r.attributes })

/-- Fills secrets in. -/
def fillAll : List SecretUse → List Resource → Except Failure (List Resource)
  | [], resources => .ok resources
  | use :: rest, resources =>
    match fill use resources with
    | .error e => .error e
    | .ok resources => fillAll rest resources

/-- A listing as a generator. -/
def toGenerator (l : Listing) : Generator where
  name := l.name
  generate before :=
    match fillAll l.secrets l.resources with
    | .error e => .error e
    | .ok resources =>
      match l.failure with
      | some e => .error e
      | none => .ok (before ++ resources)

end Listing

/-- A step of a script: an edit, or the failure in which the script ends. -/
inductive ScriptStep where
  | edit (e : Edit)
  | fail (e : Failure)
deriving Repr

namespace ScriptStep

/-- Carries out the steps of a script. -/
def runAll : List ScriptStep → Workbench → Except Failure Workbench
  | [], b => .ok b
  | .fail e :: _, _ => .error e
  | .edit e :: rest, b => runAll rest (b.edit e)

/-- A script as a patcher. -/
def toPatcher (name : String) (steps : List ScriptStep) : Patcher := ⟨name, runAll steps⟩

end ScriptStep

end Rollout
