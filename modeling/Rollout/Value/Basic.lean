import Rollout.Assoc
import Rollout.Number.Double

/-!
# Attribute values

The attributes of a resource are free-form: what a backend makes of them is no concern of the
engine.  A `Value` is a JSON value that keeps the order of its object keys and tells an integer
from a double.

* `Fields` : the entries of an object;
* `Value.Distinct` : no object, at any depth, has a key twice.
-/

set_option autoImplicit false

namespace Rollout

/-- A JSON value with ordered objects. -/
inductive Value where
  | null
  | bool (b : Bool)
  | int (i : Int)
  | double (x : Double)
  | str (s : String)
  | list (items : List Value)
  | object (fields : List (String × Value))
deriving Repr

/-- The entries of an object, in the order in which their keys were first written. -/
abbrev Fields := List (String × Value)

instance : Inhabited Value := ⟨.null⟩

/-! ## Decidable equality -/

namespace Value

mutual

/-- Whether two values are identical, key order included. -/
def identical : Value → Value → Bool
  | .null, .null => true
  | .bool a, .bool b => a == b
  | .int a, .int b => a == b
  | .double a, .double b => decide (a = b)
  | .str a, .str b => a == b
  | .list a, .list b => identicalList a b
  | .object a, .object b => identicalFields a b
  | _, _ => false

/-- Whether two lists of values are identical. -/
def identicalList : List Value → List Value → Bool
  | [], [] => true
  | a :: l, b :: r => identical a b && identicalList l r
  | _, _ => false

/-- Whether two lists of entries are identical. -/
def identicalFields : List (String × Value) → List (String × Value) → Bool
  | [], [] => true
  | (j, a) :: l, (k, b) :: r => j == k && identical a b && identicalFields l r
  | _, _ => false

end

mutual

theorem eq_of_identical : ∀ a b : Value, identical a b = true → a = b
  | .null, .null, _ => rfl
  | .bool a, .bool b, h => by simp_all [identical]
  | .int a, .int b, h => by simp_all [identical]
  | .double a, .double b, h => by simp_all [identical]
  | .str a, .str b, h => by simp_all [identical]
  | .list a, .list b, h => by
    rw [eq_of_identicalList a b (by simpa [identical] using h)]
  | .object a, .object b, h => by
    rw [eq_of_identicalFields a b (by simpa [identical] using h)]

theorem eq_of_identicalList : ∀ l r : List Value, identicalList l r = true → l = r
  | [], [], _ => rfl
  | a :: l, b :: r, h => by
    simp only [identicalList, Bool.and_eq_true] at h
    rw [eq_of_identical a b h.1, eq_of_identicalList l r h.2]

theorem eq_of_identicalFields : ∀ l r : List (String × Value), identicalFields l r = true → l = r
  | [], [], _ => rfl
  | (j, a) :: l, (k, b) :: r, h => by
    simp only [identicalFields, Bool.and_eq_true, beq_iff_eq] at h
    rw [h.1.1, eq_of_identical a b h.1.2, eq_of_identicalFields l r h.2]

end

mutual

theorem identical_self : ∀ a : Value, identical a a = true
  | .null => rfl
  | .bool _ => by simp [identical]
  | .int _ => by simp [identical]
  | .double _ => by simp [identical]
  | .str _ => by simp [identical]
  | .list a => by simpa [identical] using identicalList_self a
  | .object a => by simpa [identical] using identicalFields_self a

theorem identicalList_self : ∀ l : List Value, identicalList l l = true
  | [] => rfl
  | a :: l => by simp [identicalList, identical_self a, identicalList_self l]

theorem identicalFields_self : ∀ l : List (String × Value), identicalFields l l = true
  | [] => rfl
  | (k, a) :: l => by simp [identicalFields, identical_self a, identicalFields_self l]

end

theorem identical_iff (a b : Value) : identical a b = true ↔ a = b :=
  ⟨eq_of_identical a b, fun h => h ▸ identical_self a⟩

instance : DecidableEq Value := fun a b => decidable_of_iff _ (identical_iff a b)

end Value

namespace Value

mutual

/-- No object has a key twice. -/
def Distinct : Value → Prop
  | .list items => DistinctList items
  | .object fields => (Assoc.keys fields).Nodup ∧ DistinctFields fields
  | _ => True

/-- No object in any of the values has a key twice. -/
def DistinctList : List Value → Prop
  | [] => True
  | v :: rest => Distinct v ∧ DistinctList rest

/-- No object in any of the entries' values has a key twice. -/
def DistinctFields : List (String × Value) → Prop
  | [] => True
  | (_, v) :: rest => Distinct v ∧ DistinctFields rest

end

/-- Whether a value counts as present when a setting is read from it: not null, false, zero or
empty. -/
def truthy : Value → Bool
  | .null => false
  | .bool b => b
  | .int i => i != 0
  | .double x => !x.isZero
  | .str s => s != ""
  | .list items => !items.isEmpty
  | .object fields => !fields.isEmpty

end Value

end Rollout
