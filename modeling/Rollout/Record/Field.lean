import Rollout.DateTime
import Rollout.Record.Checked
import Rollout.Value.Dumped

/-!
# Fields of records

How the fields of a record are read.  A field is looked up by its name in records and then by its
plain name, and a field with a default may be absent.  A number may be written as text, and a whole
double counts as an integer.
-/

set_option autoImplicit false

namespace Rollout.Record

variable {α : Type}

/-! ## Values of fields -/

/-- Any value. -/
def anything (v : Value) : Checked Value := .ok v

/-- A string. -/
def string : Value → Checked String
  | .str s => .ok s
  | _ => .fault .notString

/-- A string with at least one character. -/
def nonEmpty (v : Value) : Checked String :=
  match string v with
  | .ok s => if s = "" then .fault .emptyString else .ok s
  | .error p => .error p

/-- An object with arbitrary values. -/
def fields : Value → Checked Fields
  | .object fields => .ok fields
  | _ => .fault .notObject

/-- An object whose values are all read in one way. -/
def dictionary (read : Value → Checked α) : Value → Checked (List (String × α))
  | .object fields => .entries read fields
  | _ => .fault .notObject

/-- A list whose items are all read in one way. -/
def listOf (read : Value → Checked α) : Value → Checked (List α)
  | .list items => .list read 0 items
  | _ => .fault .notList

/-- A list of strings. -/
def strings : Value → Checked (List String) := listOf string

/-- One of a few literals. -/
def literal (name : α → String) (all : List α) : Value → Checked α
  | .str s =>
    match all.find? fun a => name a = s with
    | some a => .ok a
    | none => .fault .notLiteral
  | _ => .fault .notLiteral

/-- A value, or null for none. -/
def nullable (read : Value → Checked α) : Value → Checked (Option α)
  | .null => .ok none
  | v => (read v).map some

/-- A record: an object whose fields are read together. -/
def record (read : Fields → Checked α) : Value → Checked α
  | .object fields => read fields
  | _ => .fault .notRecord

/-! ## Numbers and times -/

/-- The bound that a double has to keep below, in absolute value, to count as an integer. -/
def doubleBound : Nat := Nat.pow 2 63

/-- An integer: a whole double, a boolean and a text that stands for one count as well. -/
def integer : Value → Checked Int
  | .int i => .ok i
  | .bool b => .ok (if b then 1 else 0)
  | .double x =>
    match x.toInt?, x with
    | some i, _ => if i.natAbs < doubleBound then .ok i else .fault .tooLarge
    | none, .finite _ _ _ => .fault .fraction
    | none, _ => .fault .notFinite
  | .str s =>
    match Numeral.integer s with
    | .ok i => .ok i
    | .error .malformed => .fault .noIntegerText
    | .error .tooLong => .fault .tooLarge
  | _ => .fault .notInteger

/-- An integer that is at least one. -/
def positive (v : Value) : Checked Int :=
  match integer v with
  | .ok i => if 1 ≤ i then .ok i else .fault .belowMinimum
  | .error p => .error p

/-- A number: an integer, a boolean and a text that stands for one count as well. -/
def double : Value → Checked Double
  | .double x => .ok x
  | .int i => .ok (.ofInt i)
  | .bool b => .ok (.ofInt (if b then 1 else 0))
  | .str s =>
    match Numeral.double? s with
    | some x => .ok x
    | none => .fault .noNumberText
  | _ => .fault .notNumber

/-- A date and time, or Unix seconds. -/
def time : Value → Checked DateTime
  | .str s =>
    match DateTime.ofText? s with
    | some d => .ok d
    | none => .fault .noTimeText
  | .int n =>
    match DateTime.ofSeconds? n, Double.ofInt n with
    | some d, _ => .ok d
    | none, .finite _ _ _ => .fault .timeOutOfRange
    | none, _ => .fault .notTime
  | .double x =>
    match DateTime.ofDouble? x with
    | some d => .ok d
    | none => .fault .timeOutOfRange
  | _ => .fault .notTime

/-! ## Looking up fields -/

/-- The name and the value of a field: its name in records goes before its plain name. -/
def field? (name plain : String) (fs : Fields) : Option (String × Value) :=
  match Assoc.lookup name fs with
  | some v => some (name, v)
  | none => (Assoc.lookup plain fs).map (plain, ·)

/-- A field that has to be there. -/
def required (name plain : String) (read : Value → Checked α) (fs : Fields) : Checked α :=
  match field? name plain fs with
  | some (used, v) => .under used (read v)
  | none => .under name (.fault .missing)

/-- A field with a default. -/
def optional (name plain : String) (default : α) (read : Value → Checked α) (fs : Fields) :
    Checked α :=
  match field? name plain fs with
  | some (used, v) => .under used (read v)
  | none => .ok default

/-! ## Writing -/

/-- A value, or null for none. -/
def orNull (write : α → Value) : Option α → Value
  | some a => write a
  | none => .null

/-- An object with arbitrary values as a value. -/
def freeFields (fs : Fields) : Value := .object (Value.dumpedFields fs)

/-- A list of strings as a value. -/
def stringList (items : List String) : Value := .list (items.map Value.str)

/-- An object of strings as a value. -/
def stringFields (entries : List (String × String)) : Value :=
  .object (entries.map fun (key, s) => (key, .str s))

end Rollout.Record
