/-!
# Ordered maps

A map is the list of its entries, in the order in which their keys were first written.

* `Assoc.lookup`, `Assoc.put`, `Assoc.erase` : one entry a key;
* `Assoc.overlay`, `Assoc.ofList` : of several entries for a key the last one counts.
-/

set_option autoImplicit false

namespace Rollout.Assoc

variable {κ α : Type} [DecidableEq κ]

/-- The value of a key. -/
def lookup (key : κ) : List (κ × α) → Option α
  | [] => none
  | (k, v) :: rest => if k = key then some v else lookup key rest

/-- The keys in order. -/
def keys (entries : List (κ × α)) : List κ := entries.map Prod.fst

/-- Whether a key has an entry. -/
def has (key : κ) (entries : List (κ × α)) : Bool := (lookup key entries).isSome

/-- Gives a key a value: in place if it has one, else as a new last entry. -/
def put (key : κ) (value : α) : List (κ × α) → List (κ × α)
  | [] => [(key, value)]
  | (k, v) :: rest => if k = key then (k, value) :: rest else (k, v) :: put key value rest

/-- Removes the entry of a key. -/
def erase (key : κ) (entries : List (κ × α)) : List (κ × α) :=
  entries.filter fun entry => entry.1 ≠ key

/-- Lays the entries of a map over another one. -/
def overlay (base top : List (κ × α)) : List (κ × α) :=
  top.foldl (fun acc entry => put entry.1 entry.2 acc) base

/-- The map that holds the last value written for each key. -/
def ofList (entries : List (κ × α)) : List (κ × α) := overlay [] entries

end Rollout.Assoc
