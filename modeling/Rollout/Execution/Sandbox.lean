import Rollout.Execution.Run

/-!
# Sandbox backends

A backend in memory, for dry runs: it holds the live resources by identifier, logs every call, takes
as long as it is told to and fails where it is told to, which may be told for every call on every
resource.  One sandbox may stand for several kinds of backends, which then share their live
resources, or hold them apart.
-/

set_option autoImplicit false

namespace Rollout

/-- What a backend is asked to do. -/
inductive Call where
  | apply
  | delete
  | read
deriving DecidableEq, Repr

/-- The name of a call. -/
def Call.name : Call → String
  | .apply => "apply"
  | .delete => "delete"
  | .read => "read"

/-- What a call does to the live resources. -/
inductive Effect where
  | none
  | put (r : Resource)
  | drop (r : Resource)
deriving DecidableEq, Repr

/-- A backend in memory. -/
structure Sandbox where
  /-- The kinds of backends it stands for. -/
  serves : List Backend := Backend.all
  /-- The kinds of backends that hold their live resources apart from the others. -/
  apart : List Backend := []
  /-- The live resources by identifier. -/
  objects : List (String × Resource) := []
  /-- The live resources that are held apart, by identifier. -/
  annex : List (String × Resource) := []
  /-- Every call, in the order in which the calls were made. -/
  calls : List (Call × String) := []
  /-- How many nanoseconds a call on a resource takes. -/
  delay : Call → String → Nat := fun _ _ => 0
  /-- What a call on a resource fails with, if it fails. -/
  failure? : Call → String → Option Failure := fun _ _ => none
  /-- What applying a resource answers, where that is not the resource itself. -/
  answer? : String → Option (Option Resource) := fun _ => none

namespace Sandbox

/-- Logs a call. -/
def log (call : Call) (id : String) (s : Sandbox) : Sandbox :=
  { s with calls := s.calls ++ [(call, id)] }

/-- The live resources that a kind of backend holds. -/
def held (b : Backend) (s : Sandbox) : List (String × Resource) :=
  if s.apart.contains b then s.annex else s.objects

/-- Changes the live resources that a kind of backend holds. -/
def changeHeld (b : Backend) (f : List (String × Resource) → List (String × Resource))
    (s : Sandbox) : Sandbox :=
  if s.apart.contains b then { s with annex := f s.annex } else { s with objects := f s.objects }

/-- Changes the live resources. -/
def affect (e : Effect) (s : Sandbox) : Sandbox :=
  match e with
  | .none => s
  | .put r => s.changeHeld r.backend (Assoc.put r.id r)
  | .drop r => s.changeHeld r.backend (Assoc.erase r.id)

/-- What is live of a resource. -/
def live (r : Resource) (s : Sandbox) : Option Resource := Assoc.lookup r.id (s.held r.backend)

/-- Sets or removes live resources behind the engine's back. -/
def setAll (entries : List (String × Option Resource)) (s : Sandbox) : Sandbox :=
  entries.foldl
    (fun s (id, r) => match r with
      | some r => { s with objects := Assoc.put id r s.objects }
      | none => { s with objects := Assoc.erase id s.objects }) s

/-- The live resources, in ascending order of the identifiers they are kept under. -/
def inventory (s : Sandbox) : List (String × Resource) :=
  s.objects.mergeSort fun a b => decide (a.1 ≤ b.1)

/-- The call that carries out an action. -/
def callOf (c : Change) : Call :=
  match c.sides with
  | .delete _ => .delete
  | _ => .apply

/-- What a successful action does to the live resources. -/
def effectOf (c : Change) : Effect :=
  match c.sides with
  | .delete current => .drop current
  | sides => .put sides.resource

/-- What a successful action answers. -/
def answerOf (s : Sandbox) (c : Change) : Option Resource :=
  match c.sides with
  | .delete _ => none
  | sides => (s.answer? sides.resource.id).getD (some sides.resource)

/-- The outcome of an action that failed.  An action whose task is cancelled counts as
interrupted. -/
def failed (timeoutText : String) : Failure → Outcome
  | .timedOut _ => .failed timeoutText
  | .cancelled _ => .failed "interrupted before completion"
  | e => .failed e.label

/-- The outcome and the effect of an action that is given the time it takes. -/
def perform (timeoutText : String) (s : Sandbox) (c : Change) : Outcome × Effect :=
  match s.failure? (callOf c) c.resource.id with
  | some e => (failed timeoutText e, .none)
  | none => (.succeeded (s.answerOf c), effectOf c)

end Sandbox

end Rollout
