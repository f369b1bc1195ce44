import Rollout.Failure

/-!
# Checked values

Reading a record finds every problem in it, not only the first.  A `Checked` value is either a value
or the problems met on the way; combining two of them keeps the problems of both, in order.
-/

set_option autoImplicit false

namespace Rollout

/-- A value, or all the problems that stand in its way. -/
abbrev Checked (α : Type) := Except (List Problem) α

namespace Checked

variable {α β γ : Type}

/-- A single problem at the place that is being read. -/
def fault (f : Fault) : Checked α := .error [⟨[], f⟩]

/-- Puts a step in front of the path of every problem. -/
def under (step : String) : Checked α → Checked α
  | .ok a => .ok a
  | .error problems => .error (problems.map fun p => { p with path := step :: p.path })

/-- Two values, or the problems of both. -/
def both : Checked α → Checked β → Checked (α × β)
  | .ok a, .ok b => .ok (a, b)
  | .error p, .ok _ => .error p
  | .ok _, .error q => .error q
  | .error p, .error q => .error (p ++ q)

/-- Changes a value that is there. -/
def map (f : α → β) : Checked α → Checked β
  | .ok a => .ok (f a)
  | .error p => .error p

/-- A function of one more checked value. -/
def app (f : Checked (α → β)) (x : Checked α) : Checked β := map (fun p => p.1 p.2) (both f x)

/-- All values of a list, each read with its position, or the problems of all. -/
def list (read : Value → Checked α) : Nat → List Value → Checked (List α)
  | _, [] => .ok []
  | i, v :: rest =>
    map (fun p => p.1 :: p.2) (both (under (toString i) (read v)) (list read (i + 1) rest))

/-- All entries of an object, each read under its key, or the problems of all. -/
def entries (read : Value → Checked α) : Fields → Checked (List (String × α))
  | [] => .ok []
  | (key, v) :: rest =>
    map (fun p => (key, p.1) :: p.2) (both (under key (read v)) (entries read rest))

end Checked

end Rollout
