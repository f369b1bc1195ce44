/-!
# Closed paths

A depth-first walk over numbered nodes.  Roots and edges are visited in order, so the closed path
that is found does not change from run to run.

* `findCycle next n` : a closed path of nodes below `n`, its first node repeated at the end.
-/

set_option autoImplicit false

namespace Rollout

namespace Walk

/-- Follows one edge out of the end of a path, unless a closed path has been found already.  An edge
back into the path closes it; a finished node is not entered again. -/
def follow (explore : List Nat → List Nat → Nat → Except (List Nat) (List Nat)) (path : List Nat)
    (found : Except (List Nat) (List Nat)) (target : Nat) : Except (List Nat) (List Nat) :=
  match found with
  | .error cycle => .error cycle
  | .ok finished =>
    if path.contains target then .error (path.dropWhile (· ≠ target) ++ [target])
    else if finished.contains target then .ok finished
    else explore path finished target

/-- Explores a node: the answer is a closed path, or the nodes finished so far.  A path without
repetition has at most as many nodes as there are, which bounds the depth of the walk. -/
def explore (next : Nat → List Nat) :
    Nat → List Nat → List Nat → Nat → Except (List Nat) (List Nat)
  | 0, _, finished, _ => .ok finished
  | room + 1, path, finished, node =>
    let here := path ++ [node]
    match (next node).foldl (follow (explore next room) here) (.ok finished) with
    | .error cycle => .error cycle
    | .ok finished => .ok (node :: finished)

/-- Explores a root, unless it is finished or a closed path has been found already. -/
def fromRoot (next : Nat → List Nat) (n : Nat) (found : Except (List Nat) (List Nat)) (root : Nat) :
    Except (List Nat) (List Nat) :=
  match found with
  | .error cycle => .error cycle
  | .ok finished =>
    if finished.contains root then .ok finished else explore next n [] finished root

end Walk

/-- A closed path among the nodes below `n`, if there is one. -/
def findCycle (next : Nat → List Nat) (n : Nat) : Option (List Nat) :=
  match (List.range n).foldl (Walk.fromRoot next n) (.ok []) with
  | .error cycle => some cycle
  | .ok _ => none

end Rollout
