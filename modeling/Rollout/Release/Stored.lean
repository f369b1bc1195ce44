import Rollout.Release.Basic
import Rollout.Value.Dumped

/-!
# Stored releases

A store keeps what is written to a release's record, and there a double that is no finite number is
null.  A stored release is checked when it is read back: its revision has to be positive, its state
has to be known, and the resources it lists need identifiers.

* `Release.dumped` : the release that a record stands for;
* `Release.reread` : the release, or everything that is wrong with it.
-/

set_option autoImplicit false

namespace Rollout

/-- A resource as records hold it. -/
def Resource.dumped (r : Resource) : Resource :=
  { r with
    attributes := Value.dumpedFields r.attributes
    extensions := Value.dumpedFields r.extensions }

/-- The resources of a list that lack an identifier; `path` leads to the list. -/
def Resource.unnamed (path : List String) (resources : List Resource) : List Problem :=
  resources.zipIdx.filterMap fun (r, i) =>
    if r.id = "" then some ⟨path ++ ["resources", toString i, "id"], .emptyString⟩ else none

namespace Release

/-- A release as records hold it. -/
def dumped (r : Release) : Release :=
  { r with
    spec := r.spec.map (List.map Resource.dumped)
    state := r.state.map (List.map Resource.dumped) }

/-- What is wrong with a release that is read back. -/
def problems (r : Release) : List Problem :=
  (if r.revision < 1 then [⟨["revision"], .belowMinimum⟩] else [])
    ++ Resource.unnamed ["spec"] (r.spec.getD [])
    ++ (if r.state = none then [⟨["state"], .notRecord⟩] else [])
    ++ Resource.unnamed ["state"] r.resources

/-- A release as it is read back. -/
def reread (r : Release) : Except Failure Release :=
  if r.problems.isEmpty then .ok r else .error (.invalid r.problems)

end Release

end Rollout
