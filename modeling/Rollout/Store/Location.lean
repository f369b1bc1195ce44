import Rollout.Store.Directory
import Rollout.Text.Path

/-!
# Where the files of a store lie

The names of a triple are joined to the root of a store, one after the other, and the name of a file
to the directory that they lead to.  Names that are not plain lead nowhere.  A `Disk` keeps the
directories by their triples; this is where they are.
-/

set_option autoImplicit false

namespace Rollout.DirectoryStore

/-- The directory of a triple. -/
def directory (root : Text.Path) (t : Triple) : Except Failure Text.Path :=
  match checkNames t with
  | .error e => .error e
  | .ok _ => .ok (t.parts.foldl Text.Path.join root)

/-- A file in the directory of a triple. -/
def file (root : Text.Path) (t : Triple) (name : String) : Except Failure Text.Path :=
  match directory root t with
  | .error e => .error e
  | .ok place => .ok (place.join name)

/-- The file that holds a revision's release. -/
def recordFile (root : Text.Path) (t : Triple) (revision : Int) : Except Failure Text.Path :=
  file root t (recordName revision)

/-- The file that claims a revision. -/
def claimFile (root : Text.Path) (t : Triple) (revision : Int) : Except Failure Text.Path :=
  file root t (claimName revision)

/-- The file that a revision's release is first written to. -/
def scratchFile (root : Text.Path) (t : Triple) (revision : Int) : Except Failure Text.Path :=
  file root t (scratchName revision)

/-- The files that there may be of a revision. -/
def files (root : Text.Path) (t : Triple) (revision : Int) : List (Except Failure Text.Path) :=
  [recordFile root t revision, claimFile root t revision, scratchFile root t revision]

end Rollout.DirectoryStore
