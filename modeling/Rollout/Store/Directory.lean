import Rollout.Store.Basic
import Rollout.Store.FileName

/-!
# Stores in a directory

Every triple has a directory, three levels below the root.  A revision is reserved by creating its
claim file exclusively, which is what several stores over one root agree by: a store that finds the
claim file there already looks at the directory anew.  The claim file is removed once the release is
stored.  A release is written to a scratch file that is renamed in the end.

Whatever else stands in a directory may be in the way: a file that holds no release, or a directory
where a file is expected.
-/

set_option autoImplicit false

namespace Rollout

/-- What a name in a directory stands for. -/
inductive Entry where
  | release (r : Release)
  /-- A file that holds no release. -/
  | text
  | folder
deriving Repr

/-- The directories of all triples, with their entries by name. -/
structure Disk where
  folders : List (Triple × List (String × Entry)) := []
deriving Repr

namespace Disk

/-- The entries of a triple's directory, if it exists. -/
def folder? (t : Triple) (d : Disk) : Option (List (String × Entry)) := Assoc.lookup t d.folders

/-- The entries of a triple's directory. -/
def entries (t : Triple) (d : Disk) : List (String × Entry) := (d.folder? t).getD []

/-- The entry with a name. -/
def entry? (t : Triple) (name : String) (d : Disk) : Option Entry := Assoc.lookup name (d.entries t)

/-- Whether there is an entry with a name. -/
def has (t : Triple) (name : String) (d : Disk) : Bool := (d.entry? t name).isSome

/-- Makes sure that a triple has a directory. -/
def make (t : Triple) (d : Disk) : Disk := ⟨Assoc.put t (d.entries t) d.folders⟩

/-- Gives a name an entry, in a directory that exists or is made. -/
def put (t : Triple) (name : String) (e : Entry) (d : Disk) : Disk :=
  ⟨Assoc.put t (Assoc.put name e (d.entries t)) d.folders⟩

/-- Removes the entry with a name. -/
def remove (t : Triple) (name : String) (d : Disk) : Disk :=
  match d.folder? t with
  | none => d
  | some entries => ⟨Assoc.put t (Assoc.erase name entries) d.folders⟩

/-- The names in a triple's directory, in ascending order. -/
def names? (t : Triple) (d : Disk) : Option (List String) :=
  (d.folder? t).map fun entries => (Assoc.keys entries).mergeSort fun a b => decide (a ≤ b)

end Disk

/-- A store over the directories of a disk. -/
structure DirectoryStore where
  disk : Disk := {}
  /-- Whether the next look at the claim files comes too early to see any. -/
  blind : Bool := false
deriving Repr

namespace DirectoryStore

open FileName

/-- The name of the file that holds a revision's release. -/
def recordName (revision : Int) : String := ofRevision recordEnding revision

/-- The name of the file that claims a revision. -/
def claimName (revision : Int) : String := ofRevision claimEnding revision

/-- The name of the file that a revision's release is first written to. -/
def scratchName (revision : Int) : String := ofRevision scratchEnding revision

/-- Refuses triples with a name that is not plain. -/
def checkNames (t : Triple) : Except Failure Unit :=
  match t.parts.find? fun part => !isPlainName part with
  | some part => .error (.store (.invalidName part))
  | none => .ok ()

/-- Refuses names that cannot be looked up. -/
def checkLength (names : List String) : Except Failure Unit :=
  match names.find? isTooLong with
  | some name => .error (.nameTooLong name)
  | none => .ok ()

/-- Refuses what no file of a triple's directory can be called. -/
def checkFile (t : Triple) (name : String) : Except Failure Unit :=
  match checkNames t with
  | .error e => .error e
  | .ok _ => checkLength (t.parts ++ [name])

/-- The revisions of the files with an ending. -/
def revisionsWith (ending : List Char) (t : Triple) (d : Disk) : Except Failure (List Int) :=
  FileName.revisions ending (Assoc.keys (d.entries t))

/-- The revision after all that are stored or claimed; claims that are not seen are left out. -/
def next (sighted : Bool) (t : Triple) (d : Disk) : Except Failure Int :=
  match revisionsWith recordEnding t d with
  | .error e => .error e
  | .ok stored =>
    if sighted then
      match revisionsWith claimEnding t d with
      | .error e => .error e
      | .ok claimed => .ok (lastRevision (stored ++ claimed) + 1)
    else .ok (lastRevision stored + 1)

/-- The next revision that is not claimed: when the claim file of the first choice is there already,
the directory is looked at anew. -/
def nextFree (blind : Bool) (t : Triple) (d : Disk) : Except Failure Int :=
  match next (!blind) t d with
  | .error e => .error e
  | .ok revision => if d.has t (claimName revision) then next true t d else .ok revision

/-- Whether the stored revisions can be read; the claim files are looked at only after them. -/
def seesRecords (t : Triple) (d : Disk) : Bool :=
  match revisionsWith recordEnding t d with
  | .ok _ => true
  | .error _ => false

/-- Claims the next revision. -/
def reserve (t : Triple) (s : DirectoryStore) : Except Failure Int × DirectoryStore :=
  match checkNames t with
  | .error e => (.error e, s)
  | .ok _ =>
    if t.parts.any isTooLong then (.error (.store .noDirectory), s)
    else
      let disk := s.disk.make t
      match nextFree s.blind t disk with
      | .error e => (.error e, ⟨disk, s.blind && !seesRecords t disk⟩)
      | .ok revision =>
        if isTooLong (claimName revision) then (.error (.store .unreservable), ⟨disk, false⟩)
        else (.ok revision, ⟨disk.put t (claimName revision) .text, false⟩)

/-- Whether the claim file of a revision is there. -/
def isReserved (t : Triple) (revision : Int) (s : DirectoryStore) : Except Failure Bool :=
  match checkFile t (claimName revision) with
  | .error e => .error e
  | .ok _ => .ok (s.disk.has t (claimName revision))

/-- Removes the claim file of a revision; a directory in its place stays. -/
def dropReservation (t : Triple) (revision : Int) (s : DirectoryStore) : DirectoryStore :=
  match s.disk.entry? t (claimName revision) with
  | some .text | some (.release _) => { s with disk := s.disk.remove t (claimName revision) }
  | _ => s

/-- Writes a release to the scratch file and renames it. -/
def write (r : Release) (s : DirectoryStore) : Except Failure DirectoryStore :=
  match s.disk.folder? r.triple, s.disk.entry? r.triple (scratchName r.revision) with
  | none, _ | _, some .folder => .error (.store .unwritable)
  | _, _ =>
    let disk := s.disk.remove r.triple (scratchName r.revision)
    .ok { s with disk := disk.put r.triple (recordName r.revision) (.release r) }

/-- Writes a release at a revision that has none. -/
def insert (r : Release) (s : DirectoryStore) : Except Failure DirectoryStore :=
  match checkFile r.triple (recordName r.revision) with
  | .error e => .error e
  | .ok _ =>
    if s.disk.has r.triple (recordName r.revision) then
      .error (.conflict (.taken r.revision r.triple.label))
    else s.write r

/-- Writes a release at a revision that has one. -/
def replace (r : Release) (s : DirectoryStore) : Except Failure DirectoryStore :=
  match checkFile r.triple (recordName r.revision) with
  | .error e => .error e
  | .ok _ => s.write r

/-- Reads the release at a revision. -/
def load (t : Triple) (revision : Int) (s : DirectoryStore) : Except Failure (Option Release) :=
  match checkFile t (recordName revision) with
  | .error e => .error e
  | .ok _ =>
    match s.disk.entry? t (recordName revision) with
    | none => .ok none
    | some (.release r) => .ok (some r)
    | some .text | some .folder => .error (.store .unloadable)

/-- The stored revisions. -/
def revisions (t : Triple) (s : DirectoryStore) : Except Failure (List Int) :=
  match checkNames t with
  | .error e => .error e
  | .ok _ =>
    match checkLength t.parts with
    | .error e => .error e
    | .ok _ =>
      match revisionsWith recordEnding t s.disk with
      | .error e => .error e
      | .ok found => .ok (ascending found)

instance : Backing DirectoryStore where
  reserve t s := s.reserve t
  isReserved t revision s := s.isReserved t revision
  dropReservation t revision s := s.dropReservation t revision
  insert r s := s.insert r
  replace r s := s.replace r
  load t revision s := s.load t revision
  revisions t s := s.revisions t

end DirectoryStore

end Rollout
