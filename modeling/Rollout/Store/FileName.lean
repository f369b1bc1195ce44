import Rollout.Failure
import Rollout.Text.Digit

/-!
# Names of files and directories

A stack directory holds one file a stored revision, one file a claimed revision, and for the time of
a write one scratch file.  Their names are the revision with an ending.  The parts of a triple name
directories, and are admitted only when they are plain (`isPlainName`).
-/

set_option autoImplicit false

namespace Rollout.FileName

/-- The ending of the files that hold a release. -/
def recordEnding : List Char := ".joblib".toList

/-- The ending of the files that claim a revision. -/
def claimEnding : List Char := ".claim".toList

/-- The ending of files that are being written. -/
def scratchEnding : List Char := ".tmp".toList

/-- The name of a revision's file with an ending. -/
def ofRevision (ending : List Char) (revision : Int) : String :=
  String.ofList ((toString revision).toList ++ ending)

/-- The part of a name before an ending. -/
def stem? (ending : List Char) (name : String) : Option (List Char) :=
  let cs := name.toList
  if ending.isSuffixOf cs then some (cs.take (cs.length - ending.length)) else none

/-- The part of a name before an ending, if it is made of digits. -/
def digits? (ending : List Char) (name : String) : Option (List Char) :=
  match stem? ending name with
  | some stem => if !stem.isEmpty && stem.all Text.isDigitLike then some stem else none
  | none => none

/-- The revision that digits stand for.  Digits that have no place value stand for none. -/
def revision (digits : List Char) : Except Failure Int :=
  match Text.numeral? digits with
  | some n => .ok n
  | none => .error (.noNumeral (String.ofList digits))

/-- The revisions of the names with an ending. -/
def revisions (ending : List Char) (names : List String) : Except Failure (List Int) :=
  (names.filterMap (digits? ending)).mapM revision

/-- The number of bytes that a name may have. -/
def maxBytes : Nat := 255

/-- Whether a name is too long for a file or a directory. -/
def isTooLong (name : String) : Bool := maxBytes < name.utf8ByteSize

/-- Whether a character may start a plain name. -/
def startsPlain (c : Char) : Bool := c.isAlphanum

/-- Whether a character may follow in a plain name. -/
def isPlain (c : Char) : Bool := c.isAlphanum || c = '.' || c = '_' || c = '-'

/-- Whether a text is plain up to one line break at its end. -/
def isPlainRest : List Char → Bool
  | [] => true
  | ['\n'] => true
  | c :: rest => isPlain c && isPlainRest rest

/-- Whether a name is plain: a letter or digit, then letters, digits, dots, underscores and hyphens,
and possibly one line break at the end. -/
def isPlainName (name : String) : Bool :=
  match name.toList with
  | [] => false
  | c :: rest => startsPlain c && isPlainRest rest

end Rollout.FileName
