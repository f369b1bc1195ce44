import Rollout.CommandLine.Run
import Rollout.Json.Reader
import Rollout.Record.Release
import Rollout.Settings.Read
import Rollout.Store.Directory

/-!
# The program

Reads the settings and the records of the stack that the command line names, runs the command over
them and prints its reply.  Record files hold releases as JSON.
-/

set_option autoImplicit false

namespace Rollout.Program

/-- The time of records that give none. -/
def epoch : DateTime := DateTime.ofInstant 0 0

/-- The width of the console. -/
def width : Nat := 300

/-- The variables of the environment that settings are read from. -/
def variableNames : List String :=
  ["SY_LOG_LEVEL", "SY_STATE_DIR", "SY_ACTION_TIMEOUT_SECONDS", "SY_MAX_CONCURRENCY"]

/-- The text of a file, if it can be read. -/
def text? (path : String) : IO (Option String) := do
  match (← (IO.FS.readFile path).toBaseIO) with
  | .ok text => return some text
  | .error _ => return none

/-- The variables that are set. -/
def environment : IO (List (String × String)) := do
  let found ← variableNames.mapM fun name => do
    return (← IO.getEnv name).map fun value => (name, value)
  return found.filterMap id

/-- What the text of a record file stands for. -/
def entryOf (text : String) : Entry :=
  match (Json.read text).map (Record.release epoch) with
  | some (.ok r) => .release r
  | _ => .text

/-- Reads the files of one revision after the other, up to one that is neither stored nor
claimed. -/
partial def readFrom (folder : String) (t : Triple) (revision : Nat) (d : Disk) : IO Disk := do
  let file := fun name => folder ++ "/" ++ name
  let record := DirectoryStore.recordName revision
  let claim := DirectoryStore.claimName revision
  let stored ← text? (file record)
  let claimed ← text? (file claim)
  if stored.isNone && claimed.isNone then return d
  else
    let d := match stored with
      | some text => d.put t record (entryOf text)
      | none => d
    let d := if claimed.isSome then d.put t claim .text else d
    readFrom folder t (revision + 1) d

/-- The directory of a triple, if its names are plain. -/
def readDisk (stateDir : String) (t : Triple) : IO Disk := do
  if t.parts.all FileName.isPlainName then
    readFrom (Text.join "/" (stateDir :: t.parts)) t 1 {}
  else return {}

/-- The triple that a command is about. -/
def tripleOf? : Command → Option Triple
  | .releases t | .release t _ | .state t => some t
  | .version | .help _ => none

end Rollout.Program

open Rollout in
/-- Runs a command line. -/
def main (args : List String) : IO UInt32 := do
  match Settings.read (← Program.environment) (← Program.text? ".env") with
  | .error problems =>
    IO.eprintln (Failure.invalid problems).message
    return 1
  | .ok settings =>
    match Command.ofArguments? args with
    | none =>
      IO.eprint (Help.text Program.width none)
      return 2
    | some command =>
      let disk ← match Program.tripleOf? command with
        | some t => Program.readDisk settings.stateDir t
        | none => pure {}
      let reply := command.run Program.width ({ disk } : DirectoryStore)
      IO.print reply.output
      return UInt32.ofNat reply.code
