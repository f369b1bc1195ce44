import Rollout.Record.Field
import Rollout.Settings.Basic
import Rollout.Settings.EnvFile
import Rollout.Text.Path

/-!
# Reading settings

Settings are given by variables of the environment, or else by an environment file.  The variable of
a setting is its name behind a fixed start, in any case of letters; of several variables that differ
in case only, the last one counts.  A setting that is given nowhere has its default.
-/

set_option autoImplicit false

namespace Rollout.Settings

/-- What the names of all variables start with, in lower case. -/
def variableStart : List Char := "sy_".toList

/-- The name of the setting that a variable gives. -/
def settingOf? (variableName : String) : Option String :=
  let cs := variableName.toLower.toList
  if variableStart.isPrefixOf cs then some (String.ofList (cs.drop variableStart.length)) else none

/-- The texts that variables give to settings. -/
def textsOf {α : Type} (named : List (String × α)) : List (String × α) :=
  Assoc.ofList (named.filterMap fun (name, value) => (settingOf? name).map (·, value))

/-- The texts that an environment and an environment file give to settings; the environment goes
before the file. -/
def texts (environment : List (String × String)) (file : Option String) : Fields :=
  let named := match file with
    | some text => textsOf (EnvFile.resolve environment text)
    | none => []
  let fromFile := named.filterMap fun (name, value) => value.map (name, ·)
  (Assoc.overlay fromFile (textsOf environment)).map fun (name, text) => (name, .str text)

/-- A number of seconds that is not zero or below. -/
def seconds (v : Value) : Checked Double :=
  match Record.double v with
  | .ok x => if x.isPositive || x = .nan then .ok x else .fault .notAbove
  | .error problems => .error problems

/-- A path in its plain form. -/
def path (v : Value) : Checked String := (Record.string v).map Text.plainPath

/-- The setting with a name, or its default. -/
def setting {α : Type} (name : String) (default : α) (read : Value → Checked α) (fs : Fields) :
    Checked α :=
  Record.optional name name default read fs

/-- Reads the settings that texts give. -/
def ofTexts (fs : Fields) : Checked Settings :=
  let defaults : Settings := {}
  (Checked.map Settings.mk (setting "log_level" defaults.logLevel Record.string fs))
    |>.app (setting "state_dir" defaults.stateDir path fs)
    |>.app (setting "action_timeout_seconds" defaults.timeout seconds fs)
    |>.app (setting "max_concurrency" defaults.concurrency Record.positive fs)

/-- Reads the settings from an environment and an environment file. -/
def read (environment : List (String × String)) (file : Option String) : Checked Settings :=
  ofTexts (texts environment file)

end Rollout.Settings
