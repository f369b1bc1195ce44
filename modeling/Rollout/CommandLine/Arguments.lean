import Rollout.Number.Numeral
import Rollout.Release.Basic

/-!
# Command lines

A command line names a command and gives its operands and options in any order.  Every command but
`version` takes a project, a workspace and a stack; `show` takes a revision as well, as
`--revision N`, `--revision=N`, `-r N` or `-rN`, the last one of several counting.  A double hyphen
ends the options.  An option that is not known, an operand too many or too few, and a revision that
is no integer make a command line unusable.  In front of the command may stand options of the
program, of which there is only the one for help.

* `Command.ofArguments?` : the command that a command line gives, if it is usable.
-/

set_option autoImplicit false

namespace Rollout

/-- What a command line asks for. -/
inductive Command where
  /-- List the releases of a stack. -/
  | releases (t : Triple)
  /-- Show one release, the latest one if no revision is given. -/
  | release (t : Triple) (revision : Option Int)
  /-- List the resources of the latest release. -/
  | state (t : Triple)
  | version
  /-- Show the help of the program, or of a command. -/
  | help (topic : Option String)
deriving DecidableEq, Repr

namespace Command

/-- What stands on a command line behind the name of a command. -/
structure Operands where
  plain : List String := []
  /-- The revision as it is written. -/
  revision : Option String := none
  help : Bool := false
deriving DecidableEq, Repr

/-- An option: help, or a revision, which is given with the option or as the next argument. -/
inductive OptionUse where
  | help
  | revision (text : Option String)
deriving DecidableEq, Repr

/-- Whether an argument is an option. -/
def isOption (arg : String) : Bool := arg.toList.head? = some '-' && 1 < arg.length

/-- The use of an option that an argument makes, if the option is known. -/
def optionUse? (takesRevision : Bool) (arg : String) : Option OptionUse :=
  let cs := arg.toList
  let name := String.ofList (cs.takeWhile (· ≠ '='))
  let given := cs.dropWhile (· ≠ '=')
  let value := if given.isEmpty then none else some (String.ofList (given.drop 1))
  if name = "--help" then (if value.isNone then some .help else none)
  else if !takesRevision then none
  else if name = "--revision" then some (.revision value)
  else
    match cs with
    | '-' :: 'r' :: [] => some (.revision none)
    | '-' :: 'r' :: text => some (.revision (some (String.ofList text)))
    | _ => none

/-- Puts an option in front of what follows it, where a later revision goes before it. -/
def Operands.withOption (use : OptionUse) (o : Operands) : Operands :=
  match use with
  | .help => { o with help := true }
  | .revision text => { o with revision := o.revision.or text }

/-- Reads operands and options. -/
def operands? (takesRevision : Bool) : List String → Option Operands
  | [] => some {}
  | [arg] =>
    if arg = "--" then some {}
    else if isOption arg then
      match optionUse? takesRevision arg with
      | none | some (.revision none) => none
      | some use => some (Operands.withOption use {})
    else some { plain := [arg] }
  | arg :: next :: rest =>
    if arg = "--" then some { plain := next :: rest }
    else if isOption arg then
      match optionUse? takesRevision arg with
      | none => none
      | some (.revision none) =>
        (operands? takesRevision rest).map (Operands.withOption (.revision (some next)))
      | some use => (operands? takesRevision (next :: rest)).map (Operands.withOption use)
    else
      (operands? takesRevision (next :: rest)).map fun o => { o with plain := arg :: o.plain }

/-- The triple that three operands give. -/
def triple? : List String → Option Triple
  | [project, workspace, stack] => some ⟨project, workspace, stack⟩
  | _ => none

/-- The command with a name and operands, unless help is asked for. -/
def ofOperands? (name : String) (o : Operands) : Option Command :=
  match name with
  | "releases" => (triple? o.plain).map .releases
  | "show" =>
    match triple? o.plain, o.revision with
    | none, _ => none
    | some t, none => some (.release t none)
    | some t, some text => (Numeral.integer text).toOption.map fun n => .release t (some n)
  | "state" => (triple? o.plain).map .state
  | "version" => if o.plain.isEmpty then some .version else none
  | _ => none

/-- The names of all commands. -/
def names : List String := ["releases", "show", "state", "version"]

/-- The command that a name and the arguments behind it give. -/
def ofName? (name : String) (args : List String) : Option Command :=
  if name ∈ names then
    match operands? (name = "show") args with
    | none => none
    | some o => if o.help then some (.help (some name)) else ofOperands? name o
  else none

/-- Reads the options of the program: whether help is asked for, and what stands behind them. -/
def programOptions? : List String → Option (Bool × List String)
  | [] => some (false, [])
  | arg :: rest =>
    if arg = "--" then some (false, rest)
    else if !isOption arg then some (false, arg :: rest)
    else if arg = "--help" then (programOptions? rest).map fun (_, rest) => (true, rest)
    else none

/-- The help that options of the program ask for, where no command is named. -/
def programHelp? (args : List String) : Option Command :=
  match programOptions? args with
  | some (true, _) => some (.help none)
  | _ => none

/-- The command that a command line gives.  What stands in place of a command and names none is
taken for options of the program once more. -/
def ofArguments? (args : List String) : Option Command :=
  match programOptions? args with
  | none => none
  | some (true, _) => some (.help none)
  | some (false, []) => none
  | some (false, name :: rest) =>
    if name ∈ names then ofName? name rest else programHelp? (name :: rest)

end Command

end Rollout
