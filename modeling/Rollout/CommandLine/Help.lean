import Rollout.Assoc
import Rollout.Console.Panel

/-!
# Help

What is printed when help is asked for, of the program or of one command: how it is used, what it
does, and panels with its operands, its options and the commands that there are.

* `Help.text` : the help of the program or of a command, for a console of a width.
-/

set_option autoImplicit false

namespace Rollout

/-- An operand or an option. -/
structure Parameter where
  /-- The long name of an option. -/
  long : String := ""
  /-- The short name of an option, or the name of an operand. -/
  short : String := ""
  kind : String
  about : String
deriving DecidableEq, Repr

/-- What help says of the program, or of a command. -/
structure Help where
  /-- How it is used, behind its name. -/
  usage : String
  about : String
  operands : List Parameter := []
  options : List Parameter
  /-- The commands, each with what it does. -/
  commands : List (List String) := []
deriving DecidableEq, Repr

namespace Help

/-- The name of the program. -/
def programName : String := "shipyard"

/-- The option that asks for help. -/
def helpOption : Parameter :=
  { long := "--help", kind := "<bool>", about := "Show this message and exit." }

/-- The option that gives a revision. -/
def revisionOption : Parameter :=
  { long := "--revision", short := "-r", kind := "<int>",
    about := "Revision to show (default: latest)" }

/-- The names of a stack, as operands. -/
def tripleOperands : List Parameter :=
  ["project", "workspace", "stack"].map fun name =>
    { short := name, kind := "<str>", about := name.capitalize ++ " name" }

/-- The help of a command over the releases of a stack. -/
def ofStackCommand (name about : String) (options : List Parameter) : Help :=
  { usage := " " ++ name ++ " [OPTIONS] PROJECT WORKSPACE STACK", about,
    operands := tripleOperands, options := options ++ [helpOption] }

/-- The commands, each with its help. -/
def commandHelps : List (String × Help) := [
  ("releases", ofStackCommand "releases"
    "List every Release of a project stack in a workspace." []),
  ("show", ofStackCommand "show"
    "Show one Release with its recorded action outcomes." [revisionOption]),
  ("state", ofStackCommand "state"
    "List the resources of the latest recorded State in apply order." []),
  ("version", { usage := " version [OPTIONS]", about := "Show Shipyard version.",
                options := [helpOption] })]

/-- The help of the program. -/
def ofProgram : Help where
  usage := " [OPTIONS] COMMAND [ARGS]..."
  about := "Declarative infrastructure delivery releases"
  options := [helpOption]
  commands := commandHelps.map fun (name, h) => [name, h.about]

/-- The texts of a parameter.  Two columns are kept for names that turn an option off. -/
def parameterRow (p : Parameter) : List String := [p.long, p.short, "", "", p.kind, p.about]

/-- The texts of an operand, which is required. -/
def operandRow (p : Parameter) : List String :=
  "*" :: parameterRow { p with about := p.about ++ " [required]" }

/-- The panels of a help; those without rows are left out. -/
def panels (h : Help) : List Console.Panel :=
  [(⟨"Arguments", h.operands.map operandRow⟩ : Console.Panel),
    ⟨"Options", h.options.map parameterRow⟩, ⟨"Commands", h.commands⟩].filter (!·.rows.isEmpty)

/-- The lines of a help on a console of a width. -/
def lines (width : Nat) (h : Help) : List String :=
  ["", " Usage: " ++ programName ++ h.usage, "", " " ++ h.about, ""].map (Console.padTo width)
    ++ h.panels.flatMap (Console.Panel.lines width) ++ [""]

/-- The help of the program, or of a command. -/
def ofTopic : Option String → Help
  | none => ofProgram
  | some name => (Assoc.lookup name commandHelps).getD ofProgram

/-- The help of the program, or of a command, for a console of a width. -/
def text (width : Nat) (topic : Option String) : String :=
  String.join (((ofTopic topic).lines width).map (· ++ "\n"))

end Help

end Rollout
