import Rollout.CommandLine.Arguments
import Rollout.CommandLine.Help
import Rollout.Console.Layout
import Rollout.Console.Markup
import Rollout.Report.Release
import Rollout.Store.Basic

/-!
# Running commands

The commands read a store and print reports.  A command that meets one of the engine's own failures
reports it and ends with code 1; any other failure ends it with the same code and no report.  A
command line that is not usable ends with code 2.

* `Command.run` : how a command ends and what it prints;
* `CommandLine.run` : the same of a command line.
-/

set_option autoImplicit false

namespace Rollout

/-- How a command ends: its exit code, and what it prints. -/
structure Reply where
  code : Nat
  output : String := ""
deriving DecidableEq, Repr

namespace Command

/-- The version of the program. -/
def versionText : String := "0.1.0"

/-- A reply of one text with markup, printed on a console of a width.  Markup that does not match
ends the command with code 1. -/
def say (width code : Nat) (markup : String) : Reply :=
  match Console.Markup.plain? markup with
  | some text => ⟨code, Console.printed width text⟩
  | none => ⟨1, ""⟩

/-- The reply of a command that met a failure. -/
def failed (width : Nat) (title : String) (e : Failure) : Reply :=
  if e.isOwn then
    say width 1 ("\n[bold red]✗ " ++ title ++ " failed:[/bold red] " ++ e.message)
  else ⟨1, ""⟩

/-- A resource with what it depends on. -/
def resourceLine (r : Resource) : String :=
  let backend := r.backend.name
  let needs :=
    if r.dependsOn.isEmpty then "" else " (depends on: " ++ Text.join ", " r.dependsOn ++ ")"
  "  " ++ backend ++ Console.blanks (10 - backend.length) ++ " " ++ r.id ++ needs

/-- Lists the releases of a stack. -/
def listReleases {σ : Type} [Backing σ] (width : Nat) (t : Triple) (s : σ) : Reply :=
  match Store.list t s with
  | .error e => failed width "Releases" e
  | .ok [] => say width 0 ("[dim]No releases for " ++ t.label ++ "[/dim]")
  | .ok found => ⟨0, (Report.releases found).render⟩

/-- The release with a revision, or the latest one. -/
def find {σ : Type} [Backing σ] (t : Triple) (revision : Option Int) (s : σ) :
    Except Failure (Option Release) :=
  match revision with
  | none => Store.latest t s
  | some revision =>
    match Store.get t revision s with
    | .ok r => .ok (some r)
    | .error e => .error e

/-- Shows one release. -/
def showRelease {σ : Type} [Backing σ] (width : Nat) (t : Triple) (revision : Option Int) (s : σ) :
    Reply :=
  match find t revision s with
  | .error e => failed width "Show" e
  | .ok none => say width 1 ("[bold red]✗ No releases for " ++ t.label ++ "[/bold red]")
  | .ok (some r) => ⟨0, Console.printed width (Report.release r)⟩

/-- Lists the resources of the latest release. -/
def listState {σ : Type} [Backing σ] (width : Nat) (t : Triple) (s : σ) : Reply :=
  let nothing := say width 0 ("[dim]No resources recorded for " ++ t.label ++ "[/dim]")
  match Store.latest t s with
  | .error e => failed width "State" e
  | .ok none => nothing
  | .ok (some r) =>
    if r.resources.isEmpty then nothing
    else
      let title := say width 0 ("[bold blue]State of " ++ r.label ++ "[/bold blue]")
      let lines := r.resources.map fun resource => Console.printed width (resourceLine resource)
      { title with output := title.output ++ String.join lines }

/-- Runs a command over a store, on a console of a width. -/
def run {σ : Type} [Backing σ] (width : Nat) (s : σ) : Command → Reply
  | .releases t => listReleases width t s
  | .release t revision => showRelease width t revision s
  | .state t => listState width t s
  | .version => say width 0 ("Shipyard version: [bold]" ++ versionText ++ "[/bold]")
  | .help topic => ⟨0, Help.text width topic⟩

end Command

/-- Runs a command line over a store, on a console of a width. -/
def CommandLine.run {σ : Type} [Backing σ] (width : Nat) (s : σ) (args : List String) : Reply :=
  match Command.ofArguments? args with
  | some command => command.run width s
  | none => ⟨2, ""⟩

end Rollout
