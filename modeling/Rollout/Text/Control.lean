/-!
# Control characters

Reports leave out the characters that would ring a bell or move the cursor of a terminal.
-/

set_option autoImplicit false

namespace Rollout.Text

/-- Whether a character rings the bell or moves the cursor back or down. -/
def isControl (c : Char) : Bool :=
  c = '\x07' || c = '\x08' || c = '\x0b' || c = '\x0c' || c = '\x0d'

/-- A text as a report shows it. -/
def clean (s : String) : String := String.ofList (s.toList.filter fun c => !isControl c)

end Rollout.Text
