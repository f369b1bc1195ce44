import Rollout.Text.Segments

/-!
# Paths

The plain form of a path leaves out empty parts and single dots.  It keeps double dots, which may
lead through links, and a root of one slash or of exactly two.

* `plainPath` : the plain form of a path, as a text;
* `Path.join` : where a path leads from a place.
-/

set_option autoImplicit false

namespace Rollout.Text

/-- The slashes at the root of a path: three or more count as one. -/
def pathRoot (cs : List Char) : List Char :=
  let slashes := cs.takeWhile (· = '/')
  if 2 < slashes.length then ['/'] else slashes

/-- The parts of a path that lead anywhere. -/
def pathParts (path : String) : List String :=
  (split '/' path).filter fun part => part ≠ "" && part ≠ "."

/-- The plain form of a path. -/
def plainPath (path : String) : String :=
  let root := String.ofList (pathRoot path.toList)
  let plain := root ++ join "/" (pathParts path)
  if plain = "" then "." else plain

/-- A path in its plain form. -/
structure Path where
  /-- The slashes at its root. -/
  root : List Char
  parts : List String
deriving DecidableEq, Repr

namespace Path

/-- The path that a text stands for. -/
def ofText (text : String) : Path := ⟨pathRoot text.toList, pathParts text⟩

/-- Where a path leads from a place: one with a root leads there from anywhere. -/
def join (place : Path) (text : String) : Path :=
  let path := ofText text
  if path.root.isEmpty then ⟨place.root, place.parts ++ path.parts⟩ else path

end Path

end Rollout.Text
