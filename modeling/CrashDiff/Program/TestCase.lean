import CrashDiff.Files.Path
import CrashDiff.Generation.TypeList
import CrashDiff.Program.Source

/-!
# Test cases

A case is a body with an identifier, its source text, and the path where it is staged. Building a
case writes nothing.
-/

namespace CrashDiff

/-- A generated program and the place of its file. -/
structure TestCase where
  identifier : Int
  parameters : List Int
  arguments : List Int
  source : String
  path : Path
deriving DecidableEq, Repr

namespace TestCase

/-- The case of a body, staged in a directory. -/
def build (identifier : Int) (body : Body) (directory : Path) (typeCount : Nat) : TestCase where
  identifier := identifier
  parameters := body.parameters
  arguments := body.arguments
  source := Source.render identifier body.parameters body.arguments typeCount
  path := directory.child (Source.fileName identifier)

/-- The case whose numbers are given, staged in a directory. -/
def compose (identifier : Whole) (parameters arguments : List Whole) (directory : Path)
    (typeCount : Nat) : Except Failure TestCase := do
  let source ← Source.compose identifier parameters arguments typeCount
  let name ← Source.composeFileName identifier
  return {
    identifier := identifier.value
    parameters := parameters.map Whole.value
    arguments := arguments.map Whole.value
    source := source
    path := directory.child name }

end TestCase

end CrashDiff
