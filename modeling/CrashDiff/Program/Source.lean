import CrashDiff.Whole

/-!
# Source texts

The program text of a case: one marker type for each tag, a function with the parameters, and a
second function that calls the first one with the arguments. Nothing requires the program to be
well typed.

The text is laid out from the texts of its numbers. `render` lays out any numbers; `compose` writes
the numbers that are given, and fails if one of them has too many digits.
-/

namespace CrashDiff.Source

open Text

/-! ## The layout -/

/-- The name of the type whose tag is written in a certain way. -/
def nameOf (tag : String) : String :=
  "S" ++ tag

/-- The text of a case whose numbers are written in a certain way. Both functions have the
identifier in their names. -/
def layout (types : List String) (identifier : String) (parameters arguments : List String) :
    String :=
  String.intercalate "\n" (types.map fun tag => "struct " ++ nameOf tag ++ ";") ++ "\n\n" ++
    "fn foo" ++ identifier ++ "(" ++
    String.intercalate ", " (parameters.map fun tag => "_: " ++ nameOf tag) ++ ") \x7b\x7d\n\n" ++
    "fn test" ++ identifier ++ "() \x7b foo" ++ identifier ++ "(" ++
    String.intercalate ", " (arguments.map nameOf) ++ "); \x7d\n"

/-- The layout of the name of the file of a case. -/
def fileNameOf (identifier : String) : String :=
  "fuzz" ++ identifier ++ ".rs"

/-! ## Any numbers -/

/-- The name of the type with a tag. -/
def typeName (tag : Int) : String :=
  nameOf (numeral tag)

/-- The tags of the types from one to `typeCount`. -/
def tagsTo (typeCount : Nat) : List Int :=
  (List.range typeCount).map fun (i : Nat) => (i : Int) + 1

/-- The text of a case. -/
def render (identifier : Int) (parameters arguments : List Int) (typeCount : Nat) : String :=
  layout ((tagsTo typeCount).map numeral) (numeral identifier) (parameters.map numeral)
    (arguments.map numeral)

/-- The name of the file of a case. -/
def fileName (identifier : Int) : String :=
  fileNameOf (numeral identifier)

/-! ## Numbers that are given -/

/-- The text of a case whose numbers are given. -/
def compose (identifier : Whole) (parameters arguments : List Whole) (typeCount : Nat) :
    Except Failure String := do
  let types ← ((tagsTo typeCount).map Whole.number).mapM Whole.written
  let parameters ← parameters.mapM Whole.written
  let arguments ← arguments.mapM Whole.written
  let identifier ← identifier.written
  return layout types identifier parameters arguments

/-- The name of the file of a case whose identifier is given. -/
def composeFileName (identifier : Whole) : Except Failure String :=
  identifier.written.map fileNameOf

end CrashDiff.Source
