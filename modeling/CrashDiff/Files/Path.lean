/-!
# Paths

A path is an anchor and the names below it. Empty names and names of a single point are dropped
when a path is read, and names of two points are kept. Exactly two leading slashes are an anchor
of their own; one of them, and three or more, are the root.
-/

namespace CrashDiff

/-- Where a path starts. -/
inductive Anchor where
  | relative
  | root
  | doubleRoot
deriving DecidableEq, Repr

/-- A path of the file system. -/
structure Path where
  anchor : Anchor
  names : List String
deriving DecidableEq, Repr

namespace Path

/-- The text of an anchor. -/
def anchorText : Anchor → String
  | .relative => ""
  | .root => "/"
  | .doubleRoot => "//"

/-- The anchor of a text. -/
def anchorOf : List Char → Anchor
  | '/' :: '/' :: '/' :: _ => .root
  | '/' :: '/' :: _ => .doubleRoot
  | '/' :: _ => .root
  | _ => .relative

/-- Whether a component of a path text is a name of its own. -/
def isName (component : List Char) : Bool :=
  component != [] && component != ['.']

/-- The components of a path text, empty ones included. -/
def components : List Char → List (List Char)
  | [] => [[]]
  | c :: cs =>
    if c = '/' then [] :: components cs
    else
      match components cs with
      | [] => [[c]]
      | l :: ls => (c :: l) :: ls

/-- The path that a text denotes. -/
def ofText (text : String) : Path where
  anchor := anchorOf text.toList
  names := ((components text.toList).filter isName).map String.ofList

/-- The text of a path; the path without names and anchor is a point. -/
def toText (p : Path) : String :=
  if p.anchor = .relative && p.names = [] then "."
  else anchorText p.anchor ++ String.intercalate "/" p.names

/-- The path of an entry below a path. -/
def child (p : Path) (name : String) : Path :=
  { p with names := p.names ++ [name] }

/-- The path without its last name. -/
def parent (p : Path) : Path :=
  { p with names := p.names.dropLast }

/-- The last name, or nothing. -/
def name (p : Path) : String :=
  p.names.getLast?.getD ""

end Path

end CrashDiff
