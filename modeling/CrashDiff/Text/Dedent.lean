import CrashDiff.Text.Lines

/-!
# Common indentation

A text is moved to the left by the indentation that its lines share. Lines of spaces and tabs are
emptied first and have no say in what is shared. A space and a tab are different indentations.
-/

namespace CrashDiff.Text

/-- The spaces and tabs that a line starts with. -/
def indentOf (l : List Char) : List Char :=
  l.takeWhile fun c => c = ' ' || c = '\t'

/-- The longest start that two texts share. -/
def sharedStart : List Char → List Char → List Char
  | a :: as, b :: bs => if a = b then a :: sharedStart as bs else []
  | _, _ => []

/-- The indentation that all lines share which are not empty; none if all are. -/
def margin (ls : List (List Char)) : List Char :=
  match (ls.filter fun l => l ≠ []).map indentOf with
  | [] => []
  | first :: rest => rest.foldl sharedStart first

/-- A line without the margin that it may start with. -/
def dropMargin (margin l : List Char) : List Char :=
  if margin.isPrefixOf l then l.drop margin.length else l

/-- The text without the indentation that its lines share, its blank lines emptied. -/
def dedent (s : String) : String :=
  let ls := (lines s.toList).map clearLine
  String.ofList (unlines (ls.map (dropMargin (margin ls))))

end CrashDiff.Text
