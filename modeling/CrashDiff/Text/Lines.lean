/-!
# Lines

A text as the list of its lines. Only the line feed ends a line, and a text always has at least
one line, which may be empty.
-/

namespace CrashDiff.Text

/-- The lines of a text, without the line feeds between them. -/
def lines : List Char → List (List Char)
  | [] => [[]]
  | c :: cs =>
    if c = '\n' then [] :: lines cs
    else
      match lines cs with
      | [] => [[c]]
      | l :: ls => (c :: l) :: ls

/-- The text with the given lines. -/
def unlines : List (List Char) → List Char
  | [] => []
  | [l] => l
  | l :: ls => l ++ '\n' :: unlines ls

/-- A line made of spaces and tabs alone becomes empty. -/
def clearLine (l : List Char) : List Char :=
  if l.all fun c => c = ' ' || c = '\t' then [] else l

/-- The text with every line of spaces and tabs emptied. -/
def clearBlankLines (s : String) : String :=
  String.ofList (unlines ((lines s.toList).map clearLine))

end CrashDiff.Text
