import CrashDiff.Json.Writer
import CrashDiff.Number.Fixed
import CrashDiff.Text.Quoted

/-!
# Values inside messages

How a value is shown in running text: a text stands as it is, or quoted where it is a part of
another value.
-/

namespace CrashDiff.Json

mutual

/-- The form of a value that stands inside another one: texts are quoted. -/
def shown : Json → String
  | .null => "None"
  | .bool b => if b then "True" else "False"
  | .int n => Text.numeral n
  | .double x => x.shortest?.getD (x.fixed 0)
  | .str s => Text.quoted s
  | .arr [] => "[]"
  | .arr (v :: vs) => "[" ++ shown v ++ shownItems vs ++ "]"
  | .obj [] => "\x7b\x7d"
  | .obj ((k, v) :: fs) =>
    "\x7b" ++ Text.quoted k ++ ": " ++ shown v ++ shownFields fs ++ "\x7d"

/-- The items after the first one. -/
def shownItems : List Json → String
  | [] => ""
  | v :: vs => ", " ++ shown v ++ shownItems vs

/-- The fields after the first one. -/
def shownFields : List (String × Json) → String
  | [] => ""
  | (k, v) :: fs => ", " ++ Text.quoted k ++ ": " ++ shown v ++ shownFields fs

end

/-- The form of a value on its own: a text stands as it is. -/
def text : Json → String
  | .str s => s
  | v => v.shown

end CrashDiff.Json
