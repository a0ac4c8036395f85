import CrashDiff.Json.Basic
import CrashDiff.Number.Shortest
import CrashDiff.Text.Numeral
import CrashDiff.Text.Quoted

/-!
# Writing JSON

Two layouts of the same text: on one line, and with one field or item a line, indented by four
blanks a level. Both are pure ASCII: every other character is written by its UTF-16 units. A value
with a number of too many digits has a text here, too, but it is not written: `isWritable` tells.
-/

namespace CrashDiff.Json

/-- The escape of a UTF-16 unit. -/
def unitEscape (n : Nat) : List Char :=
  '\\' :: 'u' :: Text.hexDigits 4 n

/-- What a character becomes in a JSON string. -/
def escapeChar (c : Char) : List Char :=
  if c = '"' then ['\\', '"']
  else if c = '\\' then ['\\', '\\']
  else if c = '\n' then ['\\', 'n']
  else if c = '\r' then ['\\', 'r']
  else if c = '\t' then ['\\', 't']
  else if c.toNat = 8 then ['\\', 'b']
  else if c.toNat = 12 then ['\\', 'f']
  else if 32 ≤ c.toNat && c.toNat ≤ 126 then [c]
  else if c.toNat < 0x10000 then unitEscape c.toNat
  else
    let n := c.toNat - 0x10000
    unitEscape (0xD800 + n / 0x400) ++ unitEscape (0xDC00 + n % 0x400)

/-- A JSON string. -/
def writeString (s : String) : List Char :=
  '"' :: (s.toList.flatMap escapeChar ++ ['"'])

/-- The text of a number that is not whole. -/
def doubleText : Double → String
  | .infinite negative => if negative then "-Infinity" else "Infinity"
  | .nan => "NaN"
  | x => x.shortest?.getD ""

/-- The text of a value without parts. -/
def writeScalar : Json → List Char
  | .null => "null".toList
  | .bool b => (if b then "true" else "false").toList
  | .int n => (Text.numeral n).toList
  | .double x => (doubleText x).toList
  | .str s => writeString s
  | _ => []

/-- How the parts of a value are set apart: what follows the opening bracket, what stands between
two parts, and what precedes the closing bracket, each for the level of the value. -/
structure Layout where
  first : Nat → List Char
  next : Nat → List Char
  last : Nat → List Char

/-- A line feed and the indentation of a level. -/
def newLine (level : Nat) : List Char :=
  '\n' :: List.replicate (4 * level) ' '

/-- Everything on one line. -/
def Layout.compact : Layout where
  first := fun _ => []
  next := fun _ => [',', ' ']
  last := fun _ => []

/-- One part a line. -/
def Layout.indented : Layout where
  first := fun level => newLine (level + 1)
  next := fun level => ',' :: newLine (level + 1)
  last := newLine

mutual

/-- The text of a value at a level of nesting. -/
def write (l : Layout) (level : Nat) : Json → List Char
  | .arr [] => ['[', ']']
  | .arr (v :: vs) =>
    '[' :: l.first level ++ write l (level + 1) v ++ writeItems l level vs ++ l.last level ++ [']']
  | .obj [] => ['{', '}']
  | .obj ((k, v) :: fs) =>
    '{' :: l.first level ++ writeString k ++ [':', ' '] ++ write l (level + 1) v ++
      writeFields l level fs ++ l.last level ++ ['}']
  | v => writeScalar v

/-- The items after the first one. -/
def writeItems (l : Layout) (level : Nat) : List Json → List Char
  | [] => []
  | v :: vs => l.next level ++ write l (level + 1) v ++ writeItems l level vs

/-- The fields after the first one. -/
def writeFields (l : Layout) (level : Nat) : List (String × Json) → List Char
  | [] => []
  | (k, v) :: fs =>
    l.next level ++ writeString k ++ [':', ' '] ++ write l (level + 1) v ++ writeFields l level fs

end

/-- The value on one line. -/
def compact (v : Json) : String :=
  String.ofList (write .compact 0 v)

/-- The value with one part a line. -/
def indented (v : Json) : String :=
  String.ofList (write .indented 0 v)

mutual

/-- Whether all whole numbers in a value are short enough to be written. -/
def isWritable : Json → Bool
  | .int n => Text.isShort n
  | .arr items => areWritable items
  | .obj fields => fieldsWritable fields
  | .null | .bool _ | .double _ | .str _ => true

/-- Whether all items can be written. -/
def areWritable : List Json → Bool
  | [] => true
  | v :: vs => isWritable v && areWritable vs

/-- Whether all fields can be written. -/
def fieldsWritable : List (String × Json) → Bool
  | [] => true
  | (_, v) :: fields => isWritable v && fieldsWritable fields

end

/-- Entries in the order of their keys, by code points. -/
def sortKeys (fields : List (String × Json)) : List (String × Json) :=
  fields.mergeSort fun a b => decide (a.1 ≤ b.1)

end CrashDiff.Json
