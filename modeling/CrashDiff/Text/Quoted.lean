import CrashDiff.Text.Printable

/-!
# Quoted texts

The form in which a text is shown inside a message: between quotation marks, on one line, with
every mark, backslash and unprintable character escaped.

* The mark is the apostrophe, unless the text holds an apostrophe and no double quote.
* Line feed, carriage return and tab have short escapes; other unprintable characters are
  written by code point, with two, four or eight hexadecimal digits.
-/

namespace CrashDiff.Text

/-- The last `width` hexadecimal digits of a number. -/
def hexDigits : Nat → Nat → List Char
  | 0, _ => []
  | width + 1, n => hexDigits width (n / 16) ++ [Nat.digitChar (n % 16)]

/-- The mark around a quoted text. -/
def quoteMark (cs : List Char) : Char :=
  if cs.contains '\'' && !cs.contains '"' then '"' else '\''

/-- What a character becomes between two marks. -/
def escapeChar (mark c : Char) : List Char :=
  if c = mark || c = '\\' then ['\\', c]
  else if c = '\n' then ['\\', 'n']
  else if c = '\r' then ['\\', 'r']
  else if c = '\t' then ['\\', 't']
  else if isPrintable c then [c]
  else if c.toNat < 0x100 then '\\' :: 'x' :: hexDigits 2 c.toNat
  else if c.toNat < 0x10000 then '\\' :: 'u' :: hexDigits 4 c.toNat
  else '\\' :: 'U' :: hexDigits 8 c.toNat

/-- The quoted form of a list of characters. -/
def quotedChars (cs : List Char) : List Char :=
  quoteMark cs :: (cs.flatMap (escapeChar (quoteMark cs)) ++ [quoteMark cs])

/-- The quoted form of a text. -/
def quoted (s : String) : String :=
  String.ofList (quotedChars s.toList)

end CrashDiff.Text
