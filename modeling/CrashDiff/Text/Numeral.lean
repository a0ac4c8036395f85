import CrashDiff.Text.Blank
import CrashDiff.Text.Digit

/-!
# Whole numbers as text

Numbers are written in decimal, without leading zeros, a minus sign in front of the negative
ones. Reading is more liberal: blanks around the number, a sign, leading zeros, the digits of any
script, and single underscores between digits are all accepted.

A number of very many digits is neither read nor written. `numeral` is the text of every number, and
`isShort` tells for which ones it is written.
-/

namespace CrashDiff.Text

/-- The decimal text of a whole number. -/
def numeral : Int → String
  | .ofNat n => n.repr
  | .negSucc n => "-" ++ (n + 1).repr

/-- The most digits that a number may be read from or written with. -/
def maxNumeralDigits : Nat := 4300

/-- Whether a number has few enough digits to be written. -/
def isShort (n : Int) : Bool :=
  decide ((Nat.toDigits 10 n.natAbs).length ≤ maxNumeralDigits)

/-- The advice that follows a complaint about the length of a number. -/
def digitLimitAdvice : String :=
  "; use sys.set_int_max_str_digits() to increase the limit"

/-- The complaint about a number that is too long to be written. -/
def digitLimitText : String :=
  "Exceeds the limit (" ++ numeral maxNumeralDigits ++ " digits) for integer string conversion" ++
    digitLimitAdvice

/-- The blanks that may stand around a number: all but the four information separators. -/
def isNumeralBlank (c : Char) : Bool :=
  isBlank c && !(28 ≤ c.toNat && c.toNat ≤ 31)

/-- The digits of a run in which single underscores may stand between two digits; nothing if the
run has any other form. -/
def digitRun? : List Char → Option (List Char)
  | [] => none
  | [c] => if isDigit c then some [c] else none
  | c :: '_' :: cs => if isDigit c then (digitRun? cs).map (c :: ·) else none
  | c :: cs => if isDigit c then (digitRun? cs).map (c :: ·) else none

/-- Splits a sign off; `true` stands for minus. -/
def splitSign : List Char → Bool × List Char
  | '-' :: cs => (true, cs)
  | '+' :: cs => (false, cs)
  | cs => (false, cs)

/-- The whole number that a text denotes. -/
def readNumeral? (s : String) : Option Int :=
  let (negative, cs) := splitSign (trimBy isNumeralBlank s.toList)
  match digitRun? cs with
  | none => none
  | some ds =>
    if ds.length ≤ maxNumeralDigits then
      some (if negative then -(valueOfDigits ds : Int) else valueOfDigits ds)
    else none

end CrashDiff.Text
