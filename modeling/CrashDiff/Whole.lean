import CrashDiff.Failure

/-!
# Whole numbers that are given

A whole number may also be given by a truth value, which counts as zero or one but is written as a
word. A number of too many digits cannot be written.
-/

namespace CrashDiff

/-- A whole number as it is given. -/
inductive Whole where
  | number (n : Int)
  | truth (b : Bool)
deriving DecidableEq, Repr

namespace Whole

/-- The number itself. -/
def value : Whole → Int
  | .number n => n
  | .truth b => if b then 1 else 0

/-- How the number is written. -/
def written : Whole → Except Failure String
  | .number n => if Text.isShort n then .ok (Text.numeral n) else .error .tooLong
  | .truth b => .ok (if b then "True" else "False")

end Whole

end CrashDiff
