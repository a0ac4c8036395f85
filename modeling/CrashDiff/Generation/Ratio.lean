import CrashDiff.Json.Basic
import CrashDiff.Text.Numeral
import CrashDiff.Text.Quoted

/-!
# Ratios

Probabilities are exact fractions in lowest terms. A ratio may be given as a whole number, a truth
value, a double precision number, which stands for its exact value, or a text:

* `a/b`, with a sign only in front;
* a decimal number with an optional exponent;
* blanks around it, and single underscores between digits.

Every ratio is shown as `a` or `a/b` in lowest terms.
-/

namespace CrashDiff

/-- Why a value does not denote a ratio. -/
inductive RatioError where
  | malformed (text : String)
  | zeroDenominator (numerator : Int)
  | tooManyDigits (count : Nat)
  | notANumber
  | infinite
  | notARatio
deriving DecidableEq, Repr

namespace Ratio

open Text

/-- The text of a ratio. -/
def toText (q : Rat) : String :=
  if q.den = 1 then numeral q.num else numeral q.num ++ "/" ++ numeral q.den

/-- The digits of the longest run at the start, in which single underscores may stand between two
digits, and the text behind it. -/
def spanRun : List Char → List Char × List Char
  | [] => ([], [])
  | [c] => if isDigit c then ([c], []) else ([], [c])
  | c :: d :: cs =>
    if isDigit c then
      if d = '_' then
        match spanRun cs with
        | ([], _) => ([c], d :: cs)
        | (ds, rest) => (c :: ds, rest)
      else
        let (ds, rest) := spanRun (d :: cs)
        (c :: ds, rest)
    else ([], c :: d :: cs)

/-- The number that a run of digits denotes. -/
def number (digits : List Char) : Except RatioError Nat :=
  if digits.length ≤ maxNumeralDigits then .ok (valueOfDigits digits)
  else .error (.tooManyDigits digits.length)

/-- What stands between the blanks: the digits of each part, and whether an exponent is
negative. -/
structure Spelling where
  negative : Bool
  whole : List Char
  denominator : List Char
  decimals : List Char
  powerNegative : Bool
  power : List Char
deriving DecidableEq, Repr

/-- The exponent behind a number, if there is one, and the text behind that. -/
def spanPower : List Char → Bool × List Char × List Char
  | c :: cs =>
    if c = 'e' || c = 'E' then
      let (negative, rest) := splitSign cs
      match spanRun rest with
      | ([], _) => (false, [], c :: cs)
      | (digits, rest) => (negative, digits, rest)
    else (false, [], c :: cs)
  | [] => (false, [], [])

/-- The decimals and the exponent behind the whole part. -/
def spanDecimal (cs : List Char) : List Char × Bool × List Char × List Char :=
  match cs with
  | '.' :: rest =>
    let (decimals, rest) := spanRun rest
    (decimals, spanPower rest)
  | _ => ([], spanPower cs)

/-- The denominator, if there is one, and the text behind it. -/
def spanDenominator : List Char → List Char × List Char
  | '/' :: rest =>
    match spanRun rest with
    | ([], _) => ([], '/' :: rest)
    | (digits, rest) => (digits, rest)
  | cs => ([], cs)

/-- Whether a number may start here: with a digit, or with a point and a digit. -/
def startsNumber : List Char → Bool
  | '.' :: c :: _ => isDigit c
  | c :: _ => isDigit c
  | [] => false

/-- The parts of a text that denotes a ratio. -/
def spelling? (cs : List Char) : Option Spelling :=
  let (negative, cs) := splitSign (cs.dropWhile isBlank)
  if startsNumber cs then
    let (whole, cs) := spanRun cs
    match spanDenominator cs with
    | ([], _) =>
      let (decimals, powerNegative, power, rest) := spanDecimal cs
      if rest.all isBlank then some ⟨negative, whole, [], decimals, powerNegative, power⟩ else none
    | (denominator, rest) =>
      if rest.all isBlank then some ⟨negative, whole, denominator, [], false, []⟩ else none
  else none

/-- The ratio that a spelling denotes. -/
def Spelling.value (s : Spelling) : Except RatioError Rat := do
  let whole ← number s.whole
  let signed (n : Nat) : Int := if s.negative then -(n : Int) else n
  if s.denominator.isEmpty then
    let decimals ← number s.decimals
    let scale := Number.tenTo s.decimals.length
    let power ← number s.power
    let digits := whole * scale + decimals
    if s.powerNegative then return mkRat (signed digits) (scale * Number.tenTo power)
    else return mkRat (signed (digits * Number.tenTo power)) scale
  else
    let denominator ← number s.denominator
    if denominator = 0 then throw (.zeroDenominator (signed whole))
    else return mkRat (signed whole) denominator

/-- The ratio that a text denotes. -/
def ofText (text : String) : Except RatioError Rat :=
  match spelling? text.toList with
  | some s => s.value
  | none => .error (.malformed text)

/-- The ratio that a value denotes. -/
def ofJson : Json → Except RatioError Rat
  | .int n => .ok n
  | .bool b => .ok (if b then 1 else 0)
  | .str s => ofText s
  | .double .nan => .error .notANumber
  | .double (.infinite _) => .error .infinite
  | .double x => .ok (x.toRat?.getD 0)
  | _ => .error .notARatio

end Ratio

/-- The message for a value that does not denote a ratio. -/
def RatioError.message : RatioError → String
  | .malformed text => "Invalid literal for Fraction: " ++ Text.quoted text
  | .zeroDenominator n => "Fraction(" ++ Text.numeral n ++ ", 0)"
  | .tooManyDigits count =>
    "Exceeds the limit (" ++ Text.numeral Text.maxNumeralDigits ++
      " digits) for integer string conversion: value has " ++ Text.numeral count ++ " digits" ++
      Text.digitLimitAdvice
  | .notANumber => "cannot convert NaN to integer ratio"
  | .infinite => "cannot convert Infinity to integer ratio"
  | .notARatio => "argument should be a string or a Rational instance"

end CrashDiff
