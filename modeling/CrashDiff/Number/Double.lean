import CrashDiff.Number.Power
import CrashDiff.Number.Rounding

/-!
# Double precision numbers

A binary floating point number with a mantissa of 53 bits, kept as its exact value. All arithmetic
goes through one rounding: a quotient of natural numbers is rounded once to the nearest number
that the format holds.
-/

namespace CrashDiff

/-- A number of the binary format with 53 bits of precision: `mantissa * 2 ^ exponent` with a
sign, an infinity, or no number. -/
inductive Double where
  | finite (negative : Bool) (mantissa : Nat) (exponent : Int)
  | infinite (negative : Bool)
  | nan
deriving DecidableEq, Repr

namespace Double

/-- The least exponent of the format. -/
def minExponent : Int := -1074

/-- The greatest exponent of the format. -/
def maxExponent : Int := 971

def zero : Double := .finite false 0 minExponent

/-- The quotient of the exact value `n / d` by `2 ^ e`, as a numerator and a denominator. -/
def scaled (n d : Nat) (e : Int) : Nat × Nat :=
  if 0 ≤ e then (n, d * Number.twoTo e.toNat) else (n * Number.twoTo (-e).toNat, d)

/-- The exponent at which `n / d` has a mantissa of 53 bits, or the least one. -/
def exponentOf (n d : Nat) : Int :=
  let guess : Int := (n.log2 : Int) - d.log2 - 52
  let (a, b) := scaled n d guess
  max minExponent (if a / b < Number.twoTo 52 then guess - 1 else guess)

/-- The number nearest to `n / d` with the given sign. -/
def ofRatio (negative : Bool) (n d : Nat) : Double :=
  if n = 0 then .finite negative 0 minExponent
  else
    let e := exponentOf n d
    let (a, b) := scaled n d e
    let m := Number.roundDiv a b
    let (m, e) := if m = Number.twoTo 53 then (Number.twoTo 52, e + 1) else (m, e)
    if e ≤ maxExponent then .finite negative m e else .infinite negative

/-- The number nearest to a whole number; none if that is out of range. -/
def ofInt? (n : Int) : Option Double :=
  match ofRatio (n < 0) n.natAbs 1 with
  | .infinite _ => none
  | x => some x

/-- The number nearest to `digits * 10 ^ power`. Beyond the range of the format the power is cut
off before it is computed. -/
def ofDecimal (negative : Bool) (digits : Nat) (power : Int) : Double :=
  if digits = 0 then .finite negative 0 minExponent
  else
    let magnitude : Int := (digits.log2 : Int) / 4 + power
    if magnitude > 400 then .infinite negative
    else if magnitude + (digits.log2 : Int) < -800 then .finite negative 0 minExponent
    else if 0 ≤ power then ofRatio negative (digits * Number.tenTo power.toNat) 1
    else ofRatio negative digits (Number.tenTo (-power).toNat)

/-- The size of a finite number as a numerator and a denominator. -/
def ratio (mantissa : Nat) (exponent : Int) : Nat × Nat :=
  if 0 ≤ exponent then (mantissa * Number.twoTo exponent.toNat, 1)
  else (mantissa, Number.twoTo (-exponent).toNat)

/-- The exact value of a finite number. -/
def toRat? : Double → Option Rat
  | .finite negative m e =>
    let (n, d) := ratio m e
    some (mkRat (if negative then -(n : Int) else n) d)
  | _ => none

/-- Whether the number is greater than zero. -/
def isPositive : Double → Bool
  | .finite negative m _ => !negative && m != 0
  | .infinite negative => !negative
  | .nan => false

/-- The quotient of a finite number by a positive number. -/
def divPositive (x y : Double) : Double :=
  match x, y with
  | .finite s m e, .finite _ m' e' =>
    let (a, b) := ratio m e
    let (c, d) := ratio m' e'
    ofRatio s (a * d) (b * c)
  | .finite s _ _, .infinite _ => .finite s 0 minExponent
  | .infinite s, _ => .infinite s
  | _, _ => .nan

end Double

end CrashDiff
