import CrashDiff.Number.Double

/-!
# The shortest digits

The fewest decimal digits that read back as a given number. The reals that round to
`m * 2 ^ e` form an interval, closed if `m` is even; the decimal grids of 1, 2, … 17 digits are
tried in turn, and on each the two neighbours of the exact value. The first grid with a neighbour
in the interval wins, of two the nearer one, of two equally near the even one.
-/

namespace CrashDiff.Double

/-- The interval of reals that round to a number, times a common denominator: the lower end, the
value, the upper end and the denominator. -/
def interval (m : Nat) (e : Int) : Nat × Nat × Nat × Nat :=
  let (n, d) := ratio m e
  let unit := (ratio 1 e).1
  let below := if m = Number.twoTo 52 && e != minExponent then unit else 2 * unit
  (4 * n - below, 4 * n, 4 * n + 2 * unit, 4 * d)

/-- The decimal exponent of the first digit of `n / d`, for `n` and `d` positive. -/
def decimalExponent (n d : Nat) : Int :=
  if d ≤ n then ((n / d).repr.length : Int) - 1
  else
    let inverse := d / n
    let places := inverse.repr.length
    if inverse * n = d && Number.tenTo (places - 1) = inverse then 1 - (places : Int)
    else -(places : Int)

/-- The digits found on the grid with the given unit, if one of the two neighbours of the value
lies in the interval. -/
def onGrid? (closed : Bool) (low value high d : Nat) (power : Int) : Option Nat :=
  let (num, den) :=
    if 0 ≤ power then (1, Number.tenTo power.toNat) else (Number.tenTo (-power).toNat, 1)
  let floor := value * num / (d * den)
  let reaches (k : Nat) : Bool :=
    let x := k * den * d
    if closed then low * num ≤ x && x ≤ high * num else low * num < x && x < high * num
  let down := 2 * (value * num - floor * den * d)
  let half := d * den
  match reaches floor, reaches (floor + 1) with
  | true, true =>
    some (if down < half || (down = half && floor % 2 = 0) then floor else floor + 1)
  | true, false => some floor
  | false, true => some (floor + 1)
  | false, false => none

/-- The digits and the power of ten of the first grid with a hit, trying `tries` grids from
`count` digits on. -/
def firstGrid (closed : Bool) (low value high d : Nat) (first : Int) : Nat → Nat → Nat × Int
  | 0, _ => (value / d, 0)
  | tries + 1, count =>
    let power := first - count + 1
    match onGrid? closed low value high d power with
    | some digits => (digits, power)
    | none => firstGrid closed low value high d first tries (count + 1)

/-- The shortest digits of a positive finite number and the power of ten of the last one. -/
def shortestDigits (m : Nat) (e : Int) : Nat × Int :=
  let (low, value, high, d) := interval m e
  firstGrid (m % 2 = 0) low value high d (decimalExponent value d) 17 1

/-- The digits without the zeros at their end, and the power of ten adjusted to them. -/
def dropZeros : Nat → Nat → Int → Nat × Int
  | 0, digits, power => (digits, power)
  | fuel + 1, digits, power =>
    if digits != 0 && digits % 10 = 0 then dropZeros fuel (digits / 10) (power + 1)
    else (digits, power)

/-- Digits with a point: positional from the fourth place after the point up to sixteen digits
before it, otherwise with an exponent of at least two digits. -/
def decimalText (digits : Nat) (power : Int) : String :=
  let text := digits.repr
  let first : Int := power + text.length - 1
  if first < -4 || 16 ≤ first then
    let rest := String.ofList (text.toList.drop 1)
    let size := first.natAbs.repr
    String.ofList (text.toList.take 1) ++ (if rest.isEmpty then "" else "." ++ rest) ++
      "e" ++ (if first < 0 then "-" else "+") ++ (if size.length < 2 then "0" else "") ++ size
  else if 0 ≤ power then text ++ "".pushn '0' power.toNat ++ ".0"
  else if 0 ≤ first then
    let whole := first.toNat + 1
    String.ofList (text.toList.take whole) ++ "." ++ String.ofList (text.toList.drop whole)
  else "0." ++ "".pushn '0' (-first - 1).toNat ++ text

/-- The shortest text that reads back as a finite number; none for the others. -/
def shortest? : Double → Option String
  | .finite negative m e =>
    let (digits, power) := if m = 0 then (0, 0) else shortestDigits m e
    let (digits, power) := dropZeros 400 digits power
    some ((if negative then "-" else "") ++ decimalText digits power)
  | _ => none

end CrashDiff.Double
