import CrashDiff.Number.Double

/-!
# Fixed places

A number with a fixed count of digits after the point. The exact value is rounded once, a tie to
the even neighbour, and the sign stays also when all digits are zero.
-/

namespace CrashDiff.Double

/-- `n / 10 ^ places` with exactly that many digits after the point. -/
def placesText (places n : Nat) : String :=
  let fraction := (n % Number.tenTo places).repr
  (n / Number.tenTo places).repr ++ "." ++ "".pushn '0' (places - fraction.length) ++ fraction

/-- The text of a number with the given count of digits after the point. -/
def fixed (places : Nat) : Double → String
  | .finite negative m e =>
    let (n, d) := ratio m e
    (if negative then "-" else "") ++
      placesText places (Number.roundDiv (n * Number.tenTo places) d)
  | .infinite negative => if negative then "-inf" else "inf"
  | .nan => "nan"

/-- The number nearest to the value of another one rounded to the given count of places. -/
def roundPlaces (places : Nat) : Double → Double
  | .finite negative m e =>
    let (n, d) := ratio m e
    ofRatio negative (Number.roundDiv (n * Number.tenTo places) d) (Number.tenTo places)
  | x => x

end CrashDiff.Double
