import CrashDiff.Random.Blake2b
import CrashDiff.Whole

/-!
# Derived seeds

A seed for a part of a run is derived from the master seed and a path of labels: the decimal
text of the seed and the labels, each with a bar in front, are hashed to 128 bits. `derive` hashes
the text of any numbers; `ask` writes the numbers that are given, and fails if one of them has too
many digits.
-/

namespace CrashDiff.Seed

/-- A step of the path to the part that a seed is for. -/
inductive Label where
  | text (s : String)
  | number (n : Int)
  | flag (b : Bool)
  | absent
deriving DecidableEq, Repr

/-- The text of a label. -/
def Label.spelling : Label → String
  | .text s => s
  | .number n => Text.numeral n
  | .flag b => if b then "True" else "False"
  | .absent => "None"

/-- The text that is hashed for a seed and a path. -/
def message (seed : Int) (path : List Label) : String :=
  path.foldl (fun s label => s ++ "|" ++ label.spelling) (Text.numeral seed)

/-- The number that bytes denote, the most significant first. -/
def numberOfBytes (bytes : List UInt8) : Nat :=
  bytes.foldl (fun n b => 256 * n + b.toNat) 0

/-- The seed that a text is hashed to. -/
def ofMessage (text : String) : Nat :=
  numberOfBytes (Blake2b.digest 16 text.toUTF8.toList)

/-- The seed derived from a master seed along a path. -/
def derive (seed : Int) (path : List Label) : Nat :=
  ofMessage (message seed path)

/-- The seed of a worker's random source. -/
def ofWorker (seed : Int) (worker : Nat) : Nat :=
  derive seed [.text "worker", .number worker]

/-! ## Numbers that are given -/

/-- How a label is written. -/
def Label.written : Label → Except Failure String
  | .number n => (Whole.number n).written
  | label => .ok label.spelling

/-- The text that is hashed for a seed that is given and a path. -/
def compose (seed : Whole) (path : List Label) : Except Failure String := do
  let front ← seed.written
  let labels ← path.mapM Label.written
  return labels.foldl (fun text label => text ++ "|" ++ label) front

/-- The seed derived from a master seed that is given along a path. -/
def ask (seed : Whole) (path : List Label) : Except Failure Nat :=
  (compose seed path).map ofMessage

end CrashDiff.Seed
