import CrashDiff.Finding.Verdict
import CrashDiff.Json.Basic

/-!
# Run statistics

The counters behind the summary of a run, and the source of case identifiers.
-/

namespace CrashDiff

/-- The source of case identifiers. -/
structure Counter where
  value : Int := 0
deriving DecidableEq, Repr

/-- The next identifier. -/
def Counter.next (c : Counter) : Int × Counter :=
  (c.value, ⟨c.value + 1⟩)

/-- The counters of a run. -/
structure Stats where
  executed : Nat := 0
  uninteresting : Nat := 0
  baselineOnly : Nat := 0
  candidateOnly : Nat := 0
  bothCrashed : Nat := 0
  unexpectedExits : Nat := 0
  infrastructureErrors : Nat := 0
deriving DecidableEq, Repr

namespace Stats

/-- Counts a case with its verdict. -/
def record (s : Stats) (verdict : Verdict) : Stats :=
  let s := { s with executed := s.executed + 1 }
  match verdict with
  | .uninteresting => { s with uninteresting := s.uninteresting + 1 }
  | .baselineOnly => { s with baselineOnly := s.baselineOnly + 1 }
  | .candidateOnly => { s with candidateOnly := s.candidateOnly + 1 }
  | .bothCrashed => { s with bothCrashed := s.bothCrashed + 1 }
  | .unexpectedExit => { s with unexpectedExits := s.unexpectedExits + 1 }

/-- Counts a failure that stopped a worker. -/
def recordFailure (s : Stats) : Stats :=
  { s with infrastructureErrors := s.infrastructureErrors + 1 }

/-- The counter of the cases with a verdict. -/
def count (s : Stats) : Verdict → Nat
  | .uninteresting => s.uninteresting
  | .baselineOnly => s.baselineOnly
  | .candidateOnly => s.candidateOnly
  | .bothCrashed => s.bothCrashed
  | .unexpectedExit => s.unexpectedExits

/-- The counters with their names, in the order of the summary. -/
def fields (s : Stats) : List (String × Json) :=
  [("cases_executed", .int s.executed), ("uninteresting", .int s.uninteresting),
    ("baseline_only_crashes", .int s.baselineOnly),
    ("candidate_only_crashes", .int s.candidateOnly), ("both_crashed", .int s.bothCrashed),
    ("unexpected_exits", .int s.unexpectedExits),
    ("infrastructure_errors", .int s.infrastructureErrors)]

end Stats

end CrashDiff
