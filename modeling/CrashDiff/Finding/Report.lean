import CrashDiff.Compiler.Child
import CrashDiff.Finding.Verdict

/-!
# Report lines

The line that is printed for a case worth a look: what happened, the identifier of the case, the
path of its file and, for unexpected exit codes, which variant exited with which code.
-/

namespace CrashDiff.Report

/-- What happened; none for a case that is not worth a look. -/
def label? (baseline candidate : String) : Verdict → Option String
  | .uninteresting => none
  | .baselineOnly => some ("ICE in " ++ baseline ++ " only")
  | .candidateOnly => some ("ICE in " ++ candidate ++ " only")
  | .bothCrashed => some "BOTH ICE"
  | .unexpectedExit => some "UNEXPECTED EXIT CODE"

/-- The report line of a case; none for a case that is not worth a look. -/
def line? (verdict : Verdict) (identifier : Int) (path baseline candidate detail : String) :
    Option String :=
  (label? baseline candidate verdict).map fun label =>
    label ++ " (case " ++ Text.numeral identifier ++ "): " ++ path ++
      if detail.isEmpty then "" else " [" ++ detail ++ "]"

/-- The unexpected exit codes of both variants. -/
def detail (result : DualResult) : String :=
  String.intercalate ", "
    (([result.baseline, result.candidate].filter fun r => r.outcome = .unexpected).map fun r =>
      r.variant.name ++ " exited " ++ Outcome.codeText r.code)

/-- The report line of a case with its results; empty for a case that is not worth a look. -/
def lineOf (verdict : Verdict) (identifier : Int) (path : Path) (result : DualResult) : String :=
  (line? verdict identifier path.toText result.baseline.variant.name
    result.candidate.variant.name
    (if verdict = .unexpectedExit then detail result else "")).getD ""

end CrashDiff.Report
