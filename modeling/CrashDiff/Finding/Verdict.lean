import CrashDiff.Compiler.Outcome

/-!
# Verdicts

The outcomes of both variants on one case make a verdict, and the verdict decides what becomes of
the case and of the run.

* An unexpected outcome wins over everything else.
* One-sided crashes are findings that the run goes on after, unless it is told to halt on those
  of the candidate.
* Symmetric crashes and unexpected exit codes halt the run.
-/

namespace CrashDiff

/-- What the outcomes of both variants amount to. -/
inductive Verdict where
  | uninteresting
  | baselineOnly
  | candidateOnly
  | bothCrashed
  | unexpectedExit
deriving DecidableEq, Repr

/-- What becomes of a case. -/
inductive Action where
  /-- Remove the file and go on. -/
  | discard
  /-- Report the case, keep its file and go on. -/
  | report
  /-- Report the case, keep its file and stop the run. -/
  | halt
deriving DecidableEq, Repr

/-- The name of an action. -/
def Action.label : Action → String
  | .discard => "DISCARD"
  | .report => "REPORT"
  | .halt => "HALT"

namespace Verdict

/-- All verdicts. -/
def all : List Verdict :=
  [uninteresting, baselineOnly, candidateOnly, bothCrashed, unexpectedExit]

/-- The name of a verdict. -/
def label : Verdict → String
  | .uninteresting => "UNINTERESTING"
  | .baselineOnly => "BASELINE_ONLY_CRASH"
  | .candidateOnly => "CANDIDATE_ONLY_CRASH"
  | .bothCrashed => "BOTH_CRASHED"
  | .unexpectedExit => "UNEXPECTED_EXIT"

/-- The verdict with a name. -/
def ofLabel? (label : String) : Option Verdict :=
  all.find? fun v => v.label = label

/-- The verdict on the outcomes of the baseline and the candidate. -/
def ofOutcomes : Outcome → Outcome → Verdict
  | .unexpected, _ => .unexpectedExit
  | _, .unexpected => .unexpectedExit
  | .notCrashed, .notCrashed => .uninteresting
  | .crashed, .notCrashed => .baselineOnly
  | .notCrashed, .crashed => .candidateOnly
  | .crashed, .crashed => .bothCrashed

/-- Whether exactly one variant crashed. -/
def isOneSided : Verdict → Bool
  | .baselineOnly | .candidateOnly => true
  | _ => false

/-- What becomes of a case with the verdict. -/
def action (haltOnCandidate : Bool) : Verdict → Action
  | .uninteresting => .discard
  | .baselineOnly => .report
  | .candidateOnly => if haltOnCandidate then .halt else .report
  | .bothCrashed => .halt
  | .unexpectedExit => .halt

end Verdict

end CrashDiff
