import CrashDiff.Files.Path
import CrashDiff.Text.Numeral

/-!
# Execution settings

The two compiler builds under comparison, how they are started, and what their exit codes mean.
-/

namespace CrashDiff

/-- One of the two compiler builds under comparison. -/
structure Variant where
  name : String
  selector : String
deriving DecidableEq, Repr

/-- How a staged file is handed to the compilers. -/
structure ExecutionSettings where
  compiler : String := "rustc"
  baseline : Variant := ⟨"baseline", "+nightly"⟩
  candidate : Variant := ⟨"candidate", "+stage1"⟩
  fixedArgs : List String := ["--crate-type=lib"]
  crashCode : Int := 101
  /-- The exit codes of a run without a crash. -/
  normalCodes : List Int := [0, 1]
  scratchDir : Path := ⟨.root, ["tmp"]⟩
  parallel : Bool := false
deriving DecidableEq, Repr

/-- Why execution settings are refused. -/
inductive ExecutionError where
  | ambiguousCode (code : Int)
  | sameNames
deriving DecidableEq, Repr

/-- The message for refused settings. -/
def ExecutionError.message : ExecutionError → String
  | .ambiguousCode code =>
    "exit code " ++ Text.numeral code ++ " cannot mean both crash and non-crash"
  | .sameNames => "baseline and candidate variants need distinct names"

namespace ExecutionSettings

/-- What the rest of the program needs of execution settings. -/
structure Valid (s : ExecutionSettings) : Prop where
  crashCode_distinct : s.crashCode ∉ s.normalCodes
  names_distinct : s.baseline.name ≠ s.candidate.name

/-- Checks settings. The exit codes are checked first. -/
def accept (s : ExecutionSettings) : Except ExecutionError { s : ExecutionSettings // s.Valid } :=
  if codes : s.crashCode ∈ s.normalCodes then .error (.ambiguousCode s.crashCode)
  else if names : s.baseline.name = s.candidate.name then .error .sameNames
  else .ok ⟨s, codes, names⟩

/-- The variants, the baseline first. -/
def variants (s : ExecutionSettings) : List Variant :=
  [s.baseline, s.candidate]

end ExecutionSettings

end CrashDiff
