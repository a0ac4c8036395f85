import CrashDiff.Compiler.Settings

/-!
# Outcomes

What the exit code of a compiler means. A child that was killed by a signal has a negative code or
none, and counts as one that did not crash.
-/

namespace CrashDiff

/-- What an exit code means. -/
inductive Outcome where
  | crashed
  | notCrashed
  | unexpected
deriving DecidableEq, Repr

namespace Outcome

/-- The name of an outcome. -/
def label : Outcome → String
  | .crashed => "CRASHED"
  | .notCrashed => "NOT_CRASHED"
  | .unexpected => "UNEXPECTED"

/-- The outcome with a name. -/
def ofLabel? (label : String) : Option Outcome :=
  [crashed, notCrashed, unexpected].find? fun o => o.label = label

/-- The outcome that an exit code stands for. -/
def ofCode (s : ExecutionSettings) : Option Int → Outcome
  | none => .notCrashed
  | some code =>
    if code < 0 then .notCrashed
    else if code = s.crashCode then .crashed
    else if code ∈ s.normalCodes then .notCrashed
    else .unexpected

/-- The text of an exit code. -/
def codeText : Option Int → String
  | none => "None"
  | some code => Text.numeral code

end Outcome

end CrashDiff
