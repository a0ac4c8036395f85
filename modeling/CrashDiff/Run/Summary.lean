import CrashDiff.Json.Writer
import CrashDiff.Number.Fixed
import CrashDiff.Run.Header

/-!
# The run summary

The text that a run ends with: why it ended, how long it took, and the counters. The events are
sorted by key, so their order of arrival does not show. `render` makes it from counts that are
short, as those of a run are; `compose` also fails if a count has too many digits to be written.
-/

namespace CrashDiff.Summary

/-- Why there is no summary. -/
inductive SummaryError where
  /-- The count of cases is out of the range of the numbers that rates are computed with. -/
  | tooManyCases
  /-- A count has too many digits to be written. -/
  | tooLong
deriving DecidableEq, Repr

/-- The message for a summary that cannot be made. -/
def SummaryError.message : SummaryError → String
  | .tooManyCases => "int too large to convert to float"
  | .tooLong => Text.digitLimitText

/-- The count of executed cases among the counters. -/
def executed (stats : List (String × Json)) : Int :=
  match Json.lookup? "cases_executed" stats with
  | some (.int n) => n
  | _ => 0

/-- The cases per second; zero for a run without a duration. -/
def rate (executed : Int) (duration : Double) : Except SummaryError Double :=
  if duration.isPositive then
    match Double.ofInt? executed with
    | some n => .ok (n.divPositive duration)
    | none => .error .tooManyCases
  else .ok .zero

/-- The summary as it is put together, before it is moved to the left. -/
def assembled (reason : String) (duration : Double) (stats events : List (String × Json)) :
    Except SummaryError String := do
  let perSecond ← rate (executed stats) duration
  return "\n" ++ Header.rule '=' ++ "\nFUZZING RUN SUMMARY\n" ++ Header.rule '=' ++
    "\n- Termination:       " ++ reason ++
    "\n- Total Duration:    " ++ duration.fixed 1 ++ "s" ++
    "\n- Cases per Second:  " ++ perSecond.fixed 2 ++
    "\n\n--- Run Stats ---\n" ++ (Json.obj stats).indented ++
    "\n\n--- Events ---\n" ++ (Json.obj (Json.sortKeys events)).indented ++
    "\n" ++ Header.rule '=' ++ "\n"

/-- The summary of a run. -/
def render (reason : String) (duration : Double) (stats events : List (String × Json)) :
    Except SummaryError String :=
  (assembled reason duration stats events).map Text.dedent

/-- The summary of a run with its counts written out. The rate is computed before that. -/
def compose (reason : String) (duration : Double) (stats events : List (String × Json)) :
    Except SummaryError String :=
  match render reason duration stats events with
  | .error e => .error e
  | .ok text =>
    if Json.fieldsWritable stats && Json.fieldsWritable events then .ok text else .error .tooLong

end CrashDiff.Summary
