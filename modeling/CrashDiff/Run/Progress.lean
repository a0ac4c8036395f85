/-!
# The progress stream

One stream carries a point for every discarded case and the reports of findings, each on a line of
its own. Once it is closed nothing more is written.
-/

namespace CrashDiff

/-- The progress stream. -/
structure Progress where
  closed : Bool := false
deriving DecidableEq, Repr

/-- A use of the progress stream. -/
inductive Notice where
  /-- A case was discarded. -/
  | point
  /-- A finding that the run goes on after. -/
  | report (line : String)
  /-- The report that ends the run. -/
  | lastReport (line : String)
  | close
deriving DecidableEq, Repr

namespace Progress

/-- A report on a line of its own. -/
def reportText (line : String) : String :=
  "\n" ++ line ++ "\n"

/-- The text that a notice adds to an open stream. -/
def noticeText : Notice → String
  | .point => "."
  | .report line | .lastReport line => reportText line
  | .close => ""

/-- Whether a notice closes the stream. -/
def closes : Notice → Bool
  | .point | .report _ => false
  | .lastReport _ | .close => true

/-- Whether a notice is answered by whether it was written. -/
def isAnswered : Notice → Bool
  | .point | .report _ => true
  | .lastReport _ | .close => false

/-- The text that a notice adds to the stream. -/
def written (p : Progress) (n : Notice) : String :=
  if p.closed then "" else noticeText n

/-- The answer to a notice. -/
def answer (p : Progress) (n : Notice) : Option Bool :=
  if isAnswered n then some !p.closed else none

/-- The stream after a notice. -/
def after (p : Progress) (n : Notice) : Progress :=
  ⟨p.closed || closes n⟩

end Progress

end CrashDiff
