import CrashDiff.Compiler.Outcome
import CrashDiff.Failure

/-!
# Child processes

How a compiler is started on a file, how its run can end, and the results of one and of both
variants. The child runs in the scratch directory with all its streams closed off, and only its exit
code is looked at.

Besides ending, a child may do two things to its surroundings: remove the file that it was given,
and ask the whole run to stop.
-/

namespace CrashDiff

/-- How a child ends: with an exit code, or by failing to start. -/
inductive Ending where
  | exited (code : Option Int)
  | failed (failure : Failure)

/-- What a child does. -/
structure Child where
  ending : Ending
  removesSource : Bool := false
  stopsRun : Bool := false
  /-- The outcome that a substitute for the compiler reports instead of the one its code stands
  for. -/
  reported : Option Outcome := none

/-- The start of a child: its words, and the directory that it is started in. -/
structure Call where
  words : List String
  directory : Option String
deriving DecidableEq, Repr

/-- The result of one variant. -/
structure VariantResult where
  variant : Variant
  code : Option Int
  outcome : Outcome
deriving DecidableEq, Repr

/-- The results of both variants. -/
structure DualResult where
  baseline : VariantResult
  candidate : VariantResult
deriving DecidableEq, Repr

/-- How important a logged message is. -/
inductive Level where
  | debug
  | warning
deriving DecidableEq, Repr

/-- The name of a level. -/
def Level.label : Level → String
  | .debug => "DEBUG"
  | .warning => "WARNING"

/-- A logged message. -/
structure Message where
  level : Level
  text : String
deriving DecidableEq, Repr

namespace ExecutionSettings

/-- The words that start a variant on a file. -/
def command (s : ExecutionSettings) (v : Variant) (file : Path) : List String :=
  s.compiler :: v.selector :: (s.fixedArgs ++ [file.toText])

/-- The start of a variant on a file. -/
def call (s : ExecutionSettings) (v : Variant) (file : Path) : Call where
  words := s.command v file
  directory := some s.scratchDir.toText

/-- The start of a substitute for the compiler. -/
def substituteCall (v : Variant) (file : Path) : Call where
  words := [v.name, v.selector, file.toText]
  directory := none

/-- The result that an exit code of a variant stands for. -/
def resultOf (s : ExecutionSettings) (v : Variant) (code : Option Int) : VariantResult :=
  ⟨v, code, .ofCode s code⟩

/-- The message logged for a finished child. -/
def finishedMessage (result : VariantResult) (file : Path) : Message where
  level := .debug
  text := result.variant.name ++ " on " ++ file.name ++ " exited with " ++
    Outcome.codeText result.code ++ " (" ++ result.outcome.label ++ ")"

/-- Runs both variants, the baseline first, each by a step that has a result and a state after it
in either case. In parallel both are run whatever happens, and the failure of the baseline is the
one that counts; otherwise a failure of the baseline is the end. -/
def runBoth {S : Type} (s : ExecutionSettings)
    (run : Variant → S → Except Failure VariantResult × S) (state : S) :
    Except Failure DualResult × S :=
  match run s.baseline state with
  | (.error f, state) =>
    (.error f, if s.parallel then (run s.candidate state).2 else state)
  | (.ok baseline, state) =>
    match run s.candidate state with
    | (.error f, state) => (.error f, state)
    | (.ok candidate, state) => (.ok ⟨baseline, candidate⟩, state)

end ExecutionSettings

end CrashDiff
