import CrashDiff.Generation.Ratio
import CrashDiff.Options.Spec
import CrashDiff.Run.Settings

/-!
# Arguments

What a command line asks for, and the configuration that it amounts to. Early patches of the option
parser take the separator `--` away from an option, even as an explicit value behind `=`, and leave
the option with no value at all. No other word has that effect, and later patches keep the separator
as the value. An option without its value stands in the configuration as it is; only the count of
workers is looked at.
-/

namespace CrashDiff

/-- The value given to an option, which may have been left without one. -/
inductive Given (α : Type) where
  | value (a : α)
  | emptied
deriving DecidableEq, Repr

/-- What a command line asks for. -/
structure Arguments where
  workers : Given Int := .value 10
  seed : Option (Given Int) := none
  compiler : Given String := .value "rustc"
  baseline : Given String := .value "+nightly"
  candidate : Given String := .value "+stage1"
  scratchDir : Option (Given Path) := none
  parallel : Bool := false
  haltOnCandidate : Bool := false
  logFile : Option (Given Path) := none
  healthLog : Option (Given Path) := none
  verbose : Bool := false
deriving DecidableEq, Repr

/-- Why arguments do not make settings. -/
inductive ArgumentError where
  /-- An option was left without a value. -/
  | emptied (key : OptionKey)
  | refused (cause : SettingsError)
deriving DecidableEq, Repr

/-- The message for arguments that do not make settings. -/
def ArgumentError.message : ArgumentError → String
  | .emptied .workers => "'<' not supported between instances of 'list' and 'int'"
  | .emptied _ => "expected str, bytes or os.PathLike object, not list"
  | .refused cause => cause.message

/-- The configuration that arguments amount to, with at least one worker. -/
structure Configuration where
  workers : Int
  seed : Option (Given Int)
  haltOnCandidate : Bool
  compiler : Given String
  baseline : Given String
  candidate : Given String
  scratchDir : Option (Given Path)
  parallel : Bool
  logFile : Option (Given Path)
  healthLog : Option (Given Path)

namespace Configuration

/-- The value of an option that must have one. -/
def need {α : Type} (key : OptionKey) : Given α → Except ArgumentError α
  | .value a => .ok a
  | .emptied => .error (.emptied key)

/-- The value of an option that need not be given. -/
def needOptional {α : Type} (key : OptionKey) : Option (Given α) → Except ArgumentError (Option α)
  | none => .ok none
  | some given => (need key given).map some

/-- The settings of a run with a configuration. An option without its value is an error here: a run
fails as soon as it comes to use the value. -/
def settings (c : Configuration) : Except ArgumentError RunSettings := do
  let seed ← needOptional .seed c.seed
  let compiler ← need .compiler c.compiler
  let baseline ← need .baseline c.baseline
  let candidate ← need .candidate c.candidate
  let scratchDir ← needOptional .scratchDir c.scratchDir
  let logFile ← needOptional .logFile c.logFile
  let healthLog ← needOptional .healthLog c.healthLog
  let plain : ExecutionSettings := {}
  let request : RunRequest := {
    workers := c.workers
    seed := seed
    haltOnCandidate := c.haltOnCandidate
    execution := {
      compiler := compiler
      baseline := ⟨"baseline", baseline⟩
      candidate := ⟨"candidate", candidate⟩
      scratchDir := scratchDir.getD plain.scratchDir
      parallel := c.parallel }
    logFile := logFile
    healthLog := healthLog }
  match request.accept with
  | .ok settings => .ok settings
  | .error cause => .error (.refused cause)

end Configuration

namespace Arguments

/-- The count of workers, which must be positive. -/
def needWorkers : Given Int → Except ArgumentError Int
  | .value n => if n < 1 then .error (.refused (.workers n)) else .ok n
  | .emptied => .error (.emptied .workers)

/-- The configuration of arguments with a count of workers. -/
def withWorkers (workers : Int) (a : Arguments) : Configuration where
  workers := workers
  seed := a.seed
  haltOnCandidate := a.haltOnCandidate
  compiler := a.compiler
  baseline := a.baseline
  candidate := a.candidate
  scratchDir := a.scratchDir
  parallel := a.parallel
  logFile := a.logFile
  healthLog := a.healthLog

/-- The configuration that arguments amount to. -/
def configuration (a : Arguments) : Except ArgumentError Configuration :=
  (needWorkers a.workers).map fun workers => a.withWorkers workers

/-- The settings that arguments ask for. The count of workers is checked before any other value is
missed. -/
def settings (a : Arguments) : Except ArgumentError RunSettings := do
  (← a.configuration).settings

end Arguments

end CrashDiff
