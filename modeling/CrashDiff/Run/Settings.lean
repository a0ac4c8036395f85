import CrashDiff.Compiler.Settings
import CrashDiff.Generation.Settings

/-!
# Run settings

All settings of a run, valid by construction, and the check that turns a request into settings.
-/

namespace CrashDiff

theorem ExecutionSettings.valid_default : ExecutionSettings.Valid {} where
  crashCode_distinct := by decide
  names_distinct := by decide

/-- The settings of a run. -/
structure RunSettings where
  workers : Nat := 10
  /-- When given, the random source of every worker is derived from it. -/
  seed : Option Int := none
  haltOnCandidate : Bool := false
  generation : GenerationSettings := {}
  execution : ExecutionSettings := {}
  logFile : Option Path := none
  healthLog : Option Path := none
  workers_pos : 0 < workers := by decide
  generation_valid : generation.Valid := by exact GenerationSettings.valid_default
  execution_valid : execution.Valid := by exact ExecutionSettings.valid_default

/-- Why the settings of a run are refused. -/
inductive SettingsError where
  | generation (cause : GenerationError)
  | execution (cause : ExecutionError)
  | workers (given : Int)
deriving DecidableEq, Repr

/-- The message for refused settings. -/
def SettingsError.message : SettingsError → String
  | .generation cause => cause.message
  | .execution cause => cause.message
  | .workers given => "workers must be at least 1, got " ++ Text.numeral given

/-- A request for the settings of a run: nothing is checked yet. -/
structure RunRequest where
  workers : Int := 10
  seed : Option Int := none
  haltOnCandidate : Bool := false
  generation : GenerationRequest := {}
  execution : ExecutionSettings := {}
  logFile : Option Path := none
  healthLog : Option Path := none

/-- The settings for a request. The generation settings are checked first, then the execution
settings, and the count of workers last. -/
def RunRequest.accept (r : RunRequest) : Except SettingsError RunSettings :=
  match r.generation.accept with
  | .error e => .error (.generation e)
  | .ok generation =>
  match r.execution.accept with
  | .error e => .error (.execution e)
  | .ok execution =>
  if workers : r.workers < 1 then .error (.workers r.workers)
  else
    .ok {
      workers := r.workers.toNat
      seed := r.seed
      haltOnCandidate := r.haltOnCandidate
      generation := generation
      execution := execution
      logFile := r.logFile
      healthLog := r.healthLog
      workers_pos := by omega
      generation_valid := generation.2
      execution_valid := execution.2 }

end CrashDiff
