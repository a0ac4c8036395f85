import CrashDiff.Options.Arguments
import CrashDiff.Run.Shown

/-!
# Configurations as JSON

The configuration that arguments amount to, as a JSON object. An option that was left without a
value shows as an empty list, or as the text of one in the place of a path.
-/

namespace CrashDiff.Configuration

/-- A value that may have been left out. -/
def givenShown {α : Type} (missing : Json) (write : α → Json) : Given α → Json
  | .value a => write a
  | .emptied => missing

/-- A path that may have been left out. -/
def pathShown : Given Path → Json :=
  givenShown (.str "[]") fun p => .str p.toText

/-- A variant as a pair; its selector may have been left out. -/
def variantShown (name : String) (selector : Given String) : Json :=
  .arr [.str name, givenShown (.arr []) .str selector]

/-- The execution part of a configuration as an object. -/
def executionShown (c : Configuration) : Json :=
  let plain : ExecutionSettings := {}
  .obj [("compiler", givenShown (.arr []) .str c.compiler),
    ("variants", .arr [variantShown "baseline" c.baseline, variantShown "candidate" c.candidate]),
    ("fixed_args", .arr (plain.fixedArgs.map .str)), ("crash_exit_code", .int plain.crashCode),
    ("non_crash_exit_codes", .arr ((sortedCodes plain.normalCodes).map .int)),
    ("scratch_dir", pathShown (c.scratchDir.getD (.value plain.scratchDir))),
    ("parallel_variants", .bool c.parallel)]

/-- The configuration as an object. -/
def shown (c : Configuration) : Json :=
  .obj [("workers", .int c.workers),
    ("seed", (c.seed.map (givenShown (.arr []) .int)).getD .null),
    ("halt_on_candidate_crash", .bool c.haltOnCandidate),
    ("generation", ({} : GenerationSettings).shown), ("execution", c.executionShown),
    ("log_file", (c.logFile.map pathShown).getD .null),
    ("health_log", (c.healthLog.map pathShown).getD .null)]

end CrashDiff.Configuration
