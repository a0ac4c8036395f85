import CrashDiff.Json.Basic
import CrashDiff.Run.Settings

/-!
# Settings as JSON

The settings of a run as JSON objects: probabilities as texts in lowest terms, exit codes in order
and without repetition, and paths as texts.
-/

namespace CrashDiff

/-- The generation settings as an object. -/
def GenerationSettings.shown (s : GenerationSettings) : Json :=
  .obj [("type_count", .int s.typeCount),
    ("argument_subset_probability", .str (Ratio.toText s.argumentSubset)),
    ("parameter_subset_probability", .str (Ratio.toText s.parameterSubset)),
    ("shuffle_probability", .str (Ratio.toText s.shuffle)),
    ("max_removals", .int s.maxRemovals), ("multiset_min_length", .int s.minLength),
    ("multiset_max_length", .int s.maxLength), ("canonical_tags", .arr (s.allTags.map .int))]

/-- A variant as a pair. -/
def Variant.shown (v : Variant) : Json :=
  .arr [.str v.name, .str v.selector]

/-- Exit codes in order and without repetition. -/
def sortedCodes (codes : List Int) : List Int :=
  (codes.mergeSort fun a b => decide (a ≤ b)).eraseDups

/-- The execution settings as an object. -/
def ExecutionSettings.shown (s : ExecutionSettings) : Json :=
  .obj [("compiler", .str s.compiler), ("variants", .arr (s.variants.map Variant.shown)),
    ("fixed_args", .arr (s.fixedArgs.map .str)), ("crash_exit_code", .int s.crashCode),
    ("non_crash_exit_codes", .arr ((sortedCodes s.normalCodes).map .int)),
    ("scratch_dir", .str s.scratchDir.toText), ("parallel_variants", .bool s.parallel)]

/-- A path that need not be given. -/
def Path.shownOptional : Option Path → Json
  | none => .null
  | some p => .str p.toText

/-- The settings of a run as an object. -/
def RunSettings.shown (s : RunSettings) : Json :=
  .obj [("workers", .int s.workers), ("seed", (s.seed.map Json.int).getD .null),
    ("halt_on_candidate_crash", .bool s.haltOnCandidate), ("generation", s.generation.shown),
    ("execution", s.execution.shown), ("log_file", Path.shownOptional s.logFile),
    ("health_log", Path.shownOptional s.healthLog)]

end CrashDiff
