/-!
# Options

The options of the command line: their spellings, whether they take a value, and how they are named
in messages.
-/

namespace CrashDiff

/-- The options of the command line. -/
inductive OptionKey where
  | help
  | workers
  | seed
  | compiler
  | baseline
  | candidate
  | scratchDir
  | parallelVariants
  | haltOnCandidate
  | logFile
  | healthLog
  | verbose
deriving DecidableEq, Repr

namespace OptionKey

/-- All spellings with their options. An ambiguous abbreviation lists its matches in this order. -/
def spellings : List (String × OptionKey) :=
  [("-h", .help), ("--help", .help), ("--workers", .workers), ("--seed", .seed),
    ("--compiler", .compiler), ("--baseline", .baseline), ("--candidate", .candidate),
    ("--scratch-dir", .scratchDir), ("--parallel-variants", .parallelVariants),
    ("--halt-on-candidate-crash", .haltOnCandidate), ("--log-file", .logFile),
    ("--health-log", .healthLog), ("-v", .verbose), ("--verbose", .verbose)]

/-- The option of a spelling. -/
def ofSpelling? (spelling : String) : Option OptionKey :=
  (spellings.find? fun s => s.1 = spelling).map (·.2)

/-- How messages name an option. -/
def display (key : OptionKey) : String :=
  String.intercalate "/" ((spellings.filter fun s => s.2 = key).map (·.1))

/-- Whether an option takes a value. -/
def takesValue : OptionKey → Bool
  | .help | .parallelVariants | .haltOnCandidate | .verbose => false
  | _ => true

end OptionKey

end CrashDiff
