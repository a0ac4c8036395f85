/-!
# Usage and help texts

The short text that precedes every complaint about the command line, and the full help.
-/

namespace CrashDiff.Usage

/-- Lines as a text; each ends with a line feed. -/
def ofLines (lines : List String) : String :=
  String.join (lines.map fun line => line ++ "\n")

/-- The summary of all options. -/
def short : String :=
  ofLines [
    "usage: icediff [-h] [--workers WORKERS] [--seed SEED] [--compiler COMPILER]",
    "               [--baseline BASELINE] [--candidate CANDIDATE]",
    "               [--scratch-dir SCRATCH_DIR] [--parallel-variants]",
    "               [--halt-on-candidate-crash] [--log-file LOG_FILE]",
    "               [--health-log HEALTH_LOG] [-v]"]

/-- What the help shows below the summary. -/
def details : String :=
  ofLines [
    "",
    "icediff: a differential fuzzer that hunts internal compiler errors appearing",
    "in only one of two compiler builds.",
    "",
    "options:",
    "  -h, --help            show this help message and exit",
    "  --workers WORKERS     Number of concurrent workers. (Default: 10)",
    "  --seed SEED           Master seed; each worker's random source is derived",
    "                        from it.",
    "  --compiler COMPILER   Compiler program to invoke. (Default: rustc)",
    "  --baseline BASELINE   Toolchain selector of the baseline build. (Default:",
    "                        +nightly)",
    "  --candidate CANDIDATE",
    "                        Toolchain selector of the candidate build. (Default:",
    "                        +stage1)",
    "  --scratch-dir SCRATCH_DIR",
    "                        Directory for staged source files. (Default: the",
    "                        system temp dir)",
    "  --parallel-variants   Run the baseline and candidate compilers concurrently",
    "                        for each case.",
    "  --halt-on-candidate-crash",
    "                        Stop the run when only the candidate crashes, instead",
    "                        of reporting and continuing.",
    "  --log-file LOG_FILE   Also write the full console transcript to this file.",
    "  --health-log HEALTH_LOG",
    "                        Append findings and adverse events as JSON lines to",
    "                        this file.",
    "  -v, --verbose         Show per-invocation debug logging."]

/-- The full help. -/
def help : String :=
  short ++ details

/-- A complaint about the command line. -/
def complaint (message : String) : String :=
  short ++ "icediff: error: " ++ message ++ "\n"

end CrashDiff.Usage
