import CrashDiff.Compiler.Version
import CrashDiff.Json.Basic
import CrashDiff.Number.Fixed
import CrashDiff.Run.Settings

/-!
# Run metadata

What the header of a run shows: the host, its hardware, the versions of both variants, and the
configuration, as one JSON object of four sections.
-/

namespace CrashDiff

/-- The facts about the host that a run is shown with. -/
structure HostFacts where
  hostname : String
  platform : String
  processId : Int
  runtimeVersion : String
  workingDir : String
  logicalCores : Option Int
  physicalCores : Option Int
  memoryBytes : Nat
deriving DecidableEq, Repr

/-- What the version query of a variant ends with. -/
abbrev VersionEndings := Variant → VersionEnding

namespace Metadata

/-- The text on one line: every line feed becomes a blank. -/
def onOneLine (text : String) : String :=
  String.ofList (text.toList.map fun c => if c = '\n' then ' ' else c)

/-- The section on the host. -/
def environment (facts : HostFacts) : Json :=
  .obj [("hostname", .str facts.hostname), ("os", .str facts.platform),
    ("pid", .int facts.processId), ("python_version", .str (onOneLine facts.runtimeVersion)),
    ("working_dir", .str facts.workingDir)]

/-- The JSON value of a number that may be unknown. -/
def optionalInt : Option Int → Json
  | none => .null
  | some n => .int n

/-- The memory in units of two to the thirtieth, to two places. -/
def memoryUnits (bytes : Nat) : Double :=
  (Double.ofRatio false bytes (Number.twoTo 30)).roundPlaces 2

/-- The section on the hardware. -/
def hardware (facts : HostFacts) : Json :=
  .obj [("cpu_count_logical", optionalInt facts.logicalCores),
    ("cpu_count_physical", optionalInt facts.physicalCores),
    ("total_ram_gb", .double (memoryUnits facts.memoryBytes))]

/-- The section on a variant of a known version. -/
def toolchain (v : Variant) (version : String) : Json :=
  .obj [("selector", .str v.selector), ("version", .str version)]

/-- The versions of the variants, and the messages logged while they were asked in turn. The first
failure that is not forgiven ends the queries. -/
def toolchains (endings : VersionEndings) :
    List Variant → Except Failure (List (String × Json)) × List Message
  | [] => (.ok [], [])
  | v :: vs =>
    match Version.ofEnding v (endings v) with
    | (.error f, messages) => (.error f, messages)
    | (.ok version, messages) =>
      match toolchains endings vs with
      | (.error f, more) => (.error f, messages ++ more)
      | (.ok rest, more) => (.ok ((v.name, toolchain v version) :: rest), messages ++ more)

/-- The section on the configuration. -/
def configuration (s : RunSettings) : List (String × Json) :=
  [("compiler", .str s.execution.compiler),
    ("fixed_args", .arr (s.execution.fixedArgs.map .str)),
    ("scratch_dir", .str s.execution.scratchDir.toText),
    ("workers", .int s.workers),
    ("seed", optionalInt s.seed),
    ("parallel_variants", .bool s.execution.parallel),
    ("halt_on_candidate_crash", .bool s.haltOnCandidate)]

/-- The metadata of a run, and the messages logged while they were collected. -/
def collect (s : RunSettings) (facts : HostFacts) (endings : VersionEndings) :
    Except Failure Json × List Message :=
  match toolchains endings s.execution.variants with
  | (.error f, messages) => (.error f, messages)
  | (.ok variants, messages) =>
    (.ok (.obj [("environment", environment facts), ("hardware", hardware facts),
      ("toolchains", .obj variants), ("configuration", .obj (configuration s))]), messages)

end Metadata

end CrashDiff
