import CrashDiff.Run.Session

/-!
# The command line

A rehearsal of a run: the compilers are not started, but their exit codes are read from standard
input, one a line, two for each case with the baseline first. When the codes are used up, the next
compiler fails to start, which ends the run. The files of the run are kept in memory.
-/

namespace CrashDiff.Rehearsal

/-- The lines of a stream up to its end. -/
partial def readLines (input : IO.FS.Stream) (lines : List String) : IO (List String) := do
  let line ← input.getLine
  if line.isEmpty then return lines.reverse else readLines input (line :: lines)

/-- The exit codes on the lines of a text; a line that is no number stands for a child without an
exit code. -/
def codes (lines : List String) : List (Option Int) :=
  lines.map Text.readNumeral?

/-- The index of the code of a variant on a case. -/
def indexOf (identifier : Int) (isBaseline : Bool) : Nat :=
  2 * identifier.toNat + if isBaseline then 0 else 1

/-- The children that end with the given codes. -/
def children (codes : Array (Option Int)) : Children := fun case v =>
  match codes[indexOf case.identifier (v.name = "baseline")]? with
  | some code => { ending := .exited code }
  | none => { ending := .failed (.withText .fileNotFound "no exit code is left") }

/-- The files that a rehearsal starts with. -/
def files : FileSystem where
  entries := [(["tmp"], .directory), (["work"], .directory)]
  workingDirectory := ["work"]

/-- The facts that the header of a rehearsal shows. -/
def facts : HostFacts where
  hostname := "rehearsal"
  platform := "in memory"
  processId := 0
  runtimeVersion := "in memory"
  workingDir := "/work"
  logicalCores := none
  physicalCores := none
  memoryBytes := 0

/-- The session of a rehearsal. -/
def session (argv : List String) (codes : Array (Option Int)) (ownSeed : Nat) : SessionInput where
  argv := argv
  facts := facts
  versions := fun _ => .exited 0 "" ""
  children := children codes
  ownSeed := fun worker => ownSeed + worker
  duration := 0
  fuel := codes.size + 1

/-- The exit status of a session. -/
def status : SessionEnding → UInt32
  | .status code | .exit code => UInt32.ofNat code
  | .raised _ | .unfinished => 1

/-- Whether a command line asks for a run. -/
def asksForRun (argv : List String) : Bool :=
  match CommandLine.parse argv with
  | .ok (.run _) => true
  | _ => false

end CrashDiff.Rehearsal

open CrashDiff in
/-- Rehearses a run and prints what it wrote to both standard streams. -/
def main (argv : List String) : IO UInt32 := do
  let lines ← if Rehearsal.asksForRun argv then Rehearsal.readLines (← IO.getStdin) [] else pure []
  let ownSeed := Seed.numberOfBytes (← IO.getRandomBytes 8).toList
  let input := Rehearsal.session argv (Rehearsal.codes lines).toArray ownSeed
  let host : Host := {
    files := Rehearsal.files
    time := "1970-01-01T00:00:00+00:00"
    stamp := "1970-01-01 00:00:00,000" }
  let result := Session.run input host
  (← IO.getStdout).putStr result.host.out
  (← IO.getStderr).putStr result.host.err
  return Rehearsal.status result.ending
