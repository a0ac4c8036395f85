import CrashDiff.Finding.Report
import CrashDiff.Program.TestCase
import CrashDiff.Random.Seed
import CrashDiff.Random.Twister
import CrashDiff.Run.EventLog
import CrashDiff.Run.Host
import CrashDiff.Run.Progress
import CrashDiff.Run.Settings
import CrashDiff.Run.Stats

/-!
# The worker pool

A pool of workers that share a counter of identifiers, the progress stream, the statistics, the
event log and the halt flag; each has a random source of its own. One call of a worker generates a
case, stages its file, runs both variants on it, and acts on the verdict.

A step that fails leaves the pool as it is at the point of failure, so a step has a result and the
pool after it in either case.
-/

namespace CrashDiff

/-- How a call of a worker, or its loop, ends. -/
inductive Flow where
  /-- Nothing stands in the way of another call. -/
  | goOn
  /-- A verdict halts the run; the report line tells why. -/
  | halted (report : String) (verdict : Verdict) (case : TestCase)
  /-- A failure stops the worker and the run. -/
  | failed (failure : Failure)

namespace Flow

/-- Whether the run is to stop. -/
def halts : Flow → Bool
  | .goOn => false
  | .halted .. | .failed _ => true

/-- Why the run is to stop. -/
def reason : Flow → String
  | .goOn => ""
  | .halted report _ _ => report
  | .failed failure => failure.shown

end Flow

/-- What the child of a variant does on a case. -/
abbrev Children := TestCase → Variant → Child

/-- A pool of workers. -/
structure Pool (σ : Type) where
  settings : RunSettings
  /-- Whether a substitute stands in for the compilers. -/
  substitute : Bool := false
  /-- The random source of each worker. -/
  sources : Nat → σ
  counter : Counter := {}
  stats : Stats := {}
  events : EventLog
  progress : Progress := {}
  halted : Bool := false
  host : Host
  /-- The starts of children so far. -/
  calls : List Call := []

namespace Pool

variable {σ : Type}

/-- The random sources for settings: derived from the master seed, or from a seed of their own for
each worker. -/
def sourcesFor (settings : RunSettings) (ownSeed : Nat → Int) (worker : Nat) : Twister :=
  match settings.seed with
  | some seed => .seeded (Seed.ofWorker seed worker)
  | none => .seeded (ownSeed worker)

/-- A pool; its scratch directory is made if it is missing. -/
def start (settings : RunSettings) (substitute : Bool) (sources : Nat → σ) (host : Host) :
    Except Failure (Pool σ) × Host :=
  match FileSystem.makeDirectory true settings.execution.scratchDir host.files with
  | (.error f, files) => (.error f, { host with files := files })
  | (.ok (), files) =>
    let host := { host with files := files }
    (.ok {
      settings := settings
      substitute := substitute
      sources := sources
      events := { path := settings.healthLog }
      host := host }, host)

/-! ## Shared parts -/

/-- Gives a notice to the progress stream. -/
def notify (n : Notice) (p : Pool σ) : Pool σ :=
  let text := p.progress.written n
  { p with
    progress := p.progress.after n
    host := if text.isEmpty then p.host else p.host.writeOut text }

/-- Stops all workers after their current call and silences the progress stream. -/
def stop (p : Pool σ) : Pool σ :=
  { p with halted := true }.notify .close

/-- Records an event. -/
def recordEvent (e : Event) (p : Pool σ) : Except Failure Unit × Pool σ :=
  let (result, events, files) := p.events.record p.host.time e p.host.files
  (result, { p with events := events, host := { p.host with files := files } })

/-- Records events one after the other, up to the first that fails. -/
def recordEvents : List Event → Pool σ → Except Failure Unit × Pool σ
  | [], p => (.ok (), p)
  | e :: es, p =>
    match p.recordEvent e with
    | (.error f, p) => (.error f, p)
    | (.ok (), p) => recordEvents es p

/-- Removes the file at a path. -/
def removeFile (path : Path) (p : Pool σ) : Except Failure Unit × Pool σ :=
  let (result, host) := p.host.remove path
  (result, { p with host := host })

/-! ## One call of a worker -/

/-- The next case of a worker. A pool counts its cases from zero, so it comes to no identifier that
is too long to be written. -/
def nextCase [DrawSource σ] (worker : Nat) (p : Pool σ) : TestCase × Pool σ :=
  let (body, source) :=
    (Draws.body p.settings.generation).run (Draws.feasible_body p.settings.generation_valid)
      (p.sources worker)
  let (identifier, counter) := p.counter.next
  (.build identifier body p.settings.execution.scratchDir p.settings.generation.typeCount,
    { p with
      sources := fun w => if w = worker then source else p.sources w
      counter := counter })

/-- The next case of a worker, with its numbers written out. The random source and the counter have
moved on even if they cannot be written. -/
def composeCase [DrawSource σ] (worker : Nat) (p : Pool σ) : Except Failure TestCase × Pool σ :=
  let (case, next) := p.nextCase worker
  (TestCase.compose (.number case.identifier) (case.parameters.map .number)
    (case.arguments.map .number) p.settings.execution.scratchDir p.settings.generation.typeCount,
    next)

/-- Writes the file of a case. -/
def stage (case : TestCase) (p : Pool σ) : Except Failure Unit × Pool σ :=
  let (result, files) := FileSystem.write case.path case.source p.host.files
  (result, { p with host := { p.host with files := files } })

/-- The result of a child that ended with an exit code. -/
def resultOf (p : Pool σ) (v : Variant) (child : Child) (code : Option Int) : VariantResult :=
  match p.substitute, child.reported with
  | true, some outcome => ⟨v, code, outcome⟩
  | _, _ => p.settings.execution.resultOf v code

/-- Notes the start of a child, and what it does to its surroundings. -/
def launch (case : TestCase) (v : Variant) (child : Child) (p : Pool σ) :
    Except Failure Unit × Pool σ :=
  let call :=
    if p.substitute then ExecutionSettings.substituteCall v case.path
    else p.settings.execution.call v case.path
  let p := { p with calls := p.calls ++ [call] }
  let p := if child.stopsRun then p.stop else p
  if child.removesSource then p.removeFile case.path else (.ok (), p)

/-- Runs one variant on a case. -/
def runVariant (children : Children) (case : TestCase) (v : Variant) (p : Pool σ) :
    Except Failure VariantResult × Pool σ :=
  let child := children case v
  match p.launch case v child with
  | (.error f, p) => (.error f, p)
  | (.ok (), p) =>
    match child.ending with
    | .failed f => (.error f, p)
    | .exited code =>
      let result := p.resultOf v child code
      if p.substitute then (.ok result, p)
      else
        (.ok result,
          { p with host := p.host.log (ExecutionSettings.finishedMessage result case.path) })

/-- Runs both variants on a case. -/
def execute (children : Children) (case : TestCase) (p : Pool σ) :
    Except Failure DualResult × Pool σ :=
  p.settings.execution.runBoth (fun v p => p.runVariant children case v) p

/-- The events that a verdict is recorded by. -/
def findingEvents (case : TestCase) (result : DualResult) : Verdict → List Event
  | .uninteresting => []
  | .baselineOnly => [.oneSidedCrash result.baseline.variant.name case.identifier case.path]
  | .candidateOnly => [.oneSidedCrash result.candidate.variant.name case.identifier case.path]
  | .bothCrashed => [.bothCrashed case.identifier case.path]
  | .unexpectedExit =>
    ([result.baseline, result.candidate].filter fun r => r.outcome = .unexpected).map fun r =>
      .unexpectedExit r.variant.name r.code case.identifier case.path

/-- Does what the verdict on a case asks for. -/
def act (case : TestCase) (result : DualResult) (verdict : Verdict) (p : Pool σ) :
    Except Failure Flow × Pool σ :=
  match verdict.action p.settings.haltOnCandidate with
  | .discard =>
    match p.removeFile case.path with
    | (.error f, p) => (.error f, p)
    | (.ok (), p) => (.ok .goOn, p.notify .point)
  | action =>
    match p.recordEvents (findingEvents case result verdict) with
    | (.error f, p) => (.error f, p)
    | (.ok (), p) =>
      let line := Report.lineOf verdict case.identifier case.path result
      if action = .report then (.ok .goOn, p.notify (.report line))
      else
        (.ok (.halted line verdict case), { p.notify (.lastReport line) with halted := true })

/-- Generates a case, runs both variants on it and acts on the verdict. -/
def runOnce [DrawSource σ] (children : Children) (worker : Nat) (p : Pool σ) :
    Except Failure Flow × Pool σ :=
  let (case, p) := p.nextCase worker
  match p.stage case with
  | (.error f, p) => (.error f, p)
  | (.ok (), p) =>
    match p.execute children case with
    | (.error f, p) => (.error f, p)
    | (.ok result, p) =>
      let verdict := Verdict.ofOutcomes result.baseline.outcome result.candidate.outcome
      { p with stats := p.stats.record verdict }.act case result verdict

/-! ## Loops -/

/-- The report of a worker that is stopped by a failure. -/
def failureLine (worker : Nat) (f : Failure) : String :=
  "[!!!] Worker " ++ Text.numeral worker ++ " stopped by an infrastructure error: " ++ f.shown

/-- Stops the run after a failure of a worker. -/
def giveUp (worker : Nat) (f : Failure) (p : Pool σ) : Except Failure Flow × Pool σ :=
  let p := { p with stats := p.stats.recordFailure }
  match p.recordEvent (.infrastructureError worker f.shown) with
  | (.error f, p) => (.error f, p)
  | (.ok (), p) =>
    let p := p.notify (.lastReport (failureLine worker f))
    (.ok (.failed f),
      { p with host := p.host.writeTrace f, halted := true })

/-- Calls a worker until it halts or the run has been halted. An interrupt is not handled. `fuel`
bounds the calls; there is no result if it is used up. -/
def runWorker [DrawSource σ] (children : Children) (worker : Nat) : Nat → Pool σ →
    Option (Except Failure Flow × Pool σ)
  | 0, _ => none
  | fuel + 1, p =>
    if p.halted then some (.ok .goOn, p)
    else
      match p.runOnce children worker with
      | (.error f, p) => some (if f.kind = .interrupt then (.error f, p) else p.giveUp worker f)
      | (.ok flow, p) => if flow.halts then some (.ok flow, p) else runWorker children worker fuel p

/-- Lets workers run to their end, one after the other, from `worker` on for a count of them. The
result is that of the first one that halts. -/
def runFrom [DrawSource σ] (children : Children) (fuel worker : Nat) : Nat → Pool σ →
    Option (Except Failure Flow × Pool σ)
  | 0, p => some (.ok .goOn, p)
  | count + 1, p =>
    match p.runWorker children worker fuel with
    | none => none
    | some (.error f, p) => some (.error f, p)
    | some (.ok flow, p) =>
      if flow.halts then some (.ok flow, p) else runFrom children fuel (worker + 1) count p

/-- Lets all workers run to their end and stops the pool. -/
def runAll [DrawSource σ] (children : Children) (fuel : Nat) (p : Pool σ) :
    Option (Except Failure Flow × Pool σ) :=
  (p.runFrom children fuel 0 p.settings.workers).map fun (result, p) => (result, p.stop)

end Pool

end CrashDiff
