import CrashDiff.Run.Session

/-!
# Workers at once

`Session.run` lets the workers run one after the other. Here each of them runs on a thread of its
own, and the main thread waits for their results, halts the run, prints the summary, closes the
transcript and restores the streams. A schedule says which thread moves next; between two moves of
others a thread does one thing that no other thread can interrupt. The two children of a call are
waited for one after the other.

* Workers that are in a call when the run is halted are not waited for. Such a worker comes to the
  end of its call after the summary, or after the end of the main thread, or never.
* A trace is written in pieces to the stream that standard error was when the trace was begun. So
  it may go through a transcript that has been closed or taken away in the meantime, which passes it
  on to the console output stream only.
* A failure that a worker does not handle ends its thread without a result. Its trace is written
  all the same, behind a line with the name of the thread.
-/

namespace CrashDiff

/-! ## Code -/

/-- What a thread has still to do on a pool up to a result.

* `act`: an action that no other thread can interrupt.
* `tell`: a notice to the progress stream. -/
inductive Code (σ α : Type) where
  | done (result : α)
  | act (effect : Pool σ → Pool σ) (next : Pool σ → Code σ α)
  | tell (n : Notice) (next : Code σ α)

namespace Code

variable {σ α β : Type}

/-- Code that goes on with a result. -/
def bind : Code σ α → (α → Code σ β) → Code σ β
  | .done result, rest => rest result
  | .act effect next, rest => .act effect fun p => (next p).bind rest
  | .tell n next, rest => .tell n (next.bind rest)

instance : Monad (Code σ) where
  pure := done
  bind := bind

/-- An action with a result. -/
def atomic (f : Pool σ → α × Pool σ) : Code σ α :=
  .act (fun p => (f p).2) fun p => .done (f p).1

/-- An action without a result. -/
def change (effect : Pool σ → Pool σ) : Code σ Unit :=
  .act effect fun _ => .done ()

/-- A notice to the progress stream. -/
def notify (n : Notice) : Code σ Unit :=
  .tell n (.done ())

/-- The result, and the pool behind it, if no other thread comes between. -/
def run : Code σ α → Pool σ → α × Pool σ
  | .done result, p => (result, p)
  | .act effect next, p => (next p).run (effect p)
  | .tell n next, p => next.run (p.notify n)

/-! ## The code of a worker -/

/-- Records events one after the other, up to the first that fails. -/
def recordEvents : List Event → Code σ (Except Failure Unit)
  | [] => pure (.ok ())
  | e :: es => do
    match ← atomic (·.recordEvent e) with
    | .error f => pure (.error f)
    | .ok () => recordEvents es

/-- The result of a child that has been started, and the message about it. -/
def finish (case : TestCase) (v : Variant) (child : Child) (p : Pool σ) :
    Except Failure VariantResult × Pool σ :=
  match child.ending with
  | .failed f => (.error f, p)
  | .exited code =>
    let result := p.resultOf v child code
    if p.substitute then (.ok result, p)
    else
      (.ok result,
        { p with host := p.host.log (ExecutionSettings.finishedMessage result case.path) })

/-- Starts one variant on a case and waits for it. -/
def runVariant (children : Children) (case : TestCase) (v : Variant) :
    Code σ (Except Failure VariantResult) := do
  match ← atomic (·.launch case v (children case v)) with
  | .error f => pure (.error f)
  | .ok () => atomic (finish case v (children case v))

/-- Runs both variants on a case. -/
def execute (s : ExecutionSettings) (children : Children) (case : TestCase) :
    Code σ (Except Failure DualResult) := do
  match ← runVariant children case s.baseline with
  | .error f =>
    if s.parallel then do
      let _ ← runVariant children case s.candidate
      pure (.error f)
    else pure (.error f)
  | .ok baseline =>
    match ← runVariant children case s.candidate with
    | .error f => pure (.error f)
    | .ok candidate => pure (.ok ⟨baseline, candidate⟩)

/-- Does what the verdict on a case asks for. -/
def actOn (haltOnCandidate : Bool) (case : TestCase) (result : DualResult) (verdict : Verdict) :
    Code σ (Except Failure Flow) :=
  match verdict.action haltOnCandidate with
  | .discard => do
    match ← atomic (·.removeFile case.path) with
    | .error f => pure (.error f)
    | .ok () => do
      notify .point
      pure (.ok .goOn)
  | action => do
    match ← recordEvents (Pool.findingEvents case result verdict) with
    | .error f => pure (.error f)
    | .ok () =>
      let line := Report.lineOf verdict case.identifier case.path result
      if action = .report then do
        notify (.report line)
        pure (.ok .goOn)
      else do
        notify (.lastReport line)
        change fun p => { p with halted := true }
        pure (.ok (.halted line verdict case))

/-- One call of a worker. -/
def runOnce [DrawSource σ] (s : RunSettings) (children : Children) (worker : Nat) :
    Code σ (Except Failure Flow) := do
  let case ← atomic (·.nextCase worker)
  match ← atomic (·.stage case) with
  | .error f => pure (.error f)
  | .ok () =>
    match ← execute s.execution children case with
    | .error f => pure (.error f)
    | .ok result => do
      let verdict := Verdict.ofOutcomes result.baseline.outcome result.candidate.outcome
      change fun p => { p with stats := p.stats.record verdict }
      actOn s.haltOnCandidate case result verdict

/-- What a worker that is stopped by a failure does before it writes the trace. -/
def giveUp (worker : Nat) (f : Failure) : Code σ (Except Failure Unit) := do
  change fun p => { p with stats := p.stats.recordFailure }
  match ← atomic (·.recordEvent (.infrastructureError worker f.shown)) with
  | .error f => pure (.error f)
  | .ok () => do
    notify (.lastReport (Pool.failureLine worker f))
    pure (.ok ())

end Code

/-! ## Threads -/

/-- A text that a thread writes.

* `progress`: what the progress stream gets.
* `spoken`: a text of the main thread on the standard error stream.
* `traced`: a piece of a trace of a worker.

The last two get to the console output stream if they are `shared` with it. -/
inductive Saying where
  | progress (text : String)
  | spoken (shared : Bool) (text : String)
  | traced (worker : Nat) (shared : Bool) (text : String)
deriving DecidableEq, Repr

namespace Saying

/-- What the console output stream gets. -/
def shown : Saying → String
  | .progress text => text
  | .spoken shared text | .traced _ shared text => if shared then text else ""

/-- What the progress stream gets. -/
def onProgress : Saying → String
  | .progress text => text
  | .spoken .. | .traced .. => ""

/-- What the console output stream gets from sayings. -/
def shownOf (sayings : List Saying) : String :=
  String.join (sayings.map shown)

/-- What the progress stream gets from sayings. -/
def progressOf (sayings : List Saying) : String :=
  String.join (sayings.map onProgress)

end Saying

/-- Writes to the stream that standard error was at some time: the console output stream, through a
transcript if there still is one, or the console error stream. -/
def Host.writeTo (shared : Bool) (text : String) (h : Host) : Host :=
  if shared then h.writeOut text else h.writeConsoleErr text

/-- A worker on its thread.

* `looking`: it is about to look at the halt flag.
* `calling`: it is in a call.
* `failing`: it is about to give up after a failure.
* `tracing`: it writes a trace. Behind it, a worker that has given up halts the run; if there is no
  failure given, the thread ends.
* `answering`: it has come to its end, and has a result to hand over.
* `finished`: its thread has ended. -/
inductive Thread (σ : Type) where
  | looking
  | calling (rest : Code σ (Except Failure Flow))
  | failing (failure : Failure) (rest : Code σ (Except Failure Unit))
  | tracing (shared : Bool) (texts : List String) (failure : Option Failure)
  | answering (flow : Flow)
  | finished

/-- What comes of a move of a worker: its thread and the pool behind it, what it has said, and its
result if it has handed it over. -/
structure Moved (σ : Type) where
  thread : Thread σ
  pool : Pool σ
  said : List Saying := []
  result : Option Flow := none

namespace Code

variable {σ α : Type}

/-- The next thing that code does. -/
def move : Code σ α → Pool σ → Code σ α × Pool σ × List Saying
  | .done result, p => (.done result, p, [])
  | .act effect next, p => (next p, effect p, [])
  | .tell n next, p => (next, p.notify n, [.progress (p.progress.written n)])

end Code

namespace Thread

variable {σ : Type}

/-- A worker begins to write the trace of a failure. -/
def begin (p : Pool σ) (texts : List String) (failure : Option Failure) : Moved σ where
  thread := .tracing p.host.transcript.isSome texts failure
  pool := p

/-- What is written about a failure that ends a thread. -/
def deathTexts (worker : Nat) (f : Failure) (h : Host) : List String :=
  ["Exception in thread ", "icediff-worker-" ++ Text.numeral worker, ":\n"] ++ h.trace f

/-- The next move of a worker. -/
def move [DrawSource σ] (children : Children) (worker : Nat) (p : Pool σ) : Thread σ → Moved σ
  | .looking =>
    if p.halted then { thread := .answering .goOn, pool := p }
    else { thread := .calling (Code.runOnce p.settings children worker), pool := p }
  | .calling (.done (.ok flow)) =>
    { thread := if flow.halts then .answering flow else .looking, pool := p }
  | .calling (.done (.error f)) =>
    if f.kind = .interrupt then begin p (deathTexts worker f p.host) none
    else { thread := .failing f (Code.giveUp worker f), pool := p }
  | .calling rest =>
    let (rest, p, said) := rest.move p
    { thread := .calling rest, pool := p, said := said }
  | .failing f (.done (.ok ())) => begin p (p.host.trace f) (some f)
  | .failing _ (.done (.error f)) => begin p (deathTexts worker f p.host) none
  | .failing f rest =>
    let (rest, p, said) := rest.move p
    { thread := .failing f rest, pool := p, said := said }
  | .tracing shared (text :: texts) failure =>
    { thread := .tracing shared texts failure
      pool := { p with host := p.host.writeTo shared text }
      said := [.traced worker shared text] }
  | .tracing _ [] (some f) =>
    { thread := .answering (.failed f), pool := { p with halted := true } }
  | .tracing _ [] none => { thread := .finished, pool := p }
  | .answering flow => { thread := .finished, pool := p, result := some flow }
  | .finished => { thread := .finished, pool := p }

end Thread

/-- The main thread, from the start of the workers on.

* `watching`: it waits for results of so many workers.
* `halting`, `silencing`: it sets the halt flag, and closes the progress stream.
* `telling`: it tells that it was interrupted, if it was, and reads the counters of the pool.
* `summing`: it reads the counts of events, and makes the summary.
* `printing`: it prints the summary, and closes the transcript.
* `restoring`: it restores the streams. The transcript that was closed is kept for the result.
* `parting`: it says where the log is. -/
inductive MainThread where
  | watching (count : Nat)
  | halting (c : Session.Conclusion) (texts : List String)
  | silencing (c : Session.Conclusion) (texts : List String)
  | telling (c : Session.Conclusion) (texts : List String)
  | summing (c : Session.Conclusion) (counters : List (String × Json))
  | printing (c : Session.Conclusion) (texts : List String)
  | restoring (c : Session.Conclusion) (log : Option Transcript) (path : Path)
  | parting (c : Session.Conclusion) (log : Option Transcript) (texts : List String)
  | ended (ending : SessionEnding) (log : Option Transcript)

/-- All threads of a session, the pool that they share, the results that no one has waited for, and
what has been said so far. -/
structure Threads (σ : Type) where
  pool : Pool σ
  workers : List (Thread σ)
  results : List Flow := []
  main : MainThread
  said : List Saying := []

/-- Who moves: a worker, the main thread, or an interrupt of the main thread while it waits. -/
inductive Mover where
  | worker (k : Nat)
  | main
  | interrupt
deriving DecidableEq, Repr

namespace Threads

variable {σ : Type}

/-- All workers of a pool at their start. -/
def start (p : Pool σ) : Threads σ where
  pool := p
  workers := List.replicate p.settings.workers .looking
  main := .watching p.settings.workers

/-- The main thread writes a text to the standard error stream. -/
def speak (text : String) (s : Threads σ) : Threads σ :=
  { s with
    pool := { s.pool with host := s.pool.host.writeErr text }
    said := s.said ++ [.spoken s.pool.host.transcript.isSome text] }

/-- The next move of the main thread. -/
def moveMain (input : SessionInput) (s : Threads σ) : Threads σ :=
  match s.main with
  | .watching 0 => { s with main := .halting ⟨0, "Completed"⟩ [] }
  | .watching (count + 1) =>
    match s.results with
    | [] => s
    | flow :: results =>
      { s with
        results := results
        main := if flow.halts then .halting ⟨1, "Halted: " ++ flow.reason⟩ []
          else .watching count }
  | .halting c texts =>
    { s with pool := { s.pool with halted := true }, main := .silencing c texts }
  | .silencing c texts => { s with pool := s.pool.notify .close, main := .telling c texts }
  | .telling c (text :: texts) => { s.speak text with main := .telling c texts }
  | .telling c [] => { s with main := .summing c s.pool.stats.fields }
  | .summing c counters =>
    match Summary.render c.reason (Session.seconds input.duration) counters
      (EventCounts.fields s.pool.events.counts) with
    | .error e =>
      { s with main := .ended (.raised (.withText .overflow e.message)) s.pool.host.transcript }
    | .ok summary => { s with main := .printing c [summary, "\n"] }
  | .printing c (text :: texts) => { s.speak text with main := .printing c texts }
  | .printing c [] =>
    match s.pool.settings.logFile with
    | none => { s with main := .ended (.status c.status) none }
    | some path =>
      let log := s.pool.host.transcript.map fun t => t.close.2
      { s with
        pool := { s.pool with host := { s.pool.host with transcript := log } }
        main := .restoring c log path }
  | .restoring c log path =>
    { s with
      pool := { s.pool with host := { s.pool.host with transcript := none } }
      main := .parting c log
        ["[+] Fuzzing session finished. Full log saved to: " ++ path.toText, "\n"] }
  | .parting c log (text :: texts) => { s.speak text with main := .parting c log texts }
  | .parting c log [] => { s with main := .ended (.status c.status) log }
  | .ended .. => s

/-- One move of a thread. -/
def move [DrawSource σ] (input : SessionInput) (s : Threads σ) : Mover → Threads σ
  | .worker k =>
    match s.workers[k]? with
    | none => s
    | some t =>
      let moved := t.move input.children k s.pool
      { s with
        pool := moved.pool
        workers := s.workers.set k moved.thread
        results := s.results ++ moved.result.toList
        said := s.said ++ moved.said }
  | .main => s.moveMain input
  | .interrupt =>
    match s.main with
    | .watching _ =>
      { s with
        main := .halting ⟨0, "KeyboardInterrupt"⟩ ["\n[!] Fuzzing stopped by user.", "\n"] }
    | _ => s

/-- The moves of a schedule. -/
def run [DrawSource σ] (input : SessionInput) (schedule : List Mover) (s : Threads σ) : Threads σ :=
  schedule.foldl (fun s m => s.move input m) s

end Threads

/-! ## Sessions -/

namespace Session

/-- The threads that a session starts, if it comes to that: its pool has been made, its metadata
have been collected, and the header has been printed. -/
def threads? (input : SessionInput) (settings : RunSettings) (h : Host) :
    Option (Threads Twister) :=
  match Pool.start settings false (Pool.sourcesFor settings input.ownSeed) h with
  | (.error _, _) => none
  | (.ok p, _) =>
    match query input p with
    | (.error _, _) => none
    | (.ok metadata, p) => some (.start (announce input metadata p))

/-- Runs a session whose streams have been set up, with its threads moving after a schedule. A
session that starts no workers is run as if they ran one after the other. -/
def runSettingsAtOnce (input : SessionInput) (schedule : List Mover) (settings : RunSettings)
    (h : Host) : SessionResult :=
  match threads? input settings h with
  | none => runSettings input settings h
  | some start =>
    let s := start.run input schedule
    match s.main with
    | .ended ending log => ⟨ending, s.pool.host, s.pool.calls, log⟩
    | _ => ⟨.unfinished, s.pool.host, s.pool.calls, s.pool.host.transcript⟩

/-- Runs a session with its threads moving after a schedule. -/
def runAtOnce (input : SessionInput) (schedule : List Mover) (h : Host) : SessionResult :=
  setUp input.argv (runSettingsAtOnce input schedule) h

end Session

end CrashDiff
