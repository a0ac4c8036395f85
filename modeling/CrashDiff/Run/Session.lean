import CrashDiff.Options.Parser
import CrashDiff.Run.Metadata
import CrashDiff.Run.Pool
import CrashDiff.Run.Summary

/-!
# A session

A run from the command line to the exit status: the command line is read, the transcript is opened
if there is a log file, the pool is made and the metadata are collected, the header is printed, the
workers run until one of them halts, and the summary is printed.

* A failure while the pool is made, the metadata are collected or the workers run is told on the
  console error stream, and the status is one. The summary follows if there is a pool.
* An interrupt while the metadata are collected stops the pool, and the status is zero.
* A log file that cannot be opened ends the session at once, and so does a summary that cannot be
  made.
* An option that is left without its value ends the session at once, too. What a run would do
  without the value is not followed any further.

`Session.run` lets the workers run one after the other.
-/

namespace CrashDiff

/-- What a session is given. -/
structure SessionInput where
  argv : List String
  facts : HostFacts
  versions : VersionEndings
  children : Children
  /-- The seeds of the workers for a run without a master seed. -/
  ownSeed : Nat → Int
  /-- The time from start to end, in millionths of a second. -/
  duration : Int
  /-- A bound on the calls of a worker. -/
  fuel : Nat

/-- How a session ends. -/
inductive SessionEnding where
  /-- The run was made and has an exit status. -/
  | status (code : Nat)
  /-- The command line ended the session. -/
  | exit (code : Nat)
  /-- A failure ended the session at once. -/
  | raised (failure : Failure)
  /-- The workers did not come to an end. -/
  | unfinished
deriving Inhabited

/-- What a session leaves behind. -/
structure SessionResult where
  ending : SessionEnding
  host : Host
  calls : List Call := []
  /-- The transcript that was set up, as it is left. -/
  log : Option Transcript := none

namespace Session

/-- The words that the header shows as the command. -/
def commandWords (argv : List String) : List String :=
  "icediff" :: argv

/-- The duration of a session as a number of seconds. -/
def seconds (duration : Int) : Double :=
  .ofRatio (duration < 0) duration.natAbs 1000000

/-- Logs messages one after the other. -/
def logAll (messages : List Message) (h : Host) : Host :=
  messages.foldl (fun h m => h.log m) h

/-- Tells of a failure on the console error stream. -/
def tellFailure (f : Failure) (h : Host) : Host :=
  h.writeConsoleErr
    ("\n[!!!] An unexpected error occurred in the orchestrator: " ++ f.message ++ "\n" ++
      h.traceText f)

/-- The pool with another host. -/
def withHost {σ : Type} (change : Host → Host) (p : Pool σ) : Pool σ :=
  { p with host := change p.host }

/-- What a run of a pool amounts to: the exit status and the reason for the summary. -/
structure Conclusion where
  status : Nat
  reason : String

/-- Collects the metadata, and logs what happens on the way. -/
def query (input : SessionInput) (p : Pool Twister) : Except Failure Json × Pool Twister :=
  let (metadata, messages) := Metadata.collect p.settings input.facts input.versions
  (metadata, withHost (logAll messages) p)

/-- The text that the workers are announced with. -/
def startingText (workers : Nat) : String :=
  "[+] Starting " ++ Text.numeral workers ++ " workers. Press Ctrl+C to stop."

/-- Prints the header and announces the workers. -/
def announce (input : SessionInput) (metadata : Json) (p : Pool Twister) : Pool Twister :=
  let header :=
    (Header.render (commandWords input.argv) p.settings.logFile metadata).toOption.getD ""
  withHost (fun h => (h.printErr header).printErr (startingText p.settings.workers)) p

/-- Runs a pool after its metadata have been collected. There is no result if the workers do not
come to an end. -/
def runWorkers (input : SessionInput) (metadata : Json) (p : Pool Twister) :
    Option (Conclusion × Pool Twister) :=
  match (announce input metadata p).runAll input.children input.fuel with
  | some (.ok flow, p) =>
    some (if flow.halts then ⟨1, "Halted: " ++ flow.reason⟩ else ⟨0, "Completed"⟩, p)
  | _ => none

/-- Collects the metadata and runs a pool. -/
def runPool (input : SessionInput) (p : Pool Twister) : Option (Conclusion × Pool Twister) :=
  match query input p with
  | (.ok metadata, p) => runWorkers input metadata p
  | (.error f, p) =>
    if f.kind = .interrupt then
      some (⟨0, "KeyboardInterrupt"⟩,
        withHost (fun h => h.printErr "\n[!] Fuzzing stopped by user.") p.stop)
    else some (⟨1, "Error: " ++ f.message⟩, withHost (tellFailure f) p)

/-- Prints the summary of a run. -/
def printSummary (input : SessionInput) (reason : String) (p : Pool Twister) :
    Except Failure (Pool Twister) :=
  match Summary.render reason (seconds input.duration) p.stats.fields
    (EventCounts.fields p.events.counts) with
  | .error e => .error (.withText .overflow e.message)
  | .ok summary => .ok (withHost (fun h => h.printErr summary) p)

/-- Closes the transcript, takes it away from the streams, and says where the log is. The result is
the host and the closed transcript. -/
def finish (settings : RunSettings) (h : Host) : Host × Option Transcript :=
  match settings.logFile with
  | none => (h, none)
  | some path =>
    ({ h with transcript := none }.printErr
        ("[+] Fuzzing session finished. Full log saved to: " ++ path.toText),
      h.transcript.map fun t => t.close.2)

/-- Ends a session with an exit status. -/
def conclude (settings : RunSettings) (code : Nat) (h : Host) (calls : List Call) :
    SessionResult :=
  let (h, log) := finish settings h
  ⟨.status code, h, calls, log⟩

/-- Runs a session whose streams have been set up. -/
def runSettings (input : SessionInput) (settings : RunSettings) (h : Host) : SessionResult :=
  match Pool.start settings false (Pool.sourcesFor settings input.ownSeed) h with
  | (.error f, h) => conclude settings 1 (tellFailure f h) []
  | (.ok p, _) =>
    match runPool input p with
    | none => ⟨.unfinished, h, [], h.transcript⟩
    | some (conclusion, p) =>
      match printSummary input conclusion.reason p with
      | .error f => ⟨.raised f, p.host, p.calls, p.host.transcript⟩
      | .ok p => conclude settings conclusion.status p.host p.calls

/-- Opens the transcript, if there is a log file. -/
def openTranscript (settings : RunSettings) (h : Host) : Except Failure Unit × Host :=
  match settings.logFile with
  | none => (.ok (), h)
  | some path =>
    let h := h.printErr ("[+] Starting icediff. Full log will be at: " ++ path.toText)
    match Transcript.start path h.files with
    | (.error f, files) => (.error f, { h with files := files })
    | (.ok transcript, files) => (.ok (), { h with files := files, transcript := some transcript })

/-- Ends a session with a complaint about the command line. -/
def complain (message : String) (h : Host) : SessionResult :=
  ⟨.exit 2, h.writeErr (Usage.complaint message), [], none⟩

/-- Reads the command line and sets the streams up. The rest of the session follows if there is a
run to be made. -/
def setUp (argv : List String) (rest : RunSettings → Host → SessionResult) (h : Host) :
    SessionResult :=
  match CommandLine.parse argv with
  | .error e => complain e.message h
  | .ok .help => ⟨.exit 0, h.writeOut Usage.help, [], none⟩
  | .ok (.run arguments) =>
    match arguments.settings with
    | .error (.refused cause) => complain cause.message h
    | .error (.emptied key) =>
      ⟨.raised (.withText .type (ArgumentError.emptied key).message), h, [], none⟩
    | .ok settings =>
      let h := { h with shownFrom := some (if arguments.verbose then .debug else .warning) }
      match openTranscript settings h with
      | (.error f, h) => ⟨.raised f, h, [], none⟩
      | (.ok (), h) => rest settings h

/-- Runs a session. -/
def run (input : SessionInput) (h : Host) : SessionResult :=
  setUp input.argv (runSettings input) h

end Session

end CrashDiff
