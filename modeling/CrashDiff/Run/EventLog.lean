import CrashDiff.Files.System
import CrashDiff.Json.Writer

/-!
# The event log

Findings and adverse events are counted by category and name, and written as JSON lines to a log
file if there is one. A failure of the operating system to write the line is ignored, so the counts
do not depend on the log.

`record` takes events whose numbers are short, as those of a run are; `enter` takes any event, and
fails if a number of it has too many digits to be written.
-/

namespace CrashDiff

/-- Something worth recording. -/
inductive Event where
  | oneSidedCrash (variant : String) (identifier : Int) (path : Path)
  | bothCrashed (identifier : Int) (path : Path)
  | unexpectedExit (variant : String) (code : Option Int) (identifier : Int) (path : Path)
  | infrastructureError (worker : Int) (error : String)
  | other (category name : String) (fields : List (String × Json))

namespace Event

/-- The category of an event. -/
def category : Event → String
  | .oneSidedCrash .. | .bothCrashed .. => "finding"
  | .unexpectedExit .. | .infrastructureError .. => "execution"
  | .other category _ _ => category

/-- The name of an event in its category. -/
def name : Event → String
  | .oneSidedCrash .. => "one_sided_crash"
  | .bothCrashed .. => "both_crashed"
  | .unexpectedExit .. => "unexpected_exit"
  | .infrastructureError .. => "infrastructure_error"
  | .other _ name _ => name

/-- The JSON value of an exit code. -/
def codeField : Option Int → Json
  | none => .null
  | some code => .int code

/-- The fields that are particular to an event. -/
def fields : Event → List (String × Json)
  | .oneSidedCrash variant identifier path =>
    [("variant", .str variant), ("case_id", .int identifier), ("path", .str path.toText)]
  | .bothCrashed identifier path => [("case_id", .int identifier), ("path", .str path.toText)]
  | .unexpectedExit variant code identifier path =>
    [("variant", .str variant), ("returncode", codeField code), ("case_id", .int identifier),
      ("path", .str path.toText)]
  | .infrastructureError worker error => [("worker_id", .int worker), ("error", .str error)]
  | .other _ _ fields => fields

/-- The key under which an event is counted. -/
def key (e : Event) : String :=
  e.category ++ "." ++ e.name

/-- The record of an event at a time. A field of the event replaces a common field of the same
name. -/
def record (time : String) (e : Event) : Json :=
  .obj (e.fields.foldl (fun record field => Json.put field.1 field.2 record)
    [("ts", .str time), ("cat", .str e.category), ("event", .str e.name)])

/-- The line of an event at a time. -/
def line (time : String) (e : Event) : String :=
  (e.record time).compact ++ "\n"

end Event

/-- The counts of events by key, in the order of their first occurrence. -/
abbrev EventCounts := List (String × Nat)

namespace EventCounts

/-- Counts an event. -/
def add (key : String) : EventCounts → EventCounts
  | [] => [(key, 1)]
  | (k, n) :: rest => if k = key then (k, n + 1) :: rest else (k, n) :: add key rest

/-- The count of a key. -/
def count (key : String) : EventCounts → Nat
  | [] => 0
  | (k, n) :: rest => if k = key then n else count key rest

/-- The counts as JSON fields. -/
def fields (counts : EventCounts) : List (String × Json) :=
  counts.map fun (k, n) => (k, .int n)

end EventCounts

/-- The event log: the path of its file, and the counts so far. -/
structure EventLog where
  path : Option Path := none
  counts : EventCounts := []
deriving DecidableEq, Repr

namespace EventLog

/-- Writes the line of an event, if there is a log file. A failure of the operating system is
ignored. -/
def writeLine (log : EventLog) (line : String) : FileSystem.Action Unit := fun fs =>
  match log.path with
  | none => (.ok (), fs)
  | some path =>
    match FileSystem.append path line fs with
    | (.error f, fs) => if f.kind.isSystem then (.ok (), fs) else (.error f, fs)
    | (.ok (), fs) => (.ok (), fs)

/-- Records an event at a time. It is counted unless writing it fails for another reason than the
operating system. -/
def record (time : String) (e : Event) (log : EventLog) (fs : FileSystem) :
    Except Failure Unit × EventLog × FileSystem :=
  match log.writeLine (e.line time) fs with
  | (.error f, fs) => (.error f, log, fs)
  | (.ok (), fs) => (.ok (), { log with counts := log.counts.add e.key }, fs)

/-- Enters an event at a time. If its line cannot be written, the event is lost, but the file for
the line has been opened before. -/
def enter (time : String) (e : Event) (log : EventLog) (fs : FileSystem) :
    Except Failure Unit × EventLog × FileSystem :=
  match log.path with
  | none => log.record time e fs
  | some path =>
    if (e.record time).isWritable then log.record time e fs
    else
      match FileSystem.append path "" fs with
      | (.error _, _) => log.record time e fs
      | (.ok (), fs) => (.error .tooLong, log, fs)

end EventLog

end CrashDiff
