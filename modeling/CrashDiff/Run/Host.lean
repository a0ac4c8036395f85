import CrashDiff.Compiler.Child
import CrashDiff.Run.Transcript

/-!
# The host

What a run has around it: the files, the two standard streams, and the log of messages. While a
transcript is set up, both standard streams go through it to the console output; messages always go
to the console error stream.
-/

namespace CrashDiff

/-- The surroundings of a run. -/
structure Host where
  files : FileSystem
  /-- The time that events are recorded with. -/
  time : String
  /-- The time that shown messages start with. -/
  stamp : String := ""
  /-- What has reached the console output stream. -/
  out : String := ""
  /-- What has reached the console error stream. -/
  err : String := ""
  /-- Stands for both standard streams while it is set. -/
  transcript : Option Transcript := none
  /-- All logged messages. -/
  messages : List Message := []
  /-- The least level of messages that are shown; none are shown without it. -/
  shownFrom : Option Level := none
  /-- The pieces in which the trace of a failure is written. -/
  trace : Failure → List String := fun f => [f.traceLine ++ "\n"]

namespace Host

/-- Writes to the standard output stream. -/
def writeOut (text : String) (h : Host) : Host :=
  match h.transcript with
  | none => { h with out := h.out ++ text }
  | some t =>
    let (events, t, files) := t.write text h.files
    { h with out := h.out ++ Transcript.streamText events, transcript := some t, files := files }

/-- Writes to the console error stream, past a transcript. -/
def writeConsoleErr (text : String) (h : Host) : Host :=
  { h with err := h.err ++ text }

/-- Writes to the standard error stream. -/
def writeErr (text : String) (h : Host) : Host :=
  match h.transcript with
  | none => h.writeConsoleErr text
  | some _ => h.writeOut text

/-- Writes a line to the standard error stream, the line feed as a text of its own. -/
def printErr (line : String) (h : Host) : Host :=
  (h.writeErr line).writeErr "\n"

/-- Whether a message of a level is shown. -/
def shows (h : Host) (level : Level) : Bool :=
  match h.shownFrom with
  | none => false
  | some .debug => true
  | some .warning => level = .warning

/-- The line that shows a message. -/
def messageLine (h : Host) (m : Message) : String :=
  h.stamp ++ " [" ++ m.level.label ++ "] icediff.execution: " ++ m.text ++ "\n"

/-- Logs a message. -/
def log (m : Message) (h : Host) : Host :=
  let h := { h with messages := h.messages ++ [m] }
  if h.shows m.level then h.writeConsoleErr (h.messageLine m) else h

/-- Writes texts to the standard error stream, one after the other. -/
def writeErrAll (texts : List String) (h : Host) : Host :=
  texts.foldl (fun h text => h.writeErr text) h

/-- The trace of a failure as a whole. -/
def traceText (h : Host) (f : Failure) : String :=
  String.join (h.trace f)

/-- Writes the trace of a failure to the standard error stream, piece by piece. -/
def writeTrace (f : Failure) (h : Host) : Host :=
  h.writeErrAll (h.trace f)

/-- Removes the file at a path. -/
def remove (p : Path) (h : Host) : Except Failure Unit × Host :=
  match FileSystem.remove p h.files with
  | (.error f, files) => (.error f, { h with files := files })
  | (.ok location, files) =>
    (.ok (), { h with files := files, transcript := h.transcript.map (·.forget location) })

end Host

end CrashDiff
