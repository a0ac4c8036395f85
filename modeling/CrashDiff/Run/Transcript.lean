import CrashDiff.Files.System

/-!
# The transcript

A transcript stands in front of a stream: what is written to it goes to the stream and, as long as
it is not closed, also into a log file. The stream is flushed after every write.

The log file is addressed by the place and the offset where it was opened. Once its file has been
removed, later writes no longer show.
-/

namespace CrashDiff

/-- What reaches a stream. -/
inductive StreamEvent where
  | write (text : String)
  | flush
deriving DecidableEq, Repr

/-- What a stream tells about itself, if it tells anything. -/
structure StreamFacts where
  encoding : Option String := none
  isTerminal : Option Bool := none
  descriptor : Option Int := none
deriving DecidableEq, Repr

/-- A transcript: the place of its file, how many bytes have been written to it, and whether it is
closed. -/
structure Transcript where
  location : Option Location
  offset : Nat := 0
  closed : Bool := false
deriving DecidableEq, Repr

namespace Transcript

/-- Opens a transcript at a path; the file is emptied. -/
def start (p : Path) : FileSystem.Action Transcript := fun fs =>
  match FileSystem.create p fs with
  | (.error f, fs) => (.error f, fs)
  | (.ok location, fs) => (.ok ⟨some location, 0, false⟩, fs)

/-- Writes a text: what reaches the stream, the transcript and the files afterwards. -/
def write (t : Transcript) (text : String) (fs : FileSystem) :
    List StreamEvent × Transcript × FileSystem :=
  let events := [.write text, .flush]
  if t.closed then (events, t, fs)
  else
    match t.location with
    | none => (events, t, fs)
    | some location =>
      (events, { t with offset := t.offset + text.utf8ByteSize },
        fs.writeAt location t.offset text)

/-- Writes texts one after the other. -/
def writeEach : List String → Transcript → FileSystem →
    List StreamEvent × Transcript × FileSystem
  | [], t, fs => ([], t, fs)
  | text :: texts, t, fs =>
    let (events, t, fs) := t.write text fs
    let (more, t, fs) := writeEach texts t fs
    (events ++ more, t, fs)

/-- Writes values with a separator between them and an ending, each as a text of its own. -/
def print (values : List String) (separator ending : String) (t : Transcript)
    (fs : FileSystem) : List StreamEvent × Transcript × FileSystem :=
  writeEach (values.intersperse separator ++ [ending]) t fs

/-- What reaches the stream when the transcript is flushed. -/
def flush : List StreamEvent :=
  [.flush]

/-- Closes the log file; the stream stays open. -/
def close (t : Transcript) : List StreamEvent × Transcript :=
  ([.flush], { t with closed := true })

/-- The transcript after the file at a location has been removed. -/
def forget (t : Transcript) (removed : Location) : Transcript :=
  if t.location = some removed then { t with location := none } else t

/-- The text that reached the stream. -/
def streamText : List StreamEvent → String
  | [] => ""
  | .write text :: events => text ++ streamText events
  | .flush :: events => streamText events

/-- The encoding of the stream, or the usual one. -/
def encoding (facts : StreamFacts) : String :=
  match facts.encoding with
  | some name => if name.isEmpty then "utf-8" else name
  | none => "utf-8"

/-- Whether the stream is a terminal. -/
def isTerminal (facts : StreamFacts) : Bool :=
  facts.isTerminal.getD false

/-- The descriptor of the stream. -/
def descriptor (facts : StreamFacts) : Except Failure Int :=
  match facts.descriptor with
  | some n => .ok n
  | none => .error (.withText .os "TeeLogger does not have a file descriptor")

end Transcript

end CrashDiff
