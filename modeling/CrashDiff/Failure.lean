import CrashDiff.Json.Shown

/-!
# Failures

What can go wrong while a run works with files and child processes: a kind and its details. A
failure is shown in three ways: its message, its full form with kind and details, and the last
line of its trace.

* The messages of the kinds that are listed here are made from their details. A failure of any other
  kind brings its texts along.
* A system failure has a number, a text and up to two names of files as its details. Behind the name
  of a first file stands a code that is not shown. If there is a first file, the full form has
  the number and the text only.
-/

namespace CrashDiff

/-- A kind of failure that is not listed, no interrupt, with the texts that show it. The full form
is on one line. -/
structure OtherKind where
  /-- The name of the kind in a trace. -/
  label : String
  message : String
  shown : String
  isSystem : Bool
  oneLine : '\n' ∉ shown.toList
deriving DecidableEq, Repr

/-- The kinds of failures. -/
inductive FailureKind where
  | os
  | fileNotFound
  | fileExists
  | notADirectory
  | isADirectory
  | permission
  | value
  | runtime
  | type
  | interrupt
  | timeout
  | subprocess
  | overflow
  | other (kind : OtherKind)
deriving DecidableEq, Repr

namespace FailureKind

/-- The name of a kind. -/
def label : FailureKind → String
  | .os => "OSError"
  | .fileNotFound => "FileNotFoundError"
  | .fileExists => "FileExistsError"
  | .notADirectory => "NotADirectoryError"
  | .isADirectory => "IsADirectoryError"
  | .permission => "PermissionError"
  | .value => "ValueError"
  | .runtime => "RuntimeError"
  | .type => "TypeError"
  | .interrupt => "KeyboardInterrupt"
  | .timeout => "TimeoutExpired"
  | .subprocess => "SubprocessError"
  | .overflow => "OverflowError"
  | .other kind => kind.label

/-- The kinds that are listed. -/
def all : List FailureKind :=
  [.os, .fileNotFound, .fileExists, .notADirectory, .isADirectory, .permission, .value, .runtime,
    .type, .interrupt, .timeout, .subprocess, .overflow]

/-- The listed kind with a name. -/
def ofLabel? (label : String) : Option FailureKind :=
  all.find? fun kind => kind.label = label

/-- The name of a kind in a trace. -/
def traceLabel : FailureKind → String
  | .timeout => "subprocess.TimeoutExpired"
  | .subprocess => "subprocess.SubprocessError"
  | kind => kind.label

/-- Whether the kind is a failure of the operating system. -/
def isSystem : FailureKind → Bool
  | .os | .fileNotFound | .fileExists | .notADirectory | .isADirectory | .permission => true
  | .other kind => kind.isSystem
  | _ => false

end FailureKind

/-- A failure: its kind and its details. -/
structure Failure where
  kind : FailureKind
  details : List Json

namespace Failure

/-- A list of details in round brackets. -/
def tupleText : List Json → String
  | [] => "()"
  | [d] => "(" ++ d.shown ++ ",)"
  | d :: ds => "(" ++ d.shown ++ Json.shownItems ds ++ ")"

/-- The files that a system failure names behind its number and its text. -/
def files : List Json → List Json
  | [] | .null :: _ => []
  | [file, _, .null] => [file]
  | [file, _, other] => [file, other]
  | file :: _ => [file]

/-- The message of a system failure with a number, a text and the names of files. -/
def systemText (number text : Json) (files : List Json) : String :=
  let front := "[Errno " ++ number.text ++ "] " ++ text.text
  match files with
  | [] => front
  | [file] => front ++ ": " ++ file.shown
  | file :: other :: _ => front ++ ": " ++ file.shown ++ " -> " ++ other.shown

/-- The message of a failure of another form. -/
def plainText : List Json → String
  | [] => ""
  | [d] => d.text
  | ds => tupleText ds

/-- Whether the details are those of a system failure: a number, a text, and at most three more. -/
def isNumbered (f : Failure) : Bool :=
  f.kind.isSystem && 2 ≤ f.details.length && f.details.length ≤ 5

/-- The message of a failure. -/
def message (f : Failure) : String :=
  match f.kind, f.details with
  | .other kind, _ => kind.message
  | .timeout, [a, b] => "Command '" ++ a.text ++ "' timed out after " ++ b.text ++ " seconds"
  | _, a :: b :: ds => if f.isNumbered then systemText a b (files ds) else plainText (a :: b :: ds)
  | _, ds => plainText ds

/-- The details that the full form shows: a system failure that names a file shows its number and
its text only. -/
def shownDetails (f : Failure) : List Json :=
  if f.isNumbered && files (f.details.drop 2) ≠ [] then f.details.take 2 else f.details

/-- The full form of a failure. -/
def shown (f : Failure) : String :=
  match f.kind, f.shownDetails with
  | .other kind, _ => kind.shown
  | kind, [d] => kind.label ++ "(" ++ d.shown ++ ")"
  | kind, ds => kind.label ++ tupleText ds

/-- The last line of the trace of a failure. -/
def traceLine (f : Failure) : String :=
  if f.message.isEmpty then f.kind.traceLabel else f.kind.traceLabel ++ ": " ++ f.message

/-- A failure with one text as its detail. -/
def withText (kind : FailureKind) (text : String) : Failure :=
  ⟨kind, [.str text]⟩

/-- The failure to write a number of too many digits. -/
def tooLong : Failure :=
  withText .value Text.digitLimitText

end Failure

end CrashDiff
