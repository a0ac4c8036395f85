import CrashDiff.Files.Path
import CrashDiff.Json.Shown
import CrashDiff.Text.Capital
import CrashDiff.Text.Dedent

/-!
# The run header

The text that a run starts with. It is made from the metadata of the run, given as a JSON object: a
key that is missing is the cause of failure. `render` makes it from metadata whose numbers are
short, as those of a session are; `compose` also fails at the first number that has too many digits
to be written.
-/

namespace CrashDiff.Header

/-- Why there is no header. -/
inductive HeaderError where
  /-- The metadata lack a key. -/
  | missing (key : String)
  /-- A number has too many digits to be written. -/
  | tooLong
deriving DecidableEq, Repr

/-- The message for a header that cannot be made. -/
def HeaderError.message : HeaderError → String
  | .missing key => Text.quoted key
  | .tooLong => Text.digitLimitText

/-- The field of an object under a key that must be there. -/
def field (key : String) (v : Json) : Except HeaderError Json :=
  match v.get? key with
  | some v => .ok v
  | none => .error (.missing key)

/-- How a value is written, with or without a limit on the length of its numbers. -/
def written (limited : Bool) (write : Json → String) (v : Json) : Except HeaderError String :=
  if limited && !v.isWritable then .error .tooLong else .ok (write v)

/-- The text of a field that must be there. -/
def fieldText (limited : Bool) (key : String) (v : Json) : Except HeaderError String := do
  written limited Json.text (← field key v)

/-- A rule across the page. -/
def rule (c : Char) : String :=
  "".pushn c 80

/-- A text filled up with blanks to a width. -/
def padded (width : Nat) (text : String) : String :=
  text ++ "".pushn ' ' (width - text.length)

/-- The line of a variant. -/
def toolchainLine (limited : Bool) (name : String) (info : Json) : Except HeaderError String := do
  let selector ← fieldText limited "selector" info
  let version ← fieldText limited "version" info
  return "- " ++ padded 19 (Text.capitalize name ++ ":") ++ selector ++ " (" ++ version ++ ")"

/-- The fields of an object. -/
def fieldsOf : Json → List (String × Json)
  | .obj fields => fields
  | _ => []

/-- The header as it is put together, before it is moved to the left. -/
def assembled (limited : Bool) (command : List String) (logFile : Option Path) (metadata : Json) :
    Except HeaderError String := do
  let environment ← field "environment" metadata
  let toolchains ← (fieldsOf (← field "toolchains" metadata)).mapM fun (name, info) =>
    toolchainLine limited name info
  let hostname ← fieldText limited "hostname" environment
  let platform ← fieldText limited "os" environment
  let processId ← fieldText limited "pid" environment
  let runtimeVersion ← fieldText limited "python_version" environment
  let workingDir ← fieldText limited "working_dir" environment
  let configuration ← written limited Json.indented (← field "configuration" metadata)
  let hardware ← written limited Json.indented (← field "hardware" metadata)
  return "\n" ++ rule '=' ++ "\nICEDIFF FUZZER RUN\n" ++ rule '=' ++
    "\n- Hostname:          " ++ hostname ++
    "\n- Platform:          " ++ platform ++
    "\n- Process ID:        " ++ processId ++
    "\n- Python Version:    " ++ runtimeVersion ++
    "\n- Working Dir:       " ++ workingDir ++
    "\n- Log File:          " ++ (logFile.map Path.toText).getD "(console only)" ++
    "\n- Command:           " ++ String.intercalate " " command ++
    "\n" ++ String.intercalate "\n" toolchains ++
    "\n" ++ rule '-' ++ "\nConfiguration:\n" ++ configuration ++
    "\nHardware:\n" ++ hardware ++
    "\n" ++ rule '=' ++ "\n"

/-- The header of a run. -/
def render (command : List String) (logFile : Option Path) (metadata : Json) :
    Except HeaderError String :=
  (assembled false command logFile metadata).map Text.dedent

/-- The header of a run with its numbers written out. -/
def compose (command : List String) (logFile : Option Path) (metadata : Json) :
    Except HeaderError String :=
  (assembled true command logFile metadata).map Text.dedent

end CrashDiff.Header
