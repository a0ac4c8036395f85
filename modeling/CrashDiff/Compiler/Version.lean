import CrashDiff.Compiler.Child
import CrashDiff.Text.Blank

/-!
# Version texts

A variant is asked for its version by a child with a time limit. The answer is its standard output
without blanks at the ends; when the child cannot be run, fails, or prints blanks only, the
version is unknown.
-/

namespace CrashDiff

/-- How a child that was asked for its version ends. -/
inductive VersionEnding where
  | exited (code : Int) (output errors : String)
  | failed (failure : Failure)

namespace Version

/-- The version of a variant that cannot be asked. -/
def unknown : String := "unknown"

/-- The words that ask a variant for its version. -/
def command (s : ExecutionSettings) (v : Variant) : List String :=
  [s.compiler, v.selector, "--version"]

/-- Whether a failure to run the child is answered by an unknown version. -/
def isForgiven (f : Failure) : Bool :=
  f.kind.isSystem || f.kind = .timeout

/-- The version of a variant and the messages logged on the way. -/
def ofEnding (v : Variant) : VersionEnding → Except Failure String × List Message
  | .failed f =>
    if isForgiven f then
      (.ok unknown,
        [⟨.warning, "Could not query " ++ v.name ++ " toolchain version: " ++ f.message⟩])
    else (.error f, [])
  | .exited code output errors =>
    if code ≠ 0 then
      (.ok unknown,
        [⟨.warning, v.name ++ " toolchain version query exited with " ++ Text.numeral code ++
          ": " ++ Text.trim errors⟩])
    else
      let version := Text.trim output
      (.ok (if version.isEmpty then unknown else version), [])

end Version

end CrashDiff
