import CrashDiff.Options.Arguments
import CrashDiff.Options.Usage
import CrashDiff.Text.Numeral
import CrashDiff.Text.Quoted

/-!
# Reading the command line

A command line is read in two passes. The first one sorts the words: options, in full or as an
abbreviation that matches one option only, with or without an explicit value behind `=`; the
separator, after which there are no more options; and plain arguments. The second pass gives
the options their values. Complaints of the first pass come before anything the second one does.

* A word that starts with a minus is a plain argument only if it is a single minus, a negative
  number, or holds a blank, and matches no option.
* A value option without an explicit value takes the next word, which must be a plain argument.
* Flags of one letter may be joined in one word.
* No plain arguments are expected: those that are left over, and unknown options, are a complaint at
  the end.
-/

namespace CrashDiff

/-- What is wrong with a command line. -/
inductive UsageError where
  | ambiguous (word : String) (candidates : List String)
  | missingValue (key : OptionKey)
  | ignoredValue (key : OptionKey) (value : String)
  | invalidInteger (key : OptionKey) (value : String)
  | unrecognized (words : List String)
deriving DecidableEq, Repr

/-- The message of a complaint. -/
def UsageError.message : UsageError → String
  | .ambiguous word candidates =>
    "ambiguous option: " ++ word ++ " could match " ++ String.intercalate ", " candidates
  | .missingValue key => "argument " ++ key.display ++ ": expected one argument"
  | .ignoredValue key value =>
    "argument " ++ key.display ++ ": ignored explicit argument " ++ Text.quoted value
  | .invalidInteger key value =>
    "argument " ++ key.display ++ ": invalid int value: " ++ Text.quoted value
  | .unrecognized words => "unrecognized arguments: " ++ String.intercalate " " words

namespace CommandLine

/-! ## Sorting the words -/

/-- What a word of the command line is. -/
inductive WordKind where
  | argument
  | separator
  /-- An option in the spelling that it stands for, with its explicit value. -/
  | option (key : OptionKey) (spelling : String) (value : Option String)
  | unknown
deriving DecidableEq, Repr

/-- The part of a word before the first `=` and, if there is one, the part behind it. -/
def splitValue : List Char → List Char × Option (List Char)
  | [] => ([], none)
  | c :: cs =>
    if c = '=' then ([], some cs)
    else
      let (before, value) := splitValue cs
      (c :: before, value)

/-- Whether a word is a negative number: digits, or a point with digits behind it. A line feed at
the end is overlooked. -/
def isNegativeNumber : List Char → Bool
  | '-' :: cs =>
    let cs := if cs.getLast? = some '\n' then cs.dropLast else cs
    let whole := cs.takeWhile Text.isDigit
    match cs.dropWhile Text.isDigit with
    | [] => !whole.isEmpty
    | '.' :: fraction => !fraction.isEmpty && fraction.all Text.isDigit
    | _ => false
  | _ => false

/-- The options that a word with two minus signs in front may abbreviate. -/
def longMatches (word : List Char) : List WordKind :=
  let (name, value) := splitValue word
  (OptionKey.spellings.filter fun s => name.isPrefixOf s.1.toList).map fun (spelling, key) =>
    .option key spelling (value.map String.ofList)

/-- The options that a word with one minus sign in front may stand for: the flag of its first
letter, with the other letters as the value, or an abbreviation. -/
def shortMatches (word : List Char) : List WordKind :=
  OptionKey.spellings.filterMap fun (spelling, key) =>
    if spelling.toList = word.take 2 then
      some (.option key spelling (some (String.ofList (word.drop 2))))
    else if word.isPrefixOf spelling.toList then some (.option key spelling none)
    else none

/-- The spelling of an option. -/
def spellingOf : WordKind → String
  | .option _ spelling _ => spelling
  | _ => ""

/-- The kind of a word that starts with a minus and is no full spelling of an option. -/
def classifyOther (word : List Char) : Except UsageError WordKind :=
  let candidates :=
    match word with
    | '-' :: '-' :: _ => longMatches word
    | _ => shortMatches word
  match candidates with
  | [kind] => .ok kind
  | _ :: _ :: _ => .error (.ambiguous (String.ofList word) (candidates.map spellingOf))
  | [] =>
    if isNegativeNumber word || word.contains ' ' then .ok .argument else .ok .unknown

/-- The kind of a word in front of the separator. -/
def classify (word : String) : Except UsageError WordKind :=
  match word.toList with
  | '-' :: rest =>
    match OptionKey.ofSpelling? word with
    | some key => .ok (.option key word none)
    | none =>
      if rest = [] then .ok .argument
      else
        let (name, value) := splitValue word.toList
        match value, OptionKey.ofSpelling? (String.ofList name) with
        | some value, some key =>
          .ok (.option key (String.ofList name) (some (String.ofList value)))
        | _, _ => classifyOther word.toList
  | _ => .ok .argument

/-- All words with their kinds. -/
def classifyAll : List String → Except UsageError (List (String × WordKind))
  | [] => .ok []
  | word :: words =>
    if word = "--" then
      .ok ((word, .separator) :: words.map fun w => (w, .argument))
    else
      match classify word with
      | .error e => .error e
      | .ok kind => (classifyAll words).map ((word, kind) :: ·)

/-! ## Giving the options their values -/

/-- What a command line amounts to. -/
inductive Request where
  | run (arguments : Arguments)
  | help
deriving DecidableEq, Repr

/-- A whole number given to an option. -/
def integer (key : OptionKey) (word : String) : Except UsageError Int :=
  match Text.readNumeral? word with
  | some n => .ok n
  | none => .error (.invalidInteger key word)

/-- The value that a word gives to an option. The separator is taken away from it, as early patches
of the option parser do. -/
def given {α : Type} (read : String → Except UsageError α) (word : String) :
    Except UsageError (Given α) :=
  if word = "--" then .ok .emptied else (read word).map .value

/-- A text given to an option. -/
def text (word : String) : Except UsageError String :=
  .ok word

/-- A path given to an option. -/
def path (word : String) : Except UsageError Path :=
  .ok (Path.ofText word)

/-- The arguments with a value put into them. -/
def setValue (key : OptionKey) (word : String) (a : Arguments) : Except UsageError Arguments :=
  match key with
  | .workers => (given (integer key) word).map fun v => { a with workers := v }
  | .seed => (given (integer key) word).map fun v => { a with seed := some v }
  | .compiler => (given text word).map fun v => { a with compiler := v }
  | .baseline => (given text word).map fun v => { a with baseline := v }
  | .candidate => (given text word).map fun v => { a with candidate := v }
  | .scratchDir => (given path word).map fun v => { a with scratchDir := some v }
  | .logFile => (given path word).map fun v => { a with logFile := some v }
  | .healthLog => (given path word).map fun v => { a with healthLog := some v }
  | _ => .ok a

/-- The arguments with a flag set. -/
def setFlag (key : OptionKey) (a : Arguments) : Arguments :=
  match key with
  | .parallelVariants => { a with parallel := true }
  | .haltOnCandidate => { a with haltOnCandidate := true }
  | .verbose => { a with verbose := true }
  | _ => a

/-- The flags joined in one word, from `key` on; the letters of the others follow. -/
def joinedFlags (key : OptionKey) : List Char → Except UsageError (List OptionKey)
  | [] => .error (.ignoredValue key "")
  | c :: cs =>
    match OptionKey.ofSpelling? (String.ofList ['-', c]) with
    | none => .error (.ignoredValue key (String.ofList (c :: cs)))
    | some next =>
      if cs = [] then .ok [key, next] else (joinedFlags next cs).map (key :: ·)

/-- The flags that a word sets. Only a flag of one letter may have others behind it. -/
def flagsOf (key : OptionKey) (spelling : String) :
    Option String → Except UsageError (List OptionKey)
  | none => .ok [key]
  | some value =>
    if spelling.length = 2 then joinedFlags key value.toList else .error (.ignoredValue key value)

/-- Reads the sorted words. `left` holds the words that are left over, the last one first. -/
def readWords (a : Arguments) (left : List String) :
    List (String × WordKind) → Except UsageError Request
  | [] => if left = [] then .ok (.run a) else .error (.unrecognized left.reverse)
  | (_, .option key spelling value) :: words =>
    if key.takesValue then
      match value, words with
      | some value, words =>
        match setValue key value a with
        | .error e => .error e
        | .ok a => readWords a left words
      | none, (word, .argument) :: words =>
        match setValue key word a with
        | .error e => .error e
        | .ok a => readWords a left words
      | none, _ => .error (.missingValue key)
    else
      match flagsOf key spelling value with
      | .error e => .error e
      | .ok flags =>
        if flags.contains .help then .ok .help
        else readWords (flags.foldl (fun a flag => setFlag flag a) a) left words
  | (word, _) :: words => readWords a (word :: left) words

/-- What a command line amounts to. -/
def parse (argv : List String) : Except UsageError Request :=
  match classifyAll argv with
  | .error e => .error e
  | .ok words => readWords {} [] words

end CommandLine

end CrashDiff
