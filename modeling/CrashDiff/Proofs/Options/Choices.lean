import CrashDiff.Proofs.Options.Words
import Mathlib.Data.List.Induction

/-!
# Choices on the command line

A command line that writes choices of options, each in any of its forms, is read as exactly these
choices: in any order, with any names that are not ambiguous, and with any values. When an option is
written more than once, its last value counts.

Results:
1. `exists_sorted`: how the words of one choice are sorted and read.
2. `parse_of_writes`: what the words of all choices are read as.
3. `foldl_apply`: the arguments that choices amount to.
-/

namespace CrashDiff

open Text

/-- The options whose values are texts. -/
inductive TextOption where
  | compiler
  | baseline
  | candidate
  | scratchDir
  | logFile
  | healthLog
deriving DecidableEq, Repr

/-- The options without values. -/
inductive FlagOption where
  | parallelVariants
  | haltOnCandidate
  | verbose
deriving DecidableEq, Repr

def TextOption.key : TextOption → OptionKey
  | .compiler => .compiler
  | .baseline => .baseline
  | .candidate => .candidate
  | .scratchDir => .scratchDir
  | .logFile => .logFile
  | .healthLog => .healthLog

def FlagOption.key : FlagOption → OptionKey
  | .parallelVariants => .parallelVariants
  | .haltOnCandidate => .haltOnCandidate
  | .verbose => .verbose

/-- A choice for a run, as it can be made on the command line. -/
inductive Choice where
  | workers (n : Int)
  | seed (n : Int)
  | text (o : TextOption) (value : String)
  | flag (o : FlagOption)
deriving DecidableEq, Repr

namespace Choice

/-- The option of a choice. -/
def key : Choice → OptionKey
  | .workers _ => .workers
  | .seed _ => .seed
  | .text o _ => o.key
  | .flag o => o.key

/-- The value that the option is given. -/
def value? : Choice → Option String
  | .workers n | .seed n => some (numeral n)
  | .text _ value => some value
  | .flag _ => none

/-- The value can stand as a word of its own: it does not start with a minus, or is a number. -/
def StandsAlone : Choice → Prop
  | .text _ value => value.toList.head? ≠ some '-'
  | _ => True

instance : (c : Choice) → Decidable c.StandsAlone
  | .text _ value => inferInstanceAs (Decidable (value.toList.head? ≠ some '-'))
  | .workers _ | .seed _ | .flag _ => .isTrue trivial

/-- The number that is chosen has no more digits than may be read. -/
def Readable : Choice → Prop
  | .workers n | .seed n => n.natAbs.repr.length ≤ maxNumeralDigits
  | _ => True

instance : (c : Choice) → Decidable c.Readable
  | .workers n | .seed n => inferInstanceAs (Decidable (n.natAbs.repr.length ≤ maxNumeralDigits))
  | .text _ _ | .flag _ => .isTrue trivial

/-- The words that a choice can be written with. -/
inductive Writes : Choice → List String → Prop
  | joined {c : Choice} {name value : String} :
      c.value? = some value → c.key.IsName name → Writes c [name ++ "=" ++ value]
  | apart {c : Choice} {name value : String} :
      c.value? = some value → c.key.IsName name → c.StandsAlone → Writes c [name, value]
  | flag {o : FlagOption} {name : String} : o.key.IsName name → Writes (.flag o) [name]
  | letter : Writes (.flag .verbose) ["-v"]

/-- The command line writes the choices one after the other. -/
def WritesAll (cs : List Choice) (argv : List String) : Prop :=
  ∃ groups, List.Forall₂ Writes cs groups ∧ argv = groups.flatten

/-! ## What choices amount to -/

/-- What a text is given as: the separator leaves the option without a value. -/
def givenText {α : Type} (read : String → α) (value : String) : Given α :=
  if value = "--" then .emptied else .value (read value)

/-- The arguments with a choice made. -/
def apply (a : Arguments) : Choice → Arguments
  | .workers n => { a with workers := .value n }
  | .seed n => { a with seed := some (.value n) }
  | .text .compiler value => { a with compiler := givenText id value }
  | .text .baseline value => { a with baseline := givenText id value }
  | .text .candidate value => { a with candidate := givenText id value }
  | .text .scratchDir value => { a with scratchDir := some (givenText Path.ofText value) }
  | .text .logFile value => { a with logFile := some (givenText Path.ofText value) }
  | .text .healthLog value => { a with healthLog := some (givenText Path.ofText value) }
  | .flag .parallelVariants => { a with parallel := true }
  | .flag .haltOnCandidate => { a with haltOnCandidate := true }
  | .flag .verbose => { a with verbose := true }

/-! ## The last value of each option -/

/-- The last of the values that some choices have. -/
def last? {α : Type} (pick : Choice → Option α) (cs : List Choice) : Option α :=
  (cs.filterMap pick).getLast?

/-- The count of workers that a choice is for. -/
def workers? : Choice → Option Int
  | .workers n => some n
  | _ => none

/-- The seed that a choice is for. -/
def seed? : Choice → Option Int
  | .seed n => some n
  | _ => none

/-- The text that a choice gives to an option. -/
def text? (o : TextOption) : Choice → Option String
  | .text o' value => if o' = o then some value else none
  | _ => none

/-- The count of workers that is chosen, ten if there is no choice. -/
def workersOf (cs : List Choice) : Int :=
  (last? workers? cs).getD 10

/-- The arguments in which each option has the last value that is chosen for it. -/
def arguments (cs : List Choice) : Arguments where
  workers := .value (workersOf cs)
  seed := (last? seed? cs).map .value
  compiler := (last? (text? .compiler) cs).elim (.value "rustc") (givenText id)
  baseline := (last? (text? .baseline) cs).elim (.value "+nightly") (givenText id)
  candidate := (last? (text? .candidate) cs).elim (.value "+stage1") (givenText id)
  scratchDir := (last? (text? .scratchDir) cs).map (givenText Path.ofText)
  parallel := decide (.flag .parallelVariants ∈ cs)
  haltOnCandidate := decide (.flag .haltOnCandidate ∈ cs)
  logFile := (last? (text? .logFile) cs).map (givenText Path.ofText)
  healthLog := (last? (text? .healthLog) cs).map (givenText Path.ofText)
  verbose := decide (.flag .verbose ∈ cs)

theorem last?_concat {α : Type} (pick : Choice → Option α) (cs : List Choice) (c : Choice) :
    last? pick (cs ++ [c]) = (pick c).or (last? pick cs) := by
  rw [last?, List.filterMap_append, List.getLast?_append]
  cases shape : pick c <;> simp [shape, last?]

/-- One more choice counts for its own option and for no other. -/
theorem apply_arguments (cs : List Choice) (c : Choice) :
    apply (arguments cs) c = arguments (cs ++ [c]) := by
  cases c with
  | workers n => simp [apply, arguments, workersOf, last?_concat, workers?, seed?, text?]
  | seed n => simp [apply, arguments, workersOf, last?_concat, workers?, seed?, text?]
  | text o value =>
    cases o <;> simp [apply, arguments, workersOf, last?_concat, workers?, seed?, text?]
  | flag o => cases o <;> simp [apply, arguments, workersOf, last?_concat, workers?, seed?, text?]

/-- Choices made one after the other amount to the last value of each option. -/
theorem foldl_apply (cs : List Choice) : cs.foldl apply {} = arguments cs := by
  induction cs using List.reverseRecOn with
  | nil => rfl
  | append_singleton cs c ih => rw [List.foldl_append, ih, List.foldl_cons, List.foldl_nil,
      apply_arguments]

end Choice

namespace CommandLine

open Choice

variable {c : Choice} {cs : List Choice} {argv group : List String}

theorem given_integer {n : Int} (readable : n.natAbs.repr.length ≤ maxNumeralDigits)
    (key : OptionKey) : given (integer key) (numeral n) = .ok (.value n) := by
  rw [given, if_neg (numeral_ne_separator n), integer, readNumeral?_numeral readable]
  rfl

theorem given_text (value : String) : given text value = .ok (givenText id value) := by
  unfold given givenText
  split <;> rfl

theorem given_path (value : String) : given path value = .ok (givenText Path.ofText value) := by
  unfold given givenText
  split <;> rfl

/-- A value is put into the arguments as the choice says. -/
theorem setValue_choice {value : String} (valued : c.value? = some value) (readable : c.Readable)
    (a : Arguments) : setValue c.key value a = .ok (apply a c) := by
  cases c with
  | workers n =>
    cases valued
    simp only [Choice.key, setValue, given_integer readable]
    rfl
  | seed n =>
    cases valued
    simp only [Choice.key, setValue, given_integer readable]
    rfl
  | text o value =>
    cases valued
    cases o <;>
    · simp only [Choice.key, TextOption.key, setValue, given_text, given_path]
      rfl
  | flag o => cases valued

theorem takesValue_choice {value : String} (valued : c.value? = some value) :
    c.key.takesValue = true := by
  cases c with
  | workers n => rfl
  | seed n => rfl
  | text o value => cases o <;> rfl
  | flag o => cases valued

/-! ## The words of a choice -/

theorem classifyAll_cons {word : String} {kind : WordKind} {words : List String}
    {tail : List (String × WordKind)} (other : word ≠ "--") (sorted : classify word = .ok kind)
    (rest : classifyAll words = .ok tail) :
    classifyAll (word :: words) = .ok ((word, kind) :: tail) := by
  rw [classifyAll, if_neg other, sorted, rest]
  rfl

/-- The value of a choice that can stand alone is sorted as an argument. -/
theorem classify_value {value : String} (valued : c.value? = some value) (alone : c.StandsAlone) :
    classify value = .ok .argument ∧ value ≠ "--" := by
  cases c with
  | workers n =>
    cases valued
    exact ⟨classify_numeral n, numeral_ne_separator n⟩
  | seed n =>
    cases valued
    exact ⟨classify_numeral n, numeral_ne_separator n⟩
  | text o value =>
    cases valued
    refine ⟨classify_plain alone, ?_⟩
    rintro rfl
    exact alone rfl
  | flag o => cases valued

/-- A flag is set in the arguments as the choice says. -/
theorem readWords_flag (o : FlagOption) (a : Arguments) (word spelling : String)
    (tail : List (String × WordKind)) :
    readWords a [] ([(word, .option o.key spelling none)] ++ tail) =
      readWords (apply a (.flag o)) [] tail := by
  rw [List.singleton_append, readWords.eq_def]
  cases o <;> rfl

/-- How the words of a choice are sorted, whatever follows, and that they are read as the choice. -/
theorem exists_sorted (written : Writes c group) (readable : c.Readable) :
    ∃ sorted : List (String × WordKind),
      (∀ words tail, classifyAll words = .ok tail →
        classifyAll (group ++ words) = .ok (sorted ++ tail)) ∧
      ∀ a tail, readWords a [] (sorted ++ tail) = readWords (apply a c) [] tail := by
  cases written with
  | @joined _ name value valued named =>
    obtain ⟨spelling, sorted⟩ := classify_joined named value
    have other : name ++ "=" ++ value ≠ "--" := by
      intro same
      have equals : '=' ∈ (name ++ "=" ++ value).toList := by simp
      rw [same] at equals
      exact absurd equals (by decide)
    refine ⟨[(_, _)], fun words tail rest => classifyAll_cons other sorted rest, fun a tail => ?_⟩
    rw [List.singleton_append, readWords, if_pos (takesValue_choice valued),
      setValue_choice valued readable]
  | @apart _ name value valued named alone =>
    obtain ⟨spelling, sorted⟩ := classify_name named
    obtain ⟨plain, other⟩ := classify_value valued alone
    refine ⟨[(_, _), (_, _)], fun words tail rest => classifyAll_cons
      (OptionKey.name_ne_separator named) sorted (classifyAll_cons other plain rest),
      fun a tail => ?_⟩
    rw [List.cons_append, List.singleton_append, readWords, if_pos (takesValue_choice valued),
      setValue_choice valued readable]
  | @flag o name named =>
    obtain ⟨spelling, sorted⟩ := classify_name named
    refine ⟨[(_, _)], fun words tail rest =>
      classifyAll_cons (OptionKey.name_ne_separator named) sorted rest, fun a tail => ?_⟩
    exact readWords_flag o a name spelling tail
  | letter =>
    have sorted : classify "-v" = .ok (.option .verbose "-v" none) := rfl
    exact ⟨[(_, _)], fun words tail rest => classifyAll_cons (by decide) sorted rest,
      fun a tail => readWords_flag .verbose a "-v" "-v" tail⟩

/-- A command line that writes choices is read as the last value of each option. -/
theorem parse_of_writes (written : WritesAll cs argv) (readable : ∀ c ∈ cs, c.Readable) :
    parse argv = .ok (.run (arguments cs)) := by
  obtain ⟨groups, each, rfl⟩ := written
  suffices read : ∃ sorted, classifyAll groups.flatten = .ok sorted ∧
      ∀ a, readWords a [] sorted = .ok (.run (cs.foldl apply a)) by
    obtain ⟨sorted, classified, read⟩ := read
    rw [parse, classified, ← foldl_apply]
    exact read {}
  induction each with
  | nil => exact ⟨[], rfl, fun a => rfl⟩
  | @cons c group cs groups first others ih =>
    obtain ⟨own, later⟩ := List.forall_mem_cons.mp readable
    obtain ⟨tail, rest, last⟩ := ih later
    obtain ⟨sorted, classified, step⟩ := exists_sorted first own
    exact ⟨sorted ++ tail, classified _ _ rest, fun a => (step a tail).trans (last (apply a c))⟩

end CommandLine

end CrashDiff
