import CrashDiff.Options.Parser
import CrashDiff.Proofs.Text.Reading
import Mathlib.Data.List.TakeWhile

/-!
# Names and values on the command line

How the words are sorted that name an option or give it a value. An option is named by its long
spelling or by a start of it that no other option has. Behind a name and `=`, anything is a value.
As a word of its own, a value is told from an option by its first character: it does not start with
a minus, or is a negative number.

Results:
1. `spellings_filter`: what a name may abbreviate.
2. `classify_name`, `classify_joined`: how names are sorted, alone and with a value.
3. `classify_plain`, `classify_numeral`: how values are sorted.
-/

namespace CrashDiff

open Text

namespace OptionKey

/-- The long spelling of an option. -/
def long : OptionKey → String
  | .help => "--help"
  | .workers => "--workers"
  | .seed => "--seed"
  | .compiler => "--compiler"
  | .baseline => "--baseline"
  | .candidate => "--candidate"
  | .scratchDir => "--scratch-dir"
  | .parallelVariants => "--parallel-variants"
  | .haltOnCandidate => "--halt-on-candidate-crash"
  | .logFile => "--log-file"
  | .healthLog => "--health-log"
  | .verbose => "--verbose"

/-- A text names an option: it is the long spelling or a start of it, and no other option has a
spelling that starts with it. -/
structure IsName (key : OptionKey) (name : String) : Prop where
  dashes : "--".toList <+: name.toList
  start : name.toList <+: key.long.toList
  only : ∀ s ∈ spellings, name.toList <+: s.1.toList → s.2 = key

variable {key : OptionKey} {name : String}

theorem isName_iff : key.IsName name ↔ "--".toList <+: name.toList ∧
    name.toList <+: key.long.toList ∧ ∀ s ∈ spellings, name.toList <+: s.1.toList → s.2 = key :=
  ⟨fun ⟨dashes, start, only⟩ => ⟨dashes, start, only⟩,
    fun ⟨dashes, start, only⟩ => ⟨dashes, start, only⟩⟩

instance (key : OptionKey) (name : String) : Decidable (key.IsName name) :=
  decidable_of_iff _ isName_iff.symm

/-- A long spelling names its option. -/
theorem isName_long (key : OptionKey) : key.IsName key.long := by
  cases key <;> decide

/-- Every spelling with two minus signs is the long one of its option. -/
theorem eq_long_of_dashes : ∀ s ∈ spellings, "--".toList <+: s.1.toList → s.1 = s.2.long := by
  decide

/-- What a name may stand for is its option alone. -/
theorem spellings_filter (named : key.IsName name) :
    (spellings.filter fun s => name.toList.isPrefixOf s.1.toList) = [(key.long, key)] := by
  have alone : ∀ s ∈ spellings,
      name.toList.isPrefixOf s.1.toList = decide (s = (key.long, key)) := by
    intro s member
    rw [Bool.eq_iff_iff, List.isPrefixOf_iff_prefix, decide_eq_true_iff]
    constructor
    · intro starts
      have own := named.only s member starts
      have long := eq_long_of_dashes s member (named.dashes.trans starts)
      rw [own] at long
      exact Prod.ext long own
    · rintro rfl
      exact named.start
  rw [List.filter_congr alone]
  cases key <;> decide

/-- A name that is a spelling is the one of its option. -/
theorem eq_of_ofSpelling? (named : key.IsName name) {other : OptionKey}
    (found : ofSpelling? name = some other) : other = key := by
  obtain ⟨s, first, rfl⟩ := Option.map_eq_some_iff.mp found
  have same : s.1 = name := by simpa using List.find?_some first
  exact named.only s (List.mem_of_find?_eq_some first) (same ▸ List.prefix_rfl)

/-- A text with a character that no spelling has is no spelling. -/
theorem ofSpelling?_eq_none {word : String}
    (foreign : ∃ c ∈ word.toList, ∀ s ∈ spellings, c ∉ s.1.toList) : ofSpelling? word = none := by
  obtain ⟨c, member, other⟩ := foreign
  refine Option.map_eq_none_iff.mpr (List.find?_eq_none.mpr fun s known => ?_)
  simp only [decide_eq_true_eq]
  rintro rfl
  exact other s known member

/-- A name has no equals sign in it. -/
theorem equals_not_mem_name (named : key.IsName name) : '=' ∉ name.toList := by
  intro member
  have inside := named.start.subset member
  revert inside
  cases key <;> decide

/-- The separator is no name. -/
theorem name_ne_separator (named : key.IsName name) : name ≠ "--" := by
  rintro rfl
  have help := named.only ("--help", .help) (by decide) (by decide)
  have seed := named.only ("--seed", .seed) (by decide) (by decide)
  rw [← help] at seed
  cases seed

end OptionKey

namespace CommandLine

variable {key : OptionKey} {name : String}

/-! ## Names -/

theorem splitValue_of_not_mem {cs : List Char} (plain : '=' ∉ cs) : splitValue cs = (cs, none) := by
  induction cs with
  | nil => rfl
  | cons c cs ih =>
    obtain ⟨other, later⟩ := not_or.mp (mt List.mem_cons.mpr plain)
    rw [splitValue, if_neg (Ne.symm other), ih later]

theorem splitValue_joined {cs : List Char} (plain : '=' ∉ cs) (value : List Char) :
    splitValue (cs ++ '=' :: value) = (cs, some value) := by
  induction cs with
  | nil => rfl
  | cons c cs ih =>
    obtain ⟨other, later⟩ := not_or.mp (mt List.mem_cons.mpr plain)
    rw [List.cons_append, splitValue, if_neg (Ne.symm other), ih later]

/-- The word of a name stands for its option, with whatever value there is behind it. -/
theorem longMatches_of_name (named : key.IsName name) {word : List Char}
    {value : Option (List Char)} (split : splitValue word = (name.toList, value)) :
    longMatches word = [.option key key.long (value.map String.ofList)] := by
  rw [longMatches, split]
  dsimp only
  rw [OptionKey.spellings_filter named]
  rfl

/-- The words of a name start with two minus signs, and something follows. -/
theorem exists_of_name (named : key.IsName name) :
    ∃ c cs, name.toList = '-' :: '-' :: c :: cs := by
  obtain ⟨rest, shape⟩ := named.dashes
  cases rest with
  | nil =>
    have separator : name = "--" := String.toList_inj.mp (by simpa using shape.symm)
    exact absurd separator (OptionKey.name_ne_separator named)
  | cons c cs => exact ⟨c, cs, shape.symm⟩

section
variable {word : String} {rest front : List Char} {value : Option (List Char)}

/-- A word that starts with a minus, and neither is a spelling nor has one in front of `=`, may be
an abbreviation or a number. -/
theorem classify_unspelled (shape : word.toList = '-' :: rest) (more : rest ≠ [])
    (other : OptionKey.ofSpelling? word = none) (split : splitValue word.toList = (front, value))
    (bare : value = none ∨ OptionKey.ofSpelling? (String.ofList front) = none) :
    classify word = classifyOther word.toList := by
  rw [shape] at split ⊢
  rcases bare with rfl | unknown
  · simp [classify, shape, other, more, split]
  · simp [classify, shape, other, more, split, unknown]

/-- A spelling in front of `=` stands for its option. -/
theorem classify_spelled {key : OptionKey} {value : List Char} (shape : word.toList = '-' :: rest)
    (more : rest ≠ []) (other : OptionKey.ofSpelling? word = none)
    (split : splitValue word.toList = (front, some value))
    (known : OptionKey.ofSpelling? (String.ofList front) = some key) :
    classify word = .ok (.option key (String.ofList front) (some (String.ofList value))) := by
  rw [shape] at split
  simp [classify, shape, other, more, split, known]

theorem classifyOther_dashes {kind : WordKind} {cs : List Char}
    (shape : word.toList = '-' :: '-' :: cs) (long : longMatches word.toList = [kind]) :
    classifyOther word.toList = .ok kind := by
  rw [shape] at long ⊢
  simp only [classifyOther, long]

end

/-- A name is sorted as its option without a value. -/
theorem classify_name (named : key.IsName name) :
    ∃ spelling, classify name = .ok (.option key spelling none) := by
  obtain ⟨c, cs, shape⟩ := exists_of_name named
  have split := splitValue_of_not_mem (OptionKey.equals_not_mem_name named)
  have long := longMatches_of_name named split
  cases found : OptionKey.ofSpelling? name with
  | some other =>
    have own := OptionKey.eq_of_ofSpelling? named found
    exact ⟨name, by simp [classify, shape, found, own]⟩
  | none =>
    have sorted := classify_unspelled shape (List.cons_ne_nil _ _) found split (Or.inl rfl)
    exact ⟨key.long, sorted.trans (classifyOther_dashes shape long)⟩

/-- A name and a value are sorted as the option with the value, whatever that is. -/
theorem classify_joined (named : key.IsName name) (value : String) :
    ∃ spelling, classify (name ++ "=" ++ value) = .ok (.option key spelling (some value)) := by
  obtain ⟨c, cs, shape⟩ := exists_of_name named
  have whole : (name ++ "=" ++ value).toList = name.toList ++ '=' :: value.toList := by
    simp
  have split := splitValue_joined (OptionKey.equals_not_mem_name named) value.toList
  have long := longMatches_of_name named split
  have spelled : OptionKey.ofSpelling? (name ++ "=" ++ value) = none :=
    OptionKey.ofSpelling?_eq_none ⟨'=', by simp, by decide⟩
  rw [← whole] at split long
  rw [shape, List.cons_append, List.cons_append] at whole
  cases found : OptionKey.ofSpelling? name with
  | some other =>
    have own := OptionKey.eq_of_ofSpelling? named found
    have sorted := classify_spelled whole (List.cons_ne_nil _ _) spelled split
      (by rw [String.ofList_toList]; exact found)
    rw [String.ofList_toList, String.ofList_toList, own] at sorted
    exact ⟨name, sorted⟩
  | none =>
    have sorted := classify_unspelled whole (List.cons_ne_nil _ _) spelled split
      (Or.inr (by rw [String.ofList_toList]; exact found))
    rw [Option.map_some, String.ofList_toList] at long
    exact ⟨key.long, sorted.trans (classifyOther_dashes whole long)⟩

/-! ## Values -/

/-- A word that does not start with a minus is an argument. -/
theorem classify_plain {word : String} (plain : word.toList.head? ≠ some '-') :
    classify word = .ok .argument := by
  unfold classify
  split
  · rename_i rest shape
    exact absurd (by rw [shape]; rfl) plain
  · rfl

/-- No spelling has a digit in it. -/
theorem digit_not_mem_spelling {c : Char} (digit : c.isDigit = true) :
    ∀ s ∈ OptionKey.spellings, c ∉ s.1.toList := by
  have free : (OptionKey.spellings.all fun s => s.1.toList.all fun d => !d.isDigit) = true := by
    decide
  intro s known member
  have other := List.all_eq_true.mp (List.all_eq_true.mp free s known) c member
  rw [digit] at other
  cases other

/-- A word with a digit is no abbreviation of one letter or more. -/
theorem shortMatches_of_digit {c : Char} (digit : c.isDigit = true) (cs : List Char) :
    shortMatches ('-' :: c :: cs) = [] := by
  refine List.filterMap_eq_nil_iff.mpr fun s known => ?_
  have foreign := digit_not_mem_spelling digit s known
  have flag : s.1.toList ≠ ['-', c] := by
    intro same
    exact foreign (by simp [same])
  have abbreviation : ('-' :: c :: cs).isPrefixOf s.1.toList = false := by
    refine Bool.eq_false_iff.mpr fun starts => foreign ?_
    exact (List.isPrefixOf_iff_prefix.mp starts).subset (by simp)
  simp [flag, abbreviation]

/-- Digits behind a minus are a negative number. -/
theorem isNegativeNumber_digits {cs : List Char} (some : cs ≠ [])
    (digits : ∀ c ∈ cs, isDigit c = true) : isNegativeNumber ('-' :: cs) = true := by
  have unended : ¬ cs.getLast? = .some '\n' := by
    intro last
    exact absurd (digits '\n' (List.mem_of_getLast? last)) (by decide)
  have taken : cs.takeWhile isDigit = cs := List.takeWhile_eq_self_iff.mpr digits
  have dropped : cs.dropWhile isDigit = [] := List.dropWhile_eq_nil_iff.mpr digits
  simp [isNegativeNumber, unended, taken, dropped, some]

/-- A negative number in digits is an argument, for no option has a digit in its spelling. -/
theorem classifyOther_digits {c : Char} {cs : List Char}
    (digits : ∀ d ∈ c :: cs, d.isDigit = true) :
    classifyOther ('-' :: c :: cs) = .ok .argument := by
  have digit : c.isDigit = true := digits c List.mem_cons_self
  have negative := isNegativeNumber_digits (List.cons_ne_nil c cs)
    fun d member => isDigit_ascii (digits d member)
  have other : c ≠ '-' := by
    rintro rfl
    exact absurd digit (by decide)
  simp [classifyOther, other, shortMatches_of_digit digit, negative]

/-- A number is not the separator. -/
theorem numeral_ne_separator (n : Int) : numeral n ≠ "--" := by
  intro same
  have digit (m : Nat) : '-' ∉ Nat.toDigits 10 m :=
    fun member => absurd (Source.digits_toDigits m '-' member) (by decide)
  have chars : (numeral n).toList = ['-', '-'] := congrArg String.toList same
  cases n with
  | ofNat n =>
    rw [Source.toList_numeral_ofNat] at chars
    exact digit n (by simp [chars])
  | negSucc n =>
    rw [Source.toList_numeral_negSucc] at chars
    exact digit (n + 1) (by simp [(List.cons.inj chars).2])

/-- A number is an argument, a negative one as well. -/
theorem classify_numeral (n : Int) : classify (numeral n) = .ok .argument := by
  cases n with
  | ofNat n =>
    refine classify_plain fun first => ?_
    rw [Source.toList_numeral_ofNat] at first
    exact absurd (Source.digits_toDigits n '-' (List.mem_of_head? first)) (by decide)
  | negSucc n =>
    have digits := Source.digits_toDigits (n + 1)
    have shape := Source.toList_numeral_negSucc n
    obtain ⟨c, cs, some⟩ := List.exists_cons_of_ne_nil (Nat.toDigits_ne_nil (b := 10) (n := n + 1))
    rw [some] at digits shape
    have digit : c.isDigit = true := digits c List.mem_cons_self
    have plain : '=' ∉ (numeral (.negSucc n)).toList := by
      rw [shape]
      refine mt List.mem_cons.mp (not_or.mpr ⟨by decide, fun member => ?_⟩)
      exact absurd (digits '=' member) (by decide)
    have spelled : OptionKey.ofSpelling? (numeral (.negSucc n)) = none :=
      OptionKey.ofSpelling?_eq_none ⟨c, by simp [shape], digit_not_mem_spelling digit⟩
    rw [classify_unspelled shape (List.cons_ne_nil c cs) spelled (splitValue_of_not_mem plain)
      (Or.inl rfl), shape]
    exact classifyOther_digits digits

end CommandLine

end CrashDiff
