import CrashDiff.Generation.Ratio
import Mathlib.Data.List.TakeWhile

/-!
# How a ratio is spelled

The texts that the reader of ratios takes apart, given as a grammar that does not mention the
reader. A spelling is a fraction `a/b` or a decimal number with an optional exponent, with blanks
around it and at most one sign in front. The digits of every part may be those of any script, and
single underscores may stand between two of them.

Results:
1. `spanRun_spec`, `spanRun_of_run`: the longest run of digits.
2. `spelling?_eq_some_iff`: the reader takes exactly the spellings of the grammar apart, and finds
   the parts that the grammar gives them.
-/

namespace CrashDiff.Ratio

open Text

variable {c : Char} {cs ds rest : List Char} {negative : Bool}

/-! ## The grammar -/

/-- `Run cs ds`: the text consists of the digits `ds`, and of underscores between them. -/
inductive Run : List Char → List Char → Prop
  | last {c : Char} : isDigit c = true → Run [c] [c]
  | next {c : Char} {cs ds : List Char} : isDigit c = true → Run cs ds → Run (c :: cs) (c :: ds)
  | bar {c : Char} {cs ds : List Char} : isDigit c = true → Run cs ds →
      Run (c :: '_' :: cs) (c :: ds)

/-- A run of digits, or nothing. -/
inductive OptionalRun : List Char → List Char → Prop
  | none : OptionalRun [] []
  | some {cs ds : List Char} : Run cs ds → OptionalRun cs ds

/-- A sign, or nothing; `true` stands for minus. -/
inductive Sign : List Char → Bool → Prop
  | none : Sign [] false
  | plus : Sign ['+'] false
  | minus : Sign ['-'] true

/-- A point with the decimals behind it, which may be missing, or nothing. -/
inductive Decimals : List Char → List Char → Prop
  | none : Decimals [] []
  | point {cs ds : List Char} : OptionalRun cs ds → Decimals ('.' :: cs) ds

/-- An exponent with its mark, or nothing. -/
inductive Exponent : List Char → Bool → List Char → Prop
  | none : Exponent [] false []
  | power {mark : Char} {sign cs ds : List Char} {negative : Bool} : mark = 'e' ∨ mark = 'E' →
      Sign sign negative → Run cs ds → Exponent (mark :: (sign ++ cs)) negative ds

/-- Blanks only. -/
def Blanks (cs : List Char) : Prop :=
  ∀ c ∈ cs, isBlank c = true

/-- `Spelled cs s`: the text is a spelling with the parts `s`.

* `fraction`: a numerator and a denominator.
* `decimal`: a number with a whole part or decimals, or both. -/
inductive Spelled : List Char → Spelling → Prop
  | fraction {front sign as bs back whole denominator : List Char} {negative : Bool} :
      Blanks front → Sign sign negative → Run as whole → Run bs denominator → Blanks back →
      Spelled (front ++ (sign ++ (as ++ '/' :: (bs ++ back))))
        ⟨negative, whole, denominator, [], false, []⟩
  | decimal {front sign as bs es back whole decimals power : List Char}
      {negative powerNegative : Bool} :
      Blanks front → Sign sign negative → OptionalRun as whole → Decimals bs decimals →
      whole ≠ [] ∨ decimals ≠ [] → Exponent es powerNegative power → Blanks back →
      Spelled (front ++ (sign ++ (as ++ (bs ++ (es ++ back)))))
        ⟨negative, whole, [], decimals, powerNegative, power⟩

/-! ## Characters told apart -/

/-- No digit of any script is a blank. -/
theorem isDigit_of_isBlank (blank : isBlank c = true) : isDigit c = false := by
  -- The blanks stand in five gaps between the runs of digits.
  have gaps : ∀ z ∈ zeroDigits, 48 ≤ z ∧ (z + 10 ≤ 0x85 ∨ 0xA0 < z) ∧
      (z + 10 ≤ 0x1680 ∨ 0x1680 < z) ∧ (z + 10 ≤ 0x2000 ∨ 0x205F < z) ∧
      (z + 10 ≤ 0x3000 ∨ 0x3000 < z) := by
    decide
  have outside : zeroDigits.find? (fun z => z ≤ c.toNat && c.toNat < z + 10) = none := by
    refine List.find?_eq_none.mpr fun z member => ?_
    have gap := gaps z member
    simp only [isBlank, Bool.or_eq_true, Bool.and_eq_true, decide_eq_true_eq,
      beq_iff_eq] at blank ⊢
    omega
  rw [isDigit, digitValue?, outside]
  rfl

/-- The text does not go on with a digit or an underscore. -/
def Breaks (cs : List Char) : Prop :=
  ∀ c ∈ cs.head?, isDigit c = false ∧ c ≠ '_'

theorem breaks_cons (digit : isDigit c = false) (bar : c ≠ '_') : Breaks (c :: cs) := by
  intro d first
  cases first
  exact ⟨digit, bar⟩

theorem breaks_of_blanks (blanks : Blanks cs) : Breaks cs := by
  intro c first
  have blank := blanks c (List.mem_of_mem_head? first)
  refine ⟨isDigit_of_isBlank blank, ?_⟩
  rintro rfl
  exact absurd blank (by decide)

theorem Exponent.breaks {es back power : List Char} (exponent : Exponent es negative power)
    (blanks : Blanks back) : Breaks (es ++ back) := by
  cases exponent with
  | none => exact breaks_of_blanks blanks
  | power mark _ _ =>
    rcases mark with rfl | rfl
    · exact breaks_cons (by decide) (by decide)
    · exact breaks_cons (by decide) (by decide)

theorem Decimals.breaks {bs decimals : List Char} (spelled : Decimals bs decimals)
    (breaks : Breaks rest) : Breaks (bs ++ rest) := by
  cases spelled with
  | none => exact breaks
  | point _ => exact breaks_cons (by decide) (by decide)

/-! ## Runs -/

theorem Run.starts (run : Run cs ds) : ∃ c cs', cs = c :: cs' ∧ isDigit c = true := by
  cases run with
  | last digit => exact ⟨_, _, rfl, digit⟩
  | next digit _ => exact ⟨_, _, rfl, digit⟩
  | bar digit _ => exact ⟨_, _, rfl, digit⟩

theorem Run.digits_ne_nil (run : Run cs ds) : ds ≠ [] := by
  cases run <;> exact List.cons_ne_nil _ _

/-- Digits without underscores are a run. -/
theorem run_of_digits (some : ds ≠ []) (digits : ∀ c ∈ ds, isDigit c = true) : Run ds ds := by
  induction ds with
  | nil => exact absurd rfl some
  | cons c ds ih =>
    obtain ⟨digit, others⟩ := List.forall_mem_cons.mp digits
    by_cases alone : ds = []
    · rw [alone]
      exact .last digit
    · exact .next digit (ih alone others)

/-- What the reader of runs leaves stands behind a run of the digits that it found. -/
theorem spanRun_spec (cs : List Char) :
    ∃ front, cs = front ++ (spanRun cs).2 ∧ OptionalRun front (spanRun cs).1 := by
  fun_induction spanRun cs with
  | case1 => exact ⟨[], rfl, .none⟩
  | case2 c digit => exact ⟨[c], rfl, .some (.last digit)⟩
  | case3 c other => exact ⟨[], rfl, .none⟩
  | case4 c cs digit rest found ih => exact ⟨[c], rfl, .some (.last digit)⟩
  | case5 c cs digit ds rest some found ih =>
    obtain ⟨front, split, optional⟩ := ih
    rw [found] at split optional
    cases optional with
    | none => exact absurd rfl some
    | some run => exact ⟨c :: '_' :: front, congrArg (c :: '_' :: ·) split, .some (.bar digit run)⟩
  | case6 c d cs digit other ds rest found ih =>
    obtain ⟨front, split, optional⟩ := ih
    rw [found] at split optional
    cases optional with
    | none => exact ⟨[c], congrArg (c :: ·) split, .some (.last digit)⟩
    | some run => exact ⟨c :: front, congrArg (c :: ·) split, .some (.next digit run)⟩
  | case7 c d cs other => exact ⟨[], rfl, .none⟩

theorem spanRun_of_breaks (breaks : Breaks rest) : spanRun rest = ([], rest) := by
  match rest with
  | [] => rfl
  | [c] =>
    rw [spanRun, if_neg (by simp [(breaks c rfl).1])]
  | c :: d :: rest =>
    rw [spanRun, if_neg (by simp [(breaks c rfl).1])]

theorem spanRun_next (digit : isDigit c = true) (more : cs.head? ≠ some '_') :
    spanRun (c :: cs) = (c :: (spanRun cs).1, (spanRun cs).2) := by
  cases cs with
  | nil => exact if_pos digit
  | cons d cs =>
    have other : d ≠ '_' := fun same => more (congrArg some same)
    rw [spanRun, if_pos digit, if_neg other]

/-- In front of something else, the longest run is the whole run. -/
theorem spanRun_of_run (run : Run cs ds) (breaks : Breaks rest) :
    spanRun (cs ++ rest) = (ds, rest) := by
  induction run with
  | last digit =>
    rw [List.singleton_append,
      spanRun_next digit fun bar => (breaks '_' bar).2 rfl, spanRun_of_breaks breaks]
  | next digit run ih =>
    obtain ⟨d, cs, rfl, second⟩ := run.starts
    have more : (d :: cs ++ rest).head? ≠ some '_' := by
      intro bar
      cases bar
      exact absurd second (by decide)
    rw [List.cons_append, spanRun_next digit more, ih]
  | @bar c cs ds digit run ih =>
    rw [List.cons_append, List.cons_append, spanRun, if_pos digit, if_pos rfl, ih]
    cases ds with
    | nil => exact absurd rfl run.digits_ne_nil
    | cons d ds => rfl

theorem spanRun_of_optionalRun (optional : OptionalRun cs ds) (breaks : Breaks rest) :
    spanRun (cs ++ rest) = (ds, rest) := by
  cases optional with
  | none => exact spanRun_of_breaks breaks
  | some run => exact spanRun_of_run run breaks

theorem spanRun_ne_nil (digit : isDigit c = true) (cs : List Char) :
    (spanRun (c :: cs)).1 ≠ [] := by
  by_cases bar : cs.head? = some '_'
  · obtain ⟨cs, rfl⟩ : ∃ cs', cs = '_' :: cs' := List.head?_eq_some_iff.mp bar
    rw [spanRun, if_pos digit, if_pos rfl]
    split <;> exact List.cons_ne_nil _ _
  · rw [spanRun_next digit bar]
    exact List.cons_ne_nil _ _

/-! ## The parts behind the whole part -/

theorem splitSign_spec (cs : List Char) :
    ∃ sign, cs = sign ++ (splitSign cs).2 ∧ Sign sign (splitSign cs).1 := by
  unfold splitSign
  split
  · exact ⟨['-'], rfl, .minus⟩
  · exact ⟨['+'], rfl, .plus⟩
  · exact ⟨[], rfl, .none⟩

theorem spanPower_spec (cs : List Char) :
    ∃ es, cs = es ++ (spanPower cs).2.2 ∧ Exponent es (spanPower cs).1 (spanPower cs).2.1 := by
  unfold spanPower
  split
  · rename_i mark cs
    split
    · rename_i marked
      rw [Bool.or_eq_true, decide_eq_true_iff, decide_eq_true_iff] at marked
      obtain ⟨sign, front, signed⟩ := splitSign_spec cs
      obtain ⟨run, back, optional⟩ := spanRun_spec (splitSign cs).2
      dsimp only
      split
      · exact ⟨[], rfl, .none⟩
      · rename_i digits rest some found
        rw [found] at back optional
        cases optional with
        | none => exact absurd rfl some
        | some run =>
          refine ⟨mark :: (sign ++ _), ?_, .power marked signed run⟩
          rw [List.cons_append, List.append_assoc, ← back, ← front]
    · exact ⟨[], rfl, .none⟩
  · exact ⟨[], rfl, .none⟩

theorem spanDecimal_spec (cs : List Char) :
    ∃ bs es, cs = bs ++ (es ++ (spanDecimal cs).2.2.2) ∧ Decimals bs (spanDecimal cs).1 ∧
      Exponent es (spanDecimal cs).2.1 (spanDecimal cs).2.2.1 := by
  unfold spanDecimal
  split
  · rename_i rest
    obtain ⟨bs, split, optional⟩ := spanRun_spec rest
    obtain ⟨es, back, exponent⟩ := spanPower_spec (spanRun rest).2
    refine ⟨'.' :: bs, es, ?_, .point optional, exponent⟩
    rw [List.cons_append]
    dsimp only
    rw [← back, ← split]
  · obtain ⟨es, back, exponent⟩ := spanPower_spec cs
    exact ⟨[], es, back, .none, exponent⟩

/-- A denominator stands behind a stroke. -/
theorem run_of_spanDenominator (found : spanDenominator cs = (ds, rest)) (some : ds ≠ []) :
    ∃ bs, cs = '/' :: (bs ++ rest) ∧ Run bs ds := by
  unfold spanDenominator at found
  split at found
  · rename_i cs
    obtain ⟨bs, back, optional⟩ := spanRun_spec cs
    split at found
    · cases found
      exact absurd rfl some
    · rename_i run
      cases found
      rw [run] at back optional
      cases optional with
      | none => exact absurd rfl some
      | some run => exact ⟨bs, congrArg _ back, run⟩
  · cases found
    exact absurd rfl some

theorem splitSign_of_sign {sign : List Char} (signed : Sign sign negative)
    (plain : ∀ c ∈ cs.head?, c ≠ '-' ∧ c ≠ '+') : splitSign (sign ++ cs) = (negative, cs) := by
  cases signed with
  | none =>
    rw [List.nil_append]
    unfold splitSign
    split
    · exact absurd rfl (plain '-' rfl).1
    · exact absurd rfl (plain '+' rfl).2
    · rfl
  | plus => rfl
  | minus => rfl

theorem Run.plain (run : Run cs ds) : ∀ c ∈ (cs ++ rest).head?, c ≠ '-' ∧ c ≠ '+' := by
  obtain ⟨c, cs, rfl, digit⟩ := run.starts
  intro d first
  cases first
  constructor <;> rintro rfl <;> exact absurd digit (by decide)

theorem spanPower_of_exponent {es back power : List Char} (exponent : Exponent es negative power)
    (blanks : Blanks back) : spanPower (es ++ back) = (negative, power, back) := by
  cases exponent with
  | none =>
    unfold spanPower
    split
    · rename_i c cs shape
      have blank := blanks c (by rw [← List.nil_append back, shape]; exact List.mem_cons_self)
      rw [if_neg ?_, ← shape, List.nil_append]
      rintro marked
      rw [Bool.or_eq_true, decide_eq_true_iff, decide_eq_true_iff] at marked
      rcases marked with rfl | rfl <;> exact absurd blank (by decide)
    · rename_i shape
      rw [← shape, List.nil_append]
  | @power mark sign cs _ _ marked signed run =>
    have split : splitSign (sign ++ (cs ++ back)) = (negative, cs ++ back) :=
      splitSign_of_sign signed run.plain
    have found := spanRun_of_run run (breaks_of_blanks blanks)
    have either : (mark = 'e' || mark = 'E') = true := by
      rw [Bool.or_eq_true, decide_eq_true_iff, decide_eq_true_iff]
      exact marked
    rw [List.cons_append, List.append_assoc, spanPower, if_pos either, split]
    dsimp only
    rw [found]
    cases power with
    | nil => exact absurd rfl run.digits_ne_nil
    | cons d ds => rfl

theorem Exponent.head_ne {es back power : List Char} (exponent : Exponent es negative power)
    (blanks : Blanks back) : ∀ c ∈ (es ++ back).head?, c ≠ '.' ∧ c ≠ '/' := by
  intro c first
  cases exponent with
  | none =>
    have blank := blanks c (List.mem_of_mem_head? first)
    constructor <;> rintro rfl <;> exact absurd blank (by decide)
  | power mark _ _ =>
    cases first
    rcases mark with rfl | rfl <;> decide

theorem spanDecimal_of_decimals {bs es back decimals power : List Char}
    (spelled : Decimals bs decimals) (exponent : Exponent es negative power)
    (blanks : Blanks back) :
    spanDecimal (bs ++ (es ++ back)) = (decimals, negative, power, back) := by
  cases spelled with
  | none =>
    rw [List.nil_append]
    unfold spanDecimal
    split
    · rename_i shape
      exact absurd rfl (exponent.head_ne blanks '.' (by rw [shape]; rfl)).1
    · rw [spanPower_of_exponent exponent blanks]
  | point optional =>
    rw [List.cons_append, spanDecimal, spanRun_of_optionalRun optional (exponent.breaks blanks)]
    dsimp only
    rw [spanPower_of_exponent exponent blanks]

/-! ## The whole spelling -/

/-- A number that may start has a whole part or decimals. -/
theorem whole_or_decimals (starts : startsNumber cs = true) :
    (spanRun cs).1 ≠ [] ∨ (spanDecimal (spanRun cs).2).1 ≠ [] := by
  unfold startsNumber at starts
  split at starts
  · rename_i c cs
    have none : spanRun ('.' :: c :: cs) = ([], '.' :: c :: cs) :=
      spanRun_of_breaks (breaks_cons (by decide) (by decide))
    rw [none]
    exact .inr (spanRun_ne_nil starts cs)
  · exact .inl (spanRun_ne_nil starts _)
  · cases starts

/-- What is read is spelled. -/
theorem spelled_of_spelling? {s : Spelling} (read : spelling? cs = some s) : Spelled cs s := by
  obtain ⟨front, blanks, split⟩ : ∃ front, Blanks front ∧ cs = front ++ cs.dropWhile isBlank :=
    ⟨cs.takeWhile isBlank, fun c member => List.mem_takeWhile_imp member,
      List.takeWhile_append_dropWhile.symm⟩
  obtain ⟨sign, inner, signed⟩ := splitSign_spec (cs.dropWhile isBlank)
  unfold spelling? at read
  rw [split, inner]
  -- From here on only the parts matter that the readers find, not the text that they read.
  generalize splitSign (cs.dropWhile isBlank) = number at *
  obtain ⟨as, rest, optional⟩ := spanRun_spec number.2
  dsimp only at read
  split at read
  · rename_i starts
    have some := whole_or_decimals starts
    rw [rest] at starts ⊢
    generalize spanRun number.2 = run at *
    obtain ⟨whole, behind⟩ := run
    split at read
    · obtain ⟨bs, es, back, decimals, exponent⟩ := spanDecimal_spec behind
      rw [back]
      split at read
      · rename_i ends
        cases read
        exact .decimal blanks signed optional decimals some exponent (List.all_eq_true.mp ends)
      · cases read
    · rename_i nonempty found
      split at read
      · rename_i ends
        cases read
        obtain ⟨bs, back, bottom⟩ := run_of_spanDenominator found nonempty
        dsimp only at back starts ⊢
        rw [back] at starts ⊢
        cases optional with
        | none => exact absurd starts (by simp [startsNumber, show isDigit '/' = false by decide])
        | some top => exact .fraction blanks signed top bottom (List.all_eq_true.mp ends)
      · cases read
  · cases read

/-- In front of a number, the blanks and the sign are taken away. -/
theorem splitSign_dropWhile {front sign : List Char} (blanks : Blanks front)
    (signed : Sign sign negative) (starts : startsNumber cs = true) :
    splitSign ((front ++ (sign ++ cs)).dropWhile isBlank) = (negative, cs) := by
  obtain ⟨c, cs, rfl, known⟩ : ∃ c cs', cs = c :: cs' ∧ (c = '.' ∨ isDigit c = true) := by
    unfold startsNumber at starts
    split at starts
    · exact ⟨_, _, rfl, .inl rfl⟩
    · exact ⟨_, _, rfl, .inr starts⟩
    · cases starts
  have other : isBlank c = false ∧ c ≠ '-' ∧ c ≠ '+' := by
    rcases known with rfl | digit
    · decide
    · refine ⟨?_, ?_, ?_⟩
      · by_contra blank
        rw [isDigit_of_isBlank (by simpa using blank)] at digit
        cases digit
      · rintro rfl
        exact absurd digit (by decide)
      · rintro rfl
        exact absurd digit (by decide)
  have kept : (sign ++ c :: cs).dropWhile isBlank = sign ++ c :: cs := by
    cases signed with
    | none => exact List.dropWhile_cons_of_neg (by simp [other.1])
    | plus => exact List.dropWhile_cons_of_neg (by decide)
    | minus => exact List.dropWhile_cons_of_neg (by decide)
  rw [List.dropWhile_append_of_pos blanks, kept]
  refine splitSign_of_sign signed fun d first => ?_
  cases first
  exact other.2

theorem startsNumber_digit (digit : isDigit c = true) (cs : List Char) :
    startsNumber (c :: cs) = true := by
  unfold startsNumber
  split
  · rename_i shape
    cases shape
    exact absurd digit (by decide)
  · rename_i shape
    cases shape
    exact digit
  · rename_i shape
    cases shape

theorem Run.startsNumber (run : Run cs ds) : startsNumber (cs ++ rest) = true := by
  obtain ⟨c, cs, rfl, digit⟩ := run.starts
  exact startsNumber_digit digit (cs ++ rest)

/-- A decimal number with a whole part or decimals may start. -/
theorem startsNumber_decimal {as bs whole decimals : List Char} (optional : OptionalRun as whole)
    (spelled : Decimals bs decimals) (some : whole ≠ [] ∨ decimals ≠ []) :
    startsNumber (as ++ (bs ++ rest)) = true := by
  cases optional with
  | some run => exact run.startsNumber
  | none =>
    have present : decimals ≠ [] := some.resolve_left (absurd rfl)
    cases spelled with
    | none => exact absurd rfl present
    | point optional =>
      cases optional with
      | none => exact absurd rfl present
      | some run =>
        obtain ⟨c, cs, rfl, digit⟩ := run.starts
        exact digit

theorem spanDenominator_plain (plain : ∀ c ∈ cs.head?, c ≠ '/') :
    spanDenominator cs = ([], cs) := by
  unfold spanDenominator
  split
  · exact absurd rfl (plain '/' rfl)
  · rfl

theorem spanDenominator_of_run {bs back : List Char} (run : Run bs ds) (blanks : Blanks back) :
    spanDenominator ('/' :: (bs ++ back)) = (ds, back) := by
  rw [spanDenominator, spanRun_of_run run (breaks_of_blanks blanks)]
  cases ds with
  | nil => exact absurd rfl run.digits_ne_nil
  | cons d ds => rfl

theorem Decimals.head_ne {bs es back decimals power : List Char} (spelled : Decimals bs decimals)
    (exponent : Exponent es negative power) (blanks : Blanks back) :
    ∀ c ∈ (bs ++ (es ++ back)).head?, c ≠ '/' := by
  intro c first
  cases spelled with
  | none => exact (exponent.head_ne blanks c first).2
  | point _ =>
    cases first
    decide

/-- What is spelled is read. -/
theorem spelling?_of_spelled {s : Spelling} (spelled : Spelled cs s) : spelling? cs = some s := by
  cases spelled with
  | @fraction front sign as bs back whole denominator negative blanks signed top bottom ends =>
    have stroke : Breaks ('/' :: (bs ++ back)) := breaks_cons (by decide) (by decide)
    unfold spelling?
    rw [splitSign_dropWhile blanks signed top.startsNumber]
    dsimp only
    rw [if_pos top.startsNumber, spanRun_of_run top stroke]
    dsimp only
    rw [spanDenominator_of_run bottom ends]
    cases denominator with
    | nil => exact absurd rfl bottom.digits_ne_nil
    | cons d ds => exact if_pos (List.all_eq_true.mpr ends)
  | @decimal front sign as bs es back _ _ _ _ _ blanks signed optional spelled some exponent ends =>
    have starts : startsNumber (as ++ (bs ++ (es ++ back))) = true :=
      startsNumber_decimal optional spelled some
    unfold spelling?
    rw [splitSign_dropWhile blanks signed starts]
    dsimp only
    rw [if_pos starts,
      spanRun_of_optionalRun optional (spelled.breaks (exponent.breaks ends))]
    dsimp only
    rw [spanDenominator_plain (spelled.head_ne exponent ends)]
    dsimp only
    rw [spanDecimal_of_decimals spelled exponent ends]
    exact if_pos (List.all_eq_true.mpr ends)

/-- The reader takes exactly the spellings apart, into the parts that they have. -/
theorem spelling?_eq_some_iff {s : Spelling} : spelling? cs = some s ↔ Spelled cs s :=
  ⟨spelled_of_spelling?, spelling?_of_spelled⟩

end CrashDiff.Ratio
