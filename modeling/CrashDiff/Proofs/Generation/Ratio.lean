import CrashDiff.Proofs.Generation.Spelling
import CrashDiff.Proofs.Text.Reading
import Mathlib.Algebra.Order.Field.Rat
import Mathlib.Tactic.FieldSimp
import Mathlib.Tactic.Ring

/-!
# What denotes a ratio

A value denotes at most one ratio: a whole number and a truth value themselves, a double precision
number its exact value, and a text what it spells, by the places of its digits. The reader of ratios
finds it. The text that shows a ratio denotes it again, as long as neither part has more digits than
may be read.

Results:
1. `value_eq_ok_iff`: the value of a spelling.
2. `ofJson_eq_ok_iff`: the reader finds what a value denotes, and nothing else.
3. `denotes_toText_iff`: when a shown ratio is read back.
-/

namespace CrashDiff.Ratio

open Text

variable {cs : List Char} {q : Rat} {s : Spelling} {value : Json}

/-! ## What a spelling denotes -/

/-- Every part has few enough digits to be read, and no denominator is zero. -/
structure Spelling.Readable (s : Spelling) : Prop where
  whole : s.whole.length ≤ maxNumeralDigits
  denominator : s.denominator.length ≤ maxNumeralDigits
  decimals : s.decimals.length ≤ maxNumeralDigits
  power : s.power.length ≤ maxNumeralDigits
  nonzero : s.denominator ≠ [] → valueOfDigits s.denominator ≠ 0

/-- The number that is spelled, by the places of its digits. -/
def Spelling.quotient (s : Spelling) : Rat :=
  (if s.negative then -1 else 1) *
    if s.denominator = [] then
      (valueOfDigits s.whole + valueOfDigits s.decimals / 10 ^ s.decimals.length) *
        (10 : Rat) ^
          (if s.powerNegative then -(valueOfDigits s.power : Int) else valueOfDigits s.power)
    else valueOfDigits s.whole / valueOfDigits s.denominator

/-- `Denotes value q`: the value stands for the ratio.

* `int`, `bool`: a whole number, or a truth value as zero or one.
* `double`: the exact value of a double precision number.
* `text`: what a text spells. -/
inductive Denotes : Json → Rat → Prop
  | int (n : Int) : Denotes (.int n) n
  | bool (b : Bool) : Denotes (.bool b) (if b then 1 else 0)
  | double (negative : Bool) (mantissa : Nat) (exponent : Int) :
      Denotes (.double (.finite negative mantissa exponent))
        ((if negative then -1 else 1) * mantissa * 2 ^ exponent)
  | text {text : String} {s : Spelling} : Spelled text.toList s → s.Readable →
      Denotes (.str text) s.quotient

theorem number_of_short {ds : List Char} (short : ds.length ≤ maxNumeralDigits) :
    number ds = .ok (valueOfDigits ds) :=
  if_pos short

theorem number_of_long {ds : List Char} (long : ¬ ds.length ≤ maxNumeralDigits) :
    number ds = .error (.tooManyDigits ds.length) :=
  if_neg long

theorem cast_tenTo (n : Nat) : ((Number.tenTo n : Nat) : Rat) = 10 ^ n := by
  show ((10 ^ n : Nat) : Rat) = 10 ^ n
  push_cast
  rfl

theorem mkRat_signed (negative : Bool) (n d : Nat) :
    mkRat (if negative then -(n : Int) else n) d =
      (if negative then -1 else 1) * ((n : Rat) / d) := by
  rw [Rat.mkRat_eq_div]
  split
  · push_cast
    ring
  · push_cast
    ring

/-- A readable spelling has the value that it denotes. -/
theorem value_of_readable (spelled : Spelled cs s) (readable : s.Readable) :
    s.value = .ok s.quotient := by
  unfold Spelling.value Spelling.quotient
  cases spelled with
  | fraction _ _ top bottom _ =>
    have empty : List.isEmpty _ = false := List.isEmpty_eq_false_iff.mpr bottom.digits_ne_nil
    have nonzero := readable.nonzero bottom.digits_ne_nil
    rw [number_of_short readable.whole, number_of_short readable.denominator]
    dsimp only [bind, Except.bind] at nonzero ⊢
    rw [if_neg (by rw [empty]; exact Bool.false_ne_true), if_neg nonzero,
      if_neg bottom.digits_ne_nil, ← mkRat_signed]
    rfl
  | @decimal _ _ _ _ _ _ whole decimals power negative powerNegative _ _ _ _ _ _ _ =>
    rw [number_of_short readable.whole, number_of_short readable.decimals,
      number_of_short readable.power]
    dsimp only [bind, Except.bind]
    rw [if_pos List.isEmpty_nil, if_pos rfl]
    have scale : (10 : Rat) ^ decimals.length ≠ 0 := pow_ne_zero _ (by decide)
    cases powerNegative with
    | true =>
      rw [if_pos rfl, if_pos rfl, mkRat_signed]
      refine congrArg Except.ok ?_
      push_cast
      rw [cast_tenTo, cast_tenTo, zpow_neg, zpow_natCast]
      field_simp
    | false =>
      rw [if_neg Bool.false_ne_true, if_neg Bool.false_ne_true, mkRat_signed]
      refine congrArg Except.ok ?_
      push_cast
      rw [cast_tenTo, cast_tenTo, zpow_natCast]
      field_simp

/-- Only a readable spelling has a value. -/
theorem readable_of_value (spelled : Spelled cs s) (valued : s.value = .ok q) : s.Readable := by
  unfold Spelling.value at valued
  by_cases whole : s.whole.length ≤ maxNumeralDigits
  · rw [number_of_short whole] at valued
    cases spelled with
    | @fraction _ _ _ _ _ _ denominator _ _ _ top bottom _ =>
      have empty : denominator.isEmpty = false := List.isEmpty_eq_false_iff.mpr bottom.digits_ne_nil
      by_cases short : denominator.length ≤ maxNumeralDigits
      · rw [number_of_short short] at valued
        refine ⟨whole, short, Nat.zero_le _, Nat.zero_le _, ?_⟩
        rintro _ zero
        dsimp only [bind, Except.bind] at valued zero
        rw [if_neg (by rw [empty]; exact Bool.false_ne_true), if_pos zero] at valued
        cases valued
      · rw [number_of_long short] at valued
        dsimp only [bind, Except.bind] at valued
        rw [if_neg (by rw [empty]; exact Bool.false_ne_true)] at valued
        cases valued
    | @decimal _ _ _ _ _ _ _ decimals power _ _ _ _ _ _ _ _ _ =>
      by_cases short : decimals.length ≤ maxNumeralDigits
      · rw [number_of_short short] at valued
        by_cases few : power.length ≤ maxNumeralDigits
        · exact ⟨whole, Nat.zero_le _, short, few, fun some => absurd rfl some⟩
        · rw [number_of_long few] at valued
          cases valued
      · rw [number_of_long short] at valued
        cases valued
  · rw [number_of_long whole] at valued
    cases valued

theorem value_eq_ok_iff (spelled : Spelled cs s) :
    s.value = .ok q ↔ s.Readable ∧ s.quotient = q := by
  constructor
  · intro valued
    have readable := readable_of_value spelled valued
    exact ⟨readable, Except.ok.inj ((value_of_readable spelled readable).symm.trans valued)⟩
  · rintro ⟨readable, rfl⟩
    exact value_of_readable spelled readable

/-! ## What a value denotes -/

theorem ofText_eq_ok_iff {text : String} : ofText text = .ok q ↔ Denotes (.str text) q := by
  unfold ofText
  constructor
  · intro read
    split at read
    · rename_i s found
      have spelled := spelling?_eq_some_iff.mp found
      obtain ⟨readable, rfl⟩ := (value_eq_ok_iff spelled).mp read
      exact .text spelled readable
    · cases read
  · intro denoted
    cases denoted with
    | text spelled readable =>
      rw [spelling?_eq_some_iff.mpr spelled]
      exact value_of_readable spelled readable

theorem cast_twoTo (n : Nat) : ((Number.twoTo n : Nat) : Rat) = 2 ^ n := by
  show ((2 ^ n : Nat) : Rat) = 2 ^ n
  push_cast
  rfl

theorem double_ratio (mantissa : Nat) (exponent : Int) :
    ((Double.ratio mantissa exponent).1 : Rat) / (Double.ratio mantissa exponent).2 =
      mantissa * (2 : Rat) ^ exponent := by
  cases exponent with
  | ofNat n =>
    rw [Int.ofNat_eq_natCast, Double.ratio, if_pos (Int.natCast_nonneg n), Int.toNat_natCast,
      zpow_natCast]
    push_cast
    rw [cast_twoTo, div_one]
  | negSucc n =>
    rw [Double.ratio, if_neg (by simp), Int.neg_negSucc, Int.toNat_natCast, zpow_negSucc,
      cast_twoTo, div_eq_mul_inv]

/-- A finite number of the binary format has the value that its mantissa and exponent give it. -/
theorem toRat?_finite (negative : Bool) (mantissa : Nat) (exponent : Int) :
    (Double.finite negative mantissa exponent).toRat? =
      some ((if negative then -1 else 1) * mantissa * (2 : Rat) ^ exponent) := by
  refine congrArg some ?_
  rw [mul_assoc, ← double_ratio]
  exact mkRat_signed negative _ _

/-- The reader of ratios finds what a value denotes, and nothing in any other value. -/
theorem ofJson_eq_ok_iff : ofJson value = .ok q ↔ Denotes value q := by
  cases value with
  | null => exact ⟨fun read => (nomatch read), fun denoted => (nomatch denoted)⟩
  | bool b =>
    constructor
    · intro read
      cases read
      exact .bool b
    · rintro ⟨⟩
      rfl
  | int n =>
    constructor
    · intro read
      cases read
      exact .int n
    · rintro ⟨⟩
      rfl
  | double x =>
    cases x with
    | nan => exact ⟨fun read => (nomatch read), fun denoted => (nomatch denoted)⟩
    | infinite negative => exact ⟨fun read => (nomatch read), fun denoted => (nomatch denoted)⟩
    | finite negative mantissa exponent =>
      have exact : ofJson (.double (.finite negative mantissa exponent)) =
          .ok ((if negative then -1 else 1) * mantissa * (2 : Rat) ^ exponent) := by
        show Except.ok ((Double.finite negative mantissa exponent).toRat?.getD 0) = _
        rw [toRat?_finite]
        rfl
      rw [exact]
      constructor
      · intro read
        cases read
        exact .double negative mantissa exponent
      · rintro ⟨⟩
        rfl
  | str text => exact ofText_eq_ok_iff
  | arr items => exact ⟨fun read => (nomatch read), fun denoted => (nomatch denoted)⟩
  | obj fields => exact ⟨fun read => (nomatch read), fun denoted => (nomatch denoted)⟩

/-! ## The shown ratio -/

/-- The ratio is shown with no more digits than may be read. -/
def Short (q : Rat) : Prop :=
  q.num.natAbs < Number.tenTo maxNumeralDigits ∧ q.den < Number.tenTo maxNumeralDigits

instance (q : Rat) : Decidable (Short q) :=
  inferInstanceAs (Decidable (_ ∧ _))

/-- The parts of the text that shows a ratio. -/
def shownSpelling (q : Rat) : Spelling where
  negative := decide (q.num < 0)
  whole := Nat.toDigits 10 q.num.natAbs
  denominator := if q.den = 1 then [] else Nat.toDigits 10 q.den
  decimals := []
  powerNegative := false
  power := []

theorem run_toDigits (n : Nat) : Run (Nat.toDigits 10 n) (Nat.toDigits 10 n) :=
  run_of_digits Nat.toDigits_ne_nil fun c member =>
    isDigit_ascii (Source.digits_toDigits n c member)

/-- A numeral is a sign with digits behind it. -/
theorem numeral_spelled (n : Int) :
    ∃ sign, Sign sign (decide (n < 0)) ∧ (numeral n).toList = sign ++ Nat.toDigits 10 n.natAbs := by
  cases n with
  | ofNat n => exact ⟨[], .none, Source.toList_numeral_ofNat n⟩
  | negSucc n =>
    rw [decide_eq_true (Int.negSucc_lt_zero n)]
    exact ⟨['-'], .minus, Source.toList_numeral_negSucc n⟩

theorem spelled_toText (q : Rat) : Spelled (toText q).toList (shownSpelling q) := by
  obtain ⟨sign, signed, shape⟩ := numeral_spelled q.num
  have none : Blanks [] := fun c member => (nomatch member)
  unfold toText shownSpelling
  by_cases whole : q.den = 1
  · rw [if_pos whole, if_pos whole, shape]
    have spelled := Spelled.decimal none signed (.some (run_toDigits q.num.natAbs)) .none
      (.inl Nat.toDigits_ne_nil) .none none
    simpa using spelled
  · rw [if_neg whole, if_neg whole]
    have spelled := Spelled.fraction none signed (run_toDigits q.num.natAbs) (run_toDigits q.den)
      none
    have digits : (numeral q.den).toList = Nat.toDigits 10 q.den :=
      Source.toList_numeral_ofNat q.den
    simpa [shape, digits] using spelled

theorem sign_mul_natAbs (n : Int) :
    (if decide (n < 0) then -1 else 1) * (n.natAbs : Rat) = n := by
  rw [Nat.cast_natAbs]
  by_cases below : n < 0
  · rw [decide_eq_true below, if_pos rfl, abs_of_neg below]
    push_cast
    ring
  · rw [decide_eq_false below, if_neg Bool.false_ne_true, abs_of_nonneg (not_lt.mp below), one_mul]

/-- The shown text spells the ratio itself. -/
theorem quotient_shownSpelling (q : Rat) : (shownSpelling q).quotient = q := by
  have empty : valueOfDigits [] = 0 := rfl
  unfold Spelling.quotient shownSpelling
  dsimp only
  by_cases whole : q.den = 1
  · rw [if_pos whole, if_pos rfl, if_neg Bool.false_ne_true, valueOfDigits_toDigits, empty]
    calc _ = (if decide (q.num < 0) then -1 else 1) * (q.num.natAbs : Rat) := by simp
      _ = q.num := sign_mul_natAbs q.num
      _ = q := (Rat.den_eq_one_iff q).mp whole
  · rw [if_neg whole, if_neg Nat.toDigits_ne_nil, valueOfDigits_toDigits, valueOfDigits_toDigits,
      ← mul_div_assoc, sign_mul_natAbs, Rat.num_div_den]

/-- It can be read if it is short. -/
theorem readable_shownSpelling_iff : (shownSpelling q).Readable ↔ Short q := by
  have limit : 0 < maxNumeralDigits := by decide
  have whole : (shownSpelling q).whole.length ≤ maxNumeralDigits ↔
      q.num.natAbs < Number.tenTo maxNumeralDigits := length_toDigits_le_iff q.num.natAbs limit
  have denominator : (shownSpelling q).denominator.length ≤ maxNumeralDigits ↔
      q.den < Number.tenTo maxNumeralDigits := by
    unfold shownSpelling
    dsimp only
    split
    · rename_i one
      rw [one, ← length_toDigits_le_iff 1 limit]
      decide
    · exact length_toDigits_le_iff q.den limit
  constructor
  · intro readable
    exact ⟨whole.mp readable.whole, denominator.mp readable.denominator⟩
  · intro short
    refine ⟨whole.mpr short.1, denominator.mpr short.2, Nat.zero_le _, Nat.zero_le _, ?_⟩
    unfold shownSpelling
    dsimp only
    split
    · exact fun some => absurd rfl some
    · rw [valueOfDigits_toDigits]
      exact fun _ => q.den_nz

/-- The text that shows a ratio denotes that ratio, if it is short, and nothing otherwise. -/
theorem denotes_toText_iff {p : Rat} : Denotes (.str (toText q)) p ↔ Short q ∧ p = q := by
  constructor
  · intro denoted
    cases denoted with
    | text spelled readable =>
      have same := Option.some.inj ((spelling?_eq_some_iff.mpr spelled).symm.trans
        (spelling?_eq_some_iff.mpr (spelled_toText q)))
      rw [same] at readable ⊢
      exact ⟨readable_shownSpelling_iff.mp readable, quotient_shownSpelling q⟩
  · rintro ⟨short, rfl⟩
    have denoted := Denotes.text (spelled_toText p) (readable_shownSpelling_iff.mpr short)
    rwa [quotient_shownSpelling] at denoted

end CrashDiff.Ratio
