import CrashDiff.Failure
import CrashDiff.Proofs.Text.Numeral
import Mathlib.Tactic.SplitIfs

/-!
# Texts on one line

A text is on one line if it holds no line feed. Numbers, quoted texts and values inside messages
are on one line whatever they hold.

Results:
1. `oneLine_quoted`: every escape of a quoted text keeps to the line.
2. `oneLine_shown`: so does the form of a value inside a message.
3. `Failure.oneLine_shown`: so does the full form of a failure, whatever its details are.
-/

namespace CrashDiff

namespace Text

/-- The text holds no line feed. -/
def OneLine (s : String) : Prop :=
  '\n' ∉ s.toList

instance (s : String) : Decidable (OneLine s) :=
  inferInstanceAs (Decidable ('\n' ∉ s.toList))

@[simp] theorem oneLine_append {s t : String} : OneLine (s ++ t) ↔ OneLine s ∧ OneLine t := by
  simp [OneLine]

@[simp] theorem oneLine_ofList {cs : List Char} : OneLine (String.ofList cs) ↔ '\n' ∉ cs := by
  simp [OneLine]

theorem oneLine_pushn {s : String} (whole : OneLine s) {c : Char} (other : c ≠ '\n') (n : Nat) :
    OneLine (s.pushn c n) := by
  rw [String.pushn_eq_repeat_push]
  induction n with
  | zero => exact whole
  | succ n ih =>
    intro member
    simp only [Nat.repeat, String.toList_push, List.mem_append, List.mem_singleton] at member
    cases member with
    | inl before => exact ih before
    | inr last => exact other last.symm

theorem oneLine_intercalate_iff {separator : String} (line : OneLine separator)
    {parts : List String} :
    OneLine (separator.intercalate parts) ↔ ∀ part ∈ parts, OneLine part := by
  induction parts with
  | nil => simp [OneLine]
  | cons part rest ih =>
    cases rest with
    | nil => simp
    | cons next rest =>
      rw [String.intercalate_cons_cons, oneLine_append, oneLine_append, ih]
      constructor
      · rintro ⟨⟨first, _⟩, later⟩
        exact List.forall_mem_cons.mpr ⟨first, later⟩
      · intro lines
        obtain ⟨first, later⟩ := List.forall_mem_cons.mp lines
        exact ⟨⟨first, line⟩, later⟩

/-! ## Numbers -/

theorem oneLine_repr (n : Nat) : OneLine n.repr := by
  intro member
  exact absurd (isDigit_of_mem_repr member) (by decide)

theorem oneLine_numeral (n : Int) : OneLine (numeral n) := by
  intro member
  rcases isDigit_or_minus_of_mem_numeral member with digit | minus
  · exact absurd digit (by decide)
  · exact absurd minus (by decide)

/-! ## Quoted texts -/

theorem digitChar_ne_lineFeed (n : Nat) : n.digitChar ≠ '\n' :=
  Nat.digitChar_ne '\n' (by decide)

theorem lineFeed_not_mem_hexDigits (width n : Nat) : '\n' ∉ hexDigits width n := by
  induction width generalizing n with
  | zero => simp [hexDigits]
  | succ width ih =>
    simp only [hexDigits, List.mem_append, List.mem_singleton, not_or]
    exact ⟨ih _, Ne.symm (digitChar_ne_lineFeed _)⟩

theorem lineFeed_not_mem_escapeChar {mark : Char} (other : mark ≠ '\n') (c : Char) :
    '\n' ∉ escapeChar mark c := by
  have escapes := lineFeed_not_mem_hexDigits
  unfold escapeChar
  split
  · rename_i special
    have different : c ≠ '\n' := by
      rintro rfl
      simp [Ne.symm other] at special
    simp [Ne.symm different]
  · by_cases lineFeed : c = '\n'
    · simp [lineFeed]
    · split_ifs <;> simp [escapes, Ne.symm lineFeed]

theorem quoteMark_ne_lineFeed (cs : List Char) : quoteMark cs ≠ '\n' := by
  unfold quoteMark
  split <;> decide

/-- A quoted text is on one line, whatever the text is. -/
theorem oneLine_quoted (s : String) : OneLine (quoted s) := by
  have mark := quoteMark_ne_lineFeed s.toList
  simp only [quoted, oneLine_ofList, quotedChars, List.mem_cons, List.mem_append,
    List.mem_flatMap, List.not_mem_nil, or_false, not_or, not_exists, not_and]
  exact ⟨Ne.symm mark, fun c _ => lineFeed_not_mem_escapeChar mark c, Ne.symm mark⟩

end Text

open Text

namespace Double

theorem oneLine_decimalText (digits : Nat) (power : Int) : OneLine (decimalText digits power) := by
  have digitsLine := oneLine_repr digits
  have sizeLine := oneLine_repr (power + digits.repr.length - 1).natAbs
  have zeros (n : Nat) : OneLine ("".pushn '0' n) := oneLine_pushn (by decide) (by decide) n
  have front (n : Nat) : '\n' ∉ digits.repr.toList.take n :=
    fun member => digitsLine (List.mem_of_mem_take member)
  have back (n : Nat) : '\n' ∉ digits.repr.toList.drop n :=
    fun member => digitsLine (List.mem_of_mem_drop member)
  have point : OneLine "." := by decide
  have exponent : OneLine "e" := by decide
  unfold decimalText
  dsimp only
  split
  · simp only [oneLine_append, oneLine_ofList]
    refine ⟨⟨⟨⟨⟨front 1, ?_⟩, exponent⟩, by split <;> decide⟩, by split <;> decide⟩, sizeLine⟩
    split
    · decide
    · exact oneLine_append.mpr ⟨point, oneLine_ofList.mpr (back 1)⟩
  · split_ifs
    · simp only [oneLine_append]
      exact ⟨⟨digitsLine, zeros _⟩, by decide⟩
    · simp only [oneLine_append, oneLine_ofList]
      exact ⟨⟨front _, point⟩, back _⟩
    · simp only [oneLine_append]
      exact ⟨⟨by decide, zeros _⟩, digitsLine⟩

theorem oneLine_shortest {x : Double} {s : String} (found : x.shortest? = some s) :
    OneLine s := by
  cases x with
  | finite negative m e =>
    simp only [shortest?, Option.some.injEq] at found
    rw [← found, oneLine_append]
    exact ⟨by split <;> decide, oneLine_decimalText _ _⟩
  | infinite negative => simp [shortest?] at found
  | nan => simp [shortest?] at found

theorem oneLine_fixed (places : Nat) (x : Double) : OneLine (x.fixed places) := by
  cases x with
  | finite negative m e =>
    have zeros (n : Nat) : OneLine ("".pushn '0' n) := oneLine_pushn (by decide) (by decide) n
    simp only [fixed, placesText, oneLine_append]
    exact ⟨by split <;> decide, ⟨⟨oneLine_repr _, by decide⟩, zeros _⟩, oneLine_repr _⟩
  | infinite negative => cases negative <;> simp [fixed, OneLine]
  | nan => simp [fixed, OneLine]

end Double

namespace Json

mutual

/-- A value inside a message is on one line, whatever texts it holds. -/
theorem oneLine_shown : ∀ v : Json, OneLine v.shown
  | .null => by decide
  | .bool b => by cases b <;> decide
  | .int n => oneLine_numeral n
  | .double x => by
    rw [shown]
    cases found : x.shortest? with
    | none => exact Double.oneLine_fixed 0 x
    | some s => exact Double.oneLine_shortest found
  | .str s => oneLine_quoted s
  | .arr [] => by decide
  | .arr (v :: vs) => by
    have first := oneLine_shown v
    have rest := oneLine_shownItems vs
    simp only [shown, oneLine_append]
    exact ⟨⟨⟨by decide, first⟩, rest⟩, by decide⟩
  | .obj [] => by decide
  | .obj ((k, v) :: fs) => by
    have first := oneLine_shown v
    have rest := oneLine_shownFields fs
    simp only [shown, oneLine_append]
    exact ⟨⟨⟨⟨⟨by decide, oneLine_quoted k⟩, by decide⟩, first⟩, rest⟩, by decide⟩

theorem oneLine_shownItems : ∀ vs : List Json, OneLine (shownItems vs)
  | [] => by decide
  | v :: vs => by
    have first := oneLine_shown v
    have rest := oneLine_shownItems vs
    simp only [shownItems, oneLine_append]
    exact ⟨⟨by decide, first⟩, rest⟩

theorem oneLine_shownFields : ∀ fs : List (String × Json), OneLine (shownFields fs)
  | [] => by decide
  | (k, v) :: fs => by
    have first := oneLine_shown v
    have rest := oneLine_shownFields fs
    simp only [shownFields, oneLine_append]
    exact ⟨⟨⟨⟨by decide, oneLine_quoted k⟩, by decide⟩, first⟩, rest⟩

end

end Json

namespace Failure

theorem oneLine_kindLabel {kind : FailureKind} (listed : ∀ other, kind ≠ .other other) :
    OneLine kind.label := by
  cases kind with
  | other kind => exact absurd rfl (listed kind)
  | _ => decide

theorem oneLine_tupleText (details : List Json) : OneLine (tupleText details) := by
  match details with
  | [] => decide
  | [d] =>
    simp only [tupleText, oneLine_append]
    exact ⟨⟨by decide, Json.oneLine_shown d⟩, by decide⟩
  | d :: e :: ds =>
    simp only [tupleText, oneLine_append]
    exact ⟨⟨⟨by decide, Json.oneLine_shown d⟩, Json.oneLine_shownItems (e :: ds)⟩, by decide⟩

/-- The full form of a failure is on one line, whatever its details are. -/
theorem oneLine_shown (f : Failure) : OneLine f.shown := by
  unfold shown
  split
  · rename_i kind _
    exact kind.oneLine
  · rename_i listed
    simp only [oneLine_append]
    exact ⟨⟨⟨oneLine_kindLabel listed, by decide⟩, Json.oneLine_shown _⟩, by decide⟩
  · rename_i listed _
    exact oneLine_append.mpr ⟨oneLine_kindLabel listed, oneLine_tupleText _⟩

end Failure

end CrashDiff
