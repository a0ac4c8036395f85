import CrashDiff.Json.Reader
import CrashDiff.Json.Writer
import Mathlib.Tactic.IntervalCases
import Mathlib.Tactic.SplitIfs

/-!
# JSON strings read back

Whatever the characters of a text are, the reader of JSON strings takes the escape of each of them
for that character, and stops at the closing mark. A JSON string is made of the characters from the
blank to the tilde alone, so it is on one line.

Results:
1. `readUnit_hexDigits`: four hexadecimal digits are read as their number.
2. `isEscape_escapeChar`: what the escape of a character can be.
3. `readString_writeString`: a string is read as its text.
4. `visible_writeString`: it is made of visible characters.
-/

namespace CrashDiff.Json

open Text

variable {c : Char} {rest : List Char}

/-! ## Hexadecimal digits -/

theorem hexValue?_digitChar {n : Nat} (below : n < 16) : hexValue? n.digitChar = some n := by
  interval_cases n <;> decide

theorem hexDigits_four (n : Nat) :
    hexDigits 4 n = [(n / 16 / 16 / 16 % 16).digitChar, (n / 16 / 16 % 16).digitChar,
      (n / 16 % 16).digitChar, (n % 16).digitChar] := rfl

/-- Four hexadecimal digits are read as the number that they are written for. -/
theorem readUnit_hexDigits {n : Nat} (unit : n < 0x10000) (rest : List Char) :
    readUnit (hexDigits 4 n ++ rest) = some (n, rest) := by
  have digit (m : Nat) : hexValue? (m % 16).digitChar = some (m % 16) :=
    hexValue?_digitChar (Nat.mod_lt m (by decide))
  have value : ((n / 16 / 16 / 16 % 16 * 16 + n / 16 / 16 % 16) * 16 + n / 16 % 16) * 16 + n % 16 =
      n := by omega
  simp only [hexDigits_four, List.cons_append, List.nil_append, readUnit, digit, value]

/-! ## Escapes -/

/-- The escape of a unit that is no half of a pair is read as its character. -/
theorem readUnicode_unit (plane : c.toNat < 0x10000) (rest : List Char) :
    readUnicode (hexDigits 4 c.toNat ++ rest) = some (c, rest) := by
  have whole : c.toNat < 0xD800 ∨ 0xE000 ≤ c.toNat := by
    rcases c.valid with low | ⟨high, _⟩
    · exact Or.inl low
    · exact Or.inr high
  have alone : (decide (c.toNat < 0xD800) || decide (0xE000 ≤ c.toNat)) = true := by
    simpa using whole
  simp only [readUnicode, readUnit_hexDigits plane, alone, if_true, Char.ofNat_toNat]

/-- The escapes of both halves of a pair are read as one character. -/
theorem readUnicode_halves {high low : Nat} (first : 0xD800 ≤ high) (half : high < 0xDC00)
    (second : 0xDC00 ≤ low) (last : low < 0xE000) (rest : List Char) :
    readUnicode (hexDigits 4 high ++ unitEscape low ++ rest) =
      some (Char.ofNat (0x10000 + (high - 0xD800) * 0x400 + (low - 0xDC00)), rest) := by
  have paired : (decide (high < 0xD800) || decide (0xE000 ≤ high)) = false := by
    simp only [Bool.or_eq_false_iff, decide_eq_false_iff_not]
    omega
  have behind : (decide (0xDC00 ≤ low) && decide (low < 0xE000)) = true := by
    simp [second, last]
  have one := readUnit_hexDigits (n := high) (by omega) (unitEscape low ++ rest)
  have two := readUnit_hexDigits (n := low) (by omega) rest
  rw [List.append_assoc, readUnicode, one]
  simp only [paired, Bool.false_eq_true, if_false, half, if_true, unitEscape, List.cons_append, two,
    behind]

/-- The escapes of a character behind the basic plane are read as the character. -/
theorem readUnicode_pair (plane : 0x10000 ≤ c.toNat) (rest : List Char) :
    readUnicode (hexDigits 4 (0xD800 + (c.toNat - 0x10000) / 0x400) ++
      unitEscape (0xDC00 + (c.toNat - 0x10000) % 0x400) ++ rest) = some (c, rest) := by
  have bound : c.toNat < 0x110000 := by
    rcases c.valid with low | ⟨_, high⟩
    · have small : c.toNat < 0xD800 := low
      omega
    · exact high
  generalize isHigh : 0xD800 + (c.toNat - 0x10000) / 0x400 = high
  generalize isLow : 0xDC00 + (c.toNat - 0x10000) % 0x400 = low
  have code : 0x10000 + (high - 0xD800) * 0x400 + (low - 0xDC00) = c.toNat := by omega
  rw [readUnicode_halves (by omega) (by omega) (by omega) (by omega) rest, code, Char.ofNat_toNat]

theorem eq_of_toNat {n : Nat} (code : c.toNat = n) : c = Char.ofNat n := by
  rw [← code, Char.ofNat_toNat]

/-- What an escape is read as is put in front of what has been read. -/
theorem readChars_backslash {cs : List Char} (read : readEscape cs = some (c, rest)) (fuel : Nat)
    (acc : List Char) :
    readChars (fuel + 1) acc ('\\' :: cs) = readChars fuel (c :: acc) rest := by
  simp only [readChars, read]

theorem readChars_unitEscape {n : Nat} {after : List Char}
    (read : readUnicode (hexDigits 4 n ++ rest) = some (c, after)) (fuel : Nat)
    (acc : List Char) :
    readChars (fuel + 1) acc (unitEscape n ++ rest) = readChars fuel (c :: acc) after := by
  have escape : readEscape ('u' :: (hexDigits 4 n ++ rest)) = some (c, after) := read
  exact readChars_backslash escape fuel acc

/-- The character is one of those from the blank to the tilde. -/
def Visible (c : Char) : Prop :=
  32 ≤ c.toNat ∧ c.toNat ≤ 126

instance (c : Char) : Decidable (Visible c) :=
  inferInstanceAs (Decidable (_ ∧ _))

/-- What the escape of a character can be.

* `short`: a backslash and a letter.
* `self`: the character itself.
* `unit`, `pair`: the escape of one UTF-16 unit, or those of two. -/
inductive IsEscape (c : Char) : List Char → Prop
  | short {letter : Char} (read : ∀ rest, readEscape (letter :: rest) = some (c, rest))
      (visible : Visible letter) : IsEscape c ['\\', letter]
  | self (visible : Visible c) (unmarked : c ≠ '"' ∧ c ≠ '\\') : IsEscape c [c]
  | unit (plane : c.toNat < 0x10000) : IsEscape c (unitEscape c.toNat)
  | pair (plane : 0x10000 ≤ c.toNat) :
      IsEscape c (unitEscape (0xD800 + (c.toNat - 0x10000) / 0x400) ++
        unitEscape (0xDC00 + (c.toNat - 0x10000) % 0x400))

theorem isEscape_escapeChar (c : Char) : IsEscape c (escapeChar c) := by
  unfold escapeChar
  split_ifs with quote backslash feed carriage tab back form plain unit
  · subst quote
    exact .short (fun _ => rfl) (by decide)
  · subst backslash
    exact .short (fun _ => rfl) (by decide)
  · subst feed
    exact .short (fun _ => rfl) (by decide)
  · subst carriage
    exact .short (fun _ => rfl) (by decide)
  · subst tab
    exact .short (fun _ => rfl) (by decide)
  · obtain rfl := eq_of_toNat back
    exact .short (fun _ => rfl) (by decide)
  · obtain rfl := eq_of_toNat form
    exact .short (fun _ => rfl) (by decide)
  · simp only [Bool.and_eq_true, decide_eq_true_eq] at plain
    exact .self plain ⟨quote, backslash⟩
  · exact .unit unit
  · exact .pair (Nat.not_lt.mp unit)

/-- The escape of a character is read as the character. -/
theorem readChars_escapeChar (fuel : Nat) (acc : List Char) (c : Char) (rest : List Char) :
    readChars (fuel + 1) acc (escapeChar c ++ rest) = readChars fuel (c :: acc) rest := by
  have escape := isEscape_escapeChar c
  generalize escapeChar c = es at escape ⊢
  cases escape with
  | short read _ => exact readChars_backslash (read rest) fuel acc
  | self visible unmarked =>
    have shown : ¬ c.toNat < 32 := Nat.not_lt.mpr visible.1
    rw [List.singleton_append, readChars]
    · rw [if_neg shown]
    · exact unmarked.1
    · exact unmarked.2
  | unit plane => exact readChars_unitEscape (readUnicode_unit plane rest) fuel acc
  | pair plane =>
    have read := readUnicode_pair plane rest
    rw [List.append_assoc] at read ⊢
    exact readChars_unitEscape read fuel acc

/-! ## Strings -/

theorem readChars_escapes (cs acc rest : List Char) {fuel : Nat} (enough : cs.length < fuel) :
    readChars fuel acc (cs.flatMap escapeChar ++ '"' :: rest) = some (cs.reverse ++ acc, rest) := by
  induction cs generalizing acc fuel with
  | nil =>
    obtain ⟨fuel, rfl⟩ := Nat.exists_eq_add_of_lt enough
    rfl
  | cons c cs ih =>
    obtain ⟨fuel, rfl⟩ : ∃ more, fuel = more + 1 := ⟨fuel - 1, by omega⟩
    rw [List.flatMap_cons, List.append_assoc, readChars_escapeChar,
      ih (c :: acc) (by simpa using enough), List.reverse_cons, List.append_assoc,
      List.singleton_append]

theorem length_le_escapes (cs : List Char) : cs.length ≤ (cs.flatMap escapeChar).length := by
  induction cs with
  | nil => exact Nat.le_refl 0
  | cons c cs ih =>
    have one : 1 ≤ (escapeChar c).length := by
      have escape := isEscape_escapeChar c
      generalize escapeChar c = es at escape ⊢
      cases escape <;> simp [unitEscape]
    rw [List.flatMap_cons, List.length_append, List.length_cons]
    omega

/-- A string, behind its opening mark, is read as its text. -/
theorem readString_writeString (s : String) (rest : List Char) :
    readString (s.toList.flatMap escapeChar ++ '"' :: rest) = some (s, rest) := by
  have long := length_le_escapes s.toList
  rw [readString, readChars_escapes _ _ _ (by rw [List.length_append]; omega)]
  simp

/-! ## Characters -/

theorem visible_digitChar {n : Nat} (below : n < 16) : Visible n.digitChar := by
  interval_cases n <;> decide

theorem visible_unitEscape (n : Nat) : ∀ c ∈ unitEscape n, Visible c := by
  have digit (m : Nat) : Visible (m % 16).digitChar :=
    visible_digitChar (Nat.mod_lt m (by decide))
  have backslash : Visible '\\' := by decide
  have letter : Visible 'u' := by decide
  simp only [unitEscape, hexDigits_four, List.forall_mem_cons]
  exact ⟨backslash, letter, digit _, digit _, digit _, digit _, by simp⟩

theorem visible_escapeChar (c : Char) : ∀ d ∈ escapeChar c, Visible d := by
  have escape := isEscape_escapeChar c
  generalize escapeChar c = es at escape ⊢
  cases escape with
  | short _ visible =>
    exact List.forall_mem_cons.mpr ⟨by decide, List.forall_mem_singleton.mpr visible⟩
  | self visible _ => exact List.forall_mem_singleton.mpr visible
  | unit _ => exact visible_unitEscape _
  | pair _ => exact List.forall_mem_append.mpr ⟨visible_unitEscape _, visible_unitEscape _⟩

/-- A string is made of visible characters. -/
theorem visible_writeString (s : String) : ∀ c ∈ writeString s, Visible c := by
  have mark : Visible '"' := by decide
  refine List.forall_mem_cons.mpr ⟨mark, List.forall_mem_append.mpr ⟨fun d member => ?_, ?_⟩⟩
  · obtain ⟨c, _, here⟩ := List.mem_flatMap.mp member
    exact visible_escapeChar c d here
  · simpa using mark

end CrashDiff.Json
