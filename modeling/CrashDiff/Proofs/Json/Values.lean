import CrashDiff.Proofs.Json.Strings
import CrashDiff.Proofs.Program.Number

/-!
# JSON values read back

What is written is read back, in both layouts, for values whose numbers are all whole. The reader is
given a bound that it counts down along the text, and the length of the text is always enough. A
number is read to its end only if nothing follows that could belong to it, so each lemma speaks of
the text behind the value, too.

Results:
1. `readNumber_numeral`: a number is read back.
2. `readValue_write`: so is a value, in any layout that puts nothing but spaces between the tokens.
3. `parse?_compact`, `parse?_indented`: so are the texts of a value.
4. `allVisible_compact`: a value on one line is made of visible characters.
-/

namespace CrashDiff.Json

open Text

variable {c : Char} {cs gap rest : List Char} {fuel level : Nat} {l : Layout}

/-! ## Spaces -/

/-- The characters are all spaces. -/
def IsGap (cs : List Char) : Prop :=
  ∀ c ∈ cs, isSpace c = true

theorem isGap_nil : IsGap [] := by
  simp [IsGap]

theorem isGap_blank : IsGap [' '] := by
  simp [IsGap, isSpace]

theorem isGap_newLine (level : Nat) : IsGap (newLine level) := by
  refine List.forall_mem_cons.mpr ⟨rfl, fun c member => ?_⟩
  rw [List.eq_of_mem_replicate member]
  rfl

theorem skipSpace_gap (spaces : IsGap gap) (cs : List Char) :
    skipSpace (gap ++ cs) = skipSpace cs :=
  List.dropWhile_append_of_pos spaces

theorem skipSpace_cons (token : isSpace c = false) (cs : List Char) :
    skipSpace (c :: cs) = c :: cs := by
  rw [skipSpace, List.dropWhile_cons_of_neg (by simp [token])]

/-- The layout puts a comma between two parts, and nothing but spaces elsewhere. -/
structure Layout.Loose (l : Layout) : Prop where
  first : ∀ level, IsGap (l.first level)
  next : ∀ level, ∃ gap, l.next level = ',' :: gap ∧ IsGap gap
  last : ∀ level, IsGap (l.last level)

theorem Layout.loose_compact : Layout.compact.Loose where
  first _ := isGap_nil
  next _ := ⟨[' '], rfl, isGap_blank⟩
  last _ := isGap_nil

theorem Layout.loose_indented : Layout.indented.Loose where
  first level := isGap_newLine (level + 1)
  next level := ⟨_, rfl, isGap_newLine (level + 1)⟩
  last := isGap_newLine

theorem length_next_pos (loose : l.Loose) (level : Nat) : 0 < (l.next level).length := by
  obtain ⟨gap, next, _⟩ := loose.next level
  rw [next]
  exact Nat.succ_pos gap.length

/-! ## Numbers -/

/-- Nothing that could belong to a number comes first. -/
def EndsNumber (cs : List Char) : Prop :=
  ∀ c ∈ cs.head?, isAsciiDigit c = false ∧ c ≠ '.' ∧ c ≠ 'e' ∧ c ≠ 'E'

theorem endsNumber_nil : EndsNumber [] := by
  simp [EndsNumber]

theorem endsNumber_cons (other : isAsciiDigit c = false ∧ c ≠ '.' ∧ c ≠ 'e' ∧ c ≠ 'E')
    (cs : List Char) : EndsNumber (c :: cs) := by
  intro d first
  cases first
  exact other

theorem endsNumber_gap (spaces : IsGap gap) (ends : EndsNumber rest) :
    EndsNumber (gap ++ rest) := by
  cases gap with
  | nil => exact ends
  | cons c gap =>
    refine endsNumber_cons ?_ _
    have space := spaces c List.mem_cons_self
    simp only [isSpace, Bool.or_eq_true, decide_eq_true_eq] at space
    rcases space with ((rfl | rfl) | rfl) | rfl <;> decide

/-- A whole number has neither a fraction nor an exponent behind it. -/
theorem readFraction_of_ends (ends : EndsNumber rest) : readFraction rest = some (none, rest) := by
  unfold readFraction
  split
  · exact absurd rfl (ends '.' rfl).2.1
  · rfl

theorem readExponent_of_ends (ends : EndsNumber rest) : readExponent rest = some (none, rest) := by
  cases rest with
  | nil => rfl
  | cons c rest =>
    obtain ⟨_, _, small, capital⟩ := ends c rfl
    have other : ¬ (decide (c = 'e') || decide (c = 'E')) = true := by
      simp [small, capital]
    simp only [readExponent]
    rw [if_neg other]

theorem readMagnitude_toDigits (negative : Bool) (n : Nat) (ends : EndsNumber rest) :
    readMagnitude negative (Nat.toDigits 10 n ++ rest) =
      some (.int (if negative then -(n : Int) else n), rest) := by
  have noDigit : Source.NoDigit rest := fun c first => (ends c first).1
  obtain ⟨taken, dropped⟩ := Source.span_toDigits n noDigit
  change (Nat.toDigits 10 n ++ rest).takeWhile isAsciiDigit = _ at taken
  change (Nat.toDigits 10 n ++ rest).dropWhile isAsciiDigit = _ at dropped
  have value : digitsValue (Nat.toDigits 10 n) = n := Source.natOfDigits_toDigits n
  -- Only zero has a zero in front, and it has no digit behind that.
  have proper : ¬ ((Nat.toDigits 10 n).isEmpty || (decide ((Nat.toDigits 10 n).head? = some '0') &&
      decide (1 < (Nat.toDigits 10 n).length))) = true := by
    simp only [Bool.or_eq_true, List.isEmpty_iff, Nat.toDigits_ne_nil, false_or,
      Bool.and_eq_true, decide_eq_true_eq, not_and]
    intro leading
    rw [Source.eq_zero_of_leading_zero leading]
    decide
  unfold readMagnitude
  rw [taken, dropped]
  dsimp only
  rw [if_neg proper, readFraction_of_ends ends]
  dsimp only
  rw [readExponent_of_ends ends]
  simp only [value]

/-- A whole number is read back. -/
theorem readNumber_numeral (n : Int) (ends : EndsNumber rest) :
    readNumber ((numeral n).toList ++ rest) = some (.int n, rest) := by
  cases n with
  | ofNat n =>
    have read := readMagnitude_toDigits false n ends
    rw [Source.toList_numeral_ofNat, readNumber]
    · exact read
    · intro more minus
      obtain ⟨c, cs, digits⟩ := List.exists_cons_of_ne_nil (Nat.toDigits_ne_nil (n := n))
      have digit := Source.digits_toDigits n c (digits ▸ List.mem_cons_self)
      rw [digits] at minus
      cases minus
      exact absurd digit (by decide)
  | negSucc n =>
    rw [Source.toList_numeral_negSucc, List.cons_append, readNumber,
      readMagnitude_toDigits true _ ends]
    rfl

/-! ## How values begin -/

/-- The character can begin a value. -/
def Opens (c : Char) : Prop :=
  isSpace c = false ∧ c ≠ ']' ∧ c ≠ '}'

theorem opens_digit (digit : isAsciiDigit c = true) : Opens c := by
  obtain ⟨low, high⟩ := Source.isAsciiDigit_iff.mp digit
  refine ⟨?_, ?_, ?_⟩
  · simp only [isSpace, Bool.or_eq_false_iff, decide_eq_false_iff_not]
    refine ⟨⟨⟨?_, ?_⟩, ?_⟩, ?_⟩ <;>
      (rintro rfl
       exact absurd digit (by decide))
  · rintro rfl
    exact absurd digit (by decide)
  · rintro rfl
    exact absurd digit (by decide)

theorem exists_numeral (n : Int) : ∃ c cs, (numeral n).toList = c :: cs ∧
    (isAsciiDigit c = true ∨ c = '-') := by
  cases n with
  | ofNat n =>
    obtain ⟨c, cs, digits⟩ := List.exists_cons_of_ne_nil (Nat.toDigits_ne_nil (n := n))
    exact ⟨c, cs, (Source.toList_numeral_ofNat n).trans digits,
      Or.inl (Source.digits_toDigits n c (digits ▸ List.mem_cons_self))⟩
  | negSucc n => exact ⟨_, _, Source.toList_numeral_negSucc n, Or.inr rfl⟩

/-- A number with a point or an exponent begins with a digit, too. -/
theorem exists_decimalText (digits : Nat) (power : Int) :
    ∃ c cs, (Double.decimalText digits power).toList = c :: cs ∧ isAsciiDigit c = true := by
  obtain ⟨c, cs, shape⟩ := List.exists_cons_of_ne_nil (Nat.toDigits_ne_nil (b := 10) (n := digits))
  have digit : isAsciiDigit c = true := Source.digits_toDigits digits c (shape ▸ List.mem_cons_self)
  have text : digits.repr.toList = c :: cs := Nat.toList_repr.trans shape
  unfold Double.decimalText
  dsimp only
  split
  · exact ⟨c, _, by simp only [String.toList_append, String.toList_ofList, text, List.take,
      List.cons_append, List.nil_append]; rfl, digit⟩
  · split
    · exact ⟨c, _, by simp only [String.toList_append, text, List.cons_append]; rfl, digit⟩
    · split
      · exact ⟨c, _, by simp only [String.toList_append, String.toList_ofList, text,
          List.take_succ_cons, List.cons_append]; rfl, digit⟩
      · exact ⟨'0', _, by simp only [String.toList_append]; rfl, by decide⟩

theorem exists_doubleText (x : Double) : ∃ c cs, (doubleText x).toList = c :: cs ∧ Opens c := by
  have letters : Opens 'I' ∧ Opens 'N' ∧ Opens '-' := by
    simp [Opens, isSpace]
  obtain ⟨i, n, minus⟩ := letters
  cases x with
  | infinite negative =>
    cases negative with
    | true => exact ⟨'-', _, rfl, minus⟩
    | false => exact ⟨'I', _, rfl, i⟩
  | nan => exact ⟨'N', _, rfl, n⟩
  | finite negative m e =>
    obtain ⟨digits, power, text⟩ : ∃ digits power, doubleText (.finite negative m e) =
        (if negative then "-" else "") ++ Double.decimalText digits power := ⟨_, _, rfl⟩
    rw [text, String.toList_append]
    cases negative with
    | true => exact ⟨'-', _, rfl, minus⟩
    | false =>
      obtain ⟨c, cs, shape, digit⟩ := exists_decimalText digits power
      exact ⟨c, cs, shape, opens_digit digit⟩

mutual

/-- All numbers in the value are whole. -/
def isWhole : Json → Bool
  | .double _ => false
  | .arr items => areWhole items
  | .obj fields => fieldsWhole fields
  | .null | .bool _ | .int _ | .str _ => true

/-- All numbers in the items are whole. -/
def areWhole : List Json → Bool
  | [] => true
  | v :: vs => isWhole v && areWhole vs

/-- All numbers in the fields are whole. -/
def fieldsWhole : List (String × Json) → Bool
  | [] => true
  | (_, v) :: fields => isWhole v && fieldsWhole fields

end

/-! ## The text of each kind of value -/

@[simp] theorem write_null (l : Layout) (level : Nat) : write l level .null = "null".toList := by
  simp [write, writeScalar]

@[simp] theorem write_bool (l : Layout) (level : Nat) (b : Bool) :
    write l level (.bool b) = (if b then "true" else "false").toList := by
  simp [write, writeScalar]

@[simp] theorem write_int (l : Layout) (level : Nat) (n : Int) :
    write l level (.int n) = (numeral n).toList := by
  simp [write, writeScalar]

@[simp] theorem write_double (l : Layout) (level : Nat) (x : Double) :
    write l level (.double x) = (doubleText x).toList := by
  simp [write, writeScalar]

@[simp] theorem write_str (l : Layout) (level : Nat) (s : String) :
    write l level (.str s) = writeString s := by
  simp [write, writeScalar]

/-- The text of a value begins with neither a space nor a closing bracket. -/
theorem exists_write (l : Layout) (level : Nat) (v : Json) :
    ∃ c cs, write l level v = c :: cs ∧ Opens c := by
  have letters : Opens 'n' ∧ Opens 't' ∧ Opens 'f' ∧ Opens '"' ∧ Opens '[' ∧ Opens '{' ∧
      Opens '-' := by
    simp [Opens, isSpace]
  obtain ⟨n, t, f, mark, square, curly, minus⟩ := letters
  cases v with
  | null => exact ⟨'n', _, write_null l level, n⟩
  | bool b =>
    cases b with
    | true => exact ⟨'t', _, write_bool l level true, t⟩
    | false => exact ⟨'f', _, write_bool l level false, f⟩
  | int k =>
    obtain ⟨c, cs, numeral, first⟩ := exists_numeral k
    refine ⟨c, cs, (write_int l level k).trans numeral, ?_⟩
    rcases first with digit | rfl
    · exact opens_digit digit
    · exact minus
  | double x =>
    obtain ⟨c, cs, shape, opens⟩ := exists_doubleText x
    exact ⟨c, cs, (write_double l level x).trans shape, opens⟩
  | str s => exact ⟨'"', _, write_str l level s, mark⟩
  | arr items =>
    cases items with
    | nil => exact ⟨_, _, by rw [write], square⟩
    | cons v vs => exact ⟨_, _, by rw [write]; rfl, square⟩
  | obj fields =>
    cases fields with
    | nil => exact ⟨_, _, by rw [write], curly⟩
    | cons f fs =>
      obtain ⟨k, v⟩ := f
      exact ⟨_, _, by rw [write]; rfl, curly⟩

/-! ## Reading past spaces -/

theorem readValue_gap (spaces : IsGap gap) (fuel : Nat) (cs : List Char) :
    readValue fuel (gap ++ cs) = readValue fuel cs := by
  cases fuel with
  | zero => rfl
  | succ fuel => rw [readValue, readValue, skipSpace_gap spaces]

theorem readItems_gap (spaces : IsGap gap) (fuel : Nat) (acc : List Json) (cs : List Char) :
    readItems fuel acc (gap ++ cs) = readItems fuel acc cs := by
  cases fuel with
  | zero => rfl
  | succ fuel => rw [readItems, readItems, skipSpace_gap spaces]

theorem readFields_gap (spaces : IsGap gap) (fuel : Nat) (acc : List (String × Json))
    (cs : List Char) : readFields fuel acc (gap ++ cs) = readFields fuel acc cs := by
  cases fuel with
  | zero => rfl
  | succ fuel => rw [readFields, readFields, skipSpace_gap spaces]

/-- A key and its colon are read back, whatever spaces stand in front. -/
theorem readKey_write (spaces : IsGap gap) (k : String) (rest : List Char) :
    readKey (gap ++ writeString k ++ ':' :: rest) = some (k, rest) := by
  have mark : isSpace '"' = false := rfl
  have colon : isSpace ':' = false := rfl
  rw [List.append_assoc, readKey, skipSpace_gap spaces, writeString, List.cons_append,
    skipSpace_cons mark]
  simp only [List.append_assoc, List.singleton_append, readString_writeString,
    skipSpace_cons colon]

/-! ## Values -/

/-- A text that begins like a number is read as one. -/
theorem readValue_number (first : isAsciiDigit c = true ∨ c = '-') (fuel : Nat)
    (cs : List Char) : readValue (fuel + 1) (c :: cs) = readNumber (c :: cs) := by
  have token : isSpace c = false := by
    rcases first with digit | rfl
    · exact (opens_digit digit).1
    · rfl
  rw [readValue, skipSpace_cons token]
  split
  all_goals first
    | rfl
    | (rename_i same
       cases same
       exact absurd first (by decide))

theorem readValue_string (s : String) (fuel : Nat) (rest : List Char) :
    readValue (fuel + 1) (writeString s ++ rest) = some (.str s, rest) := by
  have mark : isSpace '"' = false := rfl
  rw [readValue, writeString, List.cons_append, skipSpace_cons mark]
  simp only [List.append_assoc, List.singleton_append, readString_writeString, Option.map_some]

theorem readValue_numeral (n : Int) (fuel : Nat) (ends : EndsNumber rest) :
    readValue (fuel + 1) ((numeral n).toList ++ rest) = some (.int n, rest) := by
  obtain ⟨c, cs, numeral, first⟩ := exists_numeral n
  have read := readNumber_numeral n ends
  rw [numeral, List.cons_append] at read ⊢
  rw [readValue_number first, read]

/-- What follows an item or a field cannot belong to a number. -/
theorem endsNumber_behind {bracket : Char} (closes : bracket = ']' ∨ bracket = '}')
    (loose : l.Loose) (level : Nat) (rest : List Char) :
    EndsNumber (l.last level ++ bracket :: rest) := by
  refine endsNumber_gap (loose.last level) (endsNumber_cons ?_ rest)
  rcases closes with rfl | rfl <;> decide

theorem endsNumber_next (loose : l.Loose) (level : Nat) (rest : List Char) :
    EndsNumber (l.next level ++ rest) := by
  obtain ⟨gap, next, _⟩ := loose.next level
  rw [next]
  exact endsNumber_cons (by decide) _

/-! ## Steps through arrays and objects -/

section
variable {v : Json} {behind : List Char}

theorem readValue_array (spaces : IsGap gap) (opens : Opens c)
    (first : readValue fuel (c :: cs) = some (v, behind)) :
    readValue (fuel + 1) ('[' :: (gap ++ c :: cs)) = readItems fuel [v] behind := by
  have square : isSpace '[' = false := rfl
  rw [readValue, skipSpace_cons square]
  simp only [skipSpace_gap spaces, skipSpace_cons opens.1]
  split
  · rename_i same
    cases same
    exact absurd rfl opens.2.1
  · simp only [first]

theorem readItems_next (loose : l.Loose) (acc : List Json)
    (item : readValue fuel cs = some (v, behind)) :
    readItems (fuel + 1) acc (l.next level ++ cs) = readItems fuel (v :: acc) behind := by
  have comma : isSpace ',' = false := rfl
  obtain ⟨gap, next, spaces⟩ := loose.next level
  rw [next, List.cons_append, readItems, skipSpace_cons comma]
  simp only [readValue_gap spaces, item]

theorem readItems_last (loose : l.Loose) (acc : List Json) (rest : List Char) :
    readItems (fuel + 1) acc (l.last level ++ ']' :: rest) = some (.arr acc.reverse, rest) := by
  have square : isSpace ']' = false := rfl
  rw [readItems_gap (loose.last level), readItems, skipSpace_cons square]
  rfl

theorem readValue_object (spaces : IsGap gap) (k : String)
    (value : readValue fuel cs = some (v, behind)) :
    readValue (fuel + 1) ('{' :: (gap ++ writeString k ++ ':' :: cs)) =
      readFields fuel [(k, v)] behind := by
  have curly : isSpace '{' = false := rfl
  have mark : isSpace '"' = false := rfl
  have skipped : skipSpace (gap ++ writeString k ++ ':' :: cs) = writeString k ++ ':' :: cs := by
    rw [List.append_assoc, skipSpace_gap spaces, writeString, List.cons_append, skipSpace_cons mark]
  have key := readKey_write isGap_nil k cs
  rw [List.nil_append] at key
  rw [readValue, skipSpace_cons curly]
  simp only [skipped]
  split
  · rename_i same
    cases same
  · simp only [key, value]

theorem readFields_next (loose : l.Loose) (level : Nat) (acc : List (String × Json)) (k : String)
    (value : readValue fuel cs = some (v, behind)) :
    readFields (fuel + 1) acc (l.next level ++ writeString k ++ ':' :: cs) =
      readFields fuel ((k, v) :: acc) behind := by
  have comma : isSpace ',' = false := rfl
  obtain ⟨gap, next, spaces⟩ := loose.next level
  have key := readKey_write spaces k cs
  rw [next, List.append_assoc, List.cons_append, readFields, skipSpace_cons comma]
  rw [List.append_assoc] at key
  simp only [key, value]

theorem readFields_last (loose : l.Loose) (acc : List (String × Json)) (rest : List Char) :
    readFields (fuel + 1) acc (l.last level ++ '}' :: rest) = some (.obj acc.reverse, rest) := by
  have curly : isSpace '}' = false := rfl
  rw [readFields_gap (loose.last level), readFields, skipSpace_cons curly]
  rfl

end

/-! ## The whole value -/

theorem endsNumber_items (loose : l.Loose) (level : Nat) (vs : List Json) (rest : List Char) :
    EndsNumber (writeItems l level vs ++ (l.last level ++ ']' :: rest)) := by
  cases vs with
  | nil =>
    rw [writeItems]
    exact endsNumber_behind (Or.inl rfl) loose level rest
  | cons v vs =>
    simp only [writeItems, List.append_assoc]
    exact endsNumber_next loose level _

theorem endsNumber_fields (loose : l.Loose) (level : Nat) (fs : List (String × Json))
    (rest : List Char) :
    EndsNumber (writeFields l level fs ++ (l.last level ++ '}' :: rest)) := by
  cases fs with
  | nil =>
    rw [writeFields]
    exact endsNumber_behind (Or.inr rfl) loose level rest
  | cons f fs =>
    obtain ⟨k, v⟩ := f
    simp only [writeFields, List.append_assoc]
    exact endsNumber_next loose level _

mutual

/-- A value is read back, and nothing of what stands behind it is read. -/
theorem readValue_write (loose : l.Loose) (level : Nat) (v : Json) (whole : v.isWhole = true)
    (fuel : Nat) (enough : (write l level v).length < fuel) {rest : List Char}
    (ends : EndsNumber rest) : readValue fuel (write l level v ++ rest) = some (v, rest) := by
  obtain ⟨fuel, rfl⟩ : ∃ more, fuel = more + 1 := ⟨fuel - 1, by omega⟩
  match v with
  | .null => rw [write_null]; rfl
  | .bool true => rw [write_bool]; rfl
  | .bool false => rw [write_bool]; rfl
  | .int n => rw [write_int, readValue_numeral n fuel ends]
  | .double x => cases whole
  | .str s => rw [write_str, readValue_string]
  | .arr [] => rw [write]; rfl
  | .obj [] => rw [write]; rfl
  | .arr (v :: vs) =>
    obtain ⟨wholeFirst, wholeRest⟩ := Bool.and_eq_true_iff.mp whole
    simp only [write, List.length_append, List.length_cons] at enough
    have first := readValue_write loose (level + 1) v wholeFirst fuel (by omega)
      (endsNumber_items loose level vs rest)
    obtain ⟨c, cs, shape, opens⟩ := exists_write l (level + 1) v
    simp only [write, List.append_assoc, List.cons_append, List.nil_append]
    rw [shape, List.cons_append] at first ⊢
    rw [readValue_array (loose.first level) opens first]
    exact readItems_write loose level vs wholeRest fuel (by omega) [v] rest
  | .obj ((k, v) :: fs) =>
    obtain ⟨wholeFirst, wholeRest⟩ := Bool.and_eq_true_iff.mp whole
    simp only [write, List.length_append, List.length_cons] at enough
    have first := readValue_write loose (level + 1) v wholeFirst fuel (by omega)
      (endsNumber_fields loose level fs rest)
    have value := (readValue_gap isGap_blank fuel _).trans first
    have object := readValue_object (loose.first level) k value
    simp only [write, List.append_assoc, List.cons_append, List.nil_append] at object ⊢
    rw [object]
    exact readFields_write loose level fs wholeRest fuel (by omega) [(k, v)] rest

/-- So are the items after the first one. -/
theorem readItems_write (loose : l.Loose) (level : Nat) (vs : List Json)
    (whole : areWhole vs = true) (fuel : Nat) (enough : (writeItems l level vs).length < fuel)
    (acc : List Json) (rest : List Char) :
    readItems fuel acc (writeItems l level vs ++ (l.last level ++ ']' :: rest)) =
      some (.arr (acc.reverse ++ vs), rest) := by
  obtain ⟨fuel, rfl⟩ : ∃ more, fuel = more + 1 := ⟨fuel - 1, by omega⟩
  match vs with
  | [] => rw [writeItems, List.nil_append, readItems_last loose, List.append_nil]
  | v :: vs =>
    obtain ⟨wholeFirst, wholeRest⟩ := Bool.and_eq_true_iff.mp whole
    have comma := length_next_pos loose level
    simp only [writeItems, List.length_append] at enough
    have item := readValue_write loose (level + 1) v wholeFirst fuel (by omega)
      (endsNumber_items loose level vs rest)
    simp only [writeItems, List.append_assoc]
    rw [readItems_next loose acc item,
      readItems_write loose level vs wholeRest fuel (by omega) (v :: acc) rest, List.reverse_cons,
      List.append_assoc, List.singleton_append]

/-- So are the fields after the first one. -/
theorem readFields_write (loose : l.Loose) (level : Nat) (fs : List (String × Json))
    (whole : fieldsWhole fs = true) (fuel : Nat) (enough : (writeFields l level fs).length < fuel)
    (acc : List (String × Json)) (rest : List Char) :
    readFields fuel acc (writeFields l level fs ++ (l.last level ++ '}' :: rest)) =
      some (.obj (acc.reverse ++ fs), rest) := by
  obtain ⟨fuel, rfl⟩ : ∃ more, fuel = more + 1 := ⟨fuel - 1, by omega⟩
  match fs with
  | [] => rw [writeFields, List.nil_append, readFields_last loose, List.append_nil]
  | (k, v) :: fs =>
    obtain ⟨wholeFirst, wholeRest⟩ := Bool.and_eq_true_iff.mp whole
    have comma := length_next_pos loose level
    simp only [writeFields, List.length_append] at enough
    have first := readValue_write loose (level + 1) v wholeFirst fuel (by omega)
      (endsNumber_fields loose level fs rest)
    have value := (readValue_gap isGap_blank fuel _).trans first
    have field := readFields_next loose level acc k value
    simp only [writeFields, List.append_assoc, List.cons_append, List.nil_append] at field ⊢
    rw [field, readFields_write loose level fs wholeRest fuel (by omega) ((k, v) :: acc) rest,
      List.reverse_cons, List.append_assoc, List.singleton_append]

end

/-- A text that holds nothing but a value is read as the value. -/
theorem ofChars?_write (loose : l.Loose) (level : Nat) {v : Json} (whole : v.isWhole = true) :
    ofChars? (write l level v) = some v := by
  have read := readValue_write loose level v whole _ (Nat.lt_succ_self _) endsNumber_nil
  rw [List.append_nil] at read
  rw [ofChars?, read]
  rfl

/-- A value on one line is read back. -/
theorem parse?_compact {v : Json} (whole : v.isWhole = true) : parse? v.compact = some v := by
  rw [parse?, compact, String.toList_ofList, ofChars?_write Layout.loose_compact 0 whole]

/-- A value with one part a line is read back. -/
theorem parse?_indented {v : Json} (whole : v.isWhole = true) : parse? v.indented = some v := by
  rw [parse?, indented, String.toList_ofList, ofChars?_write Layout.loose_indented 0 whole]

/-! ## Characters -/

/-- The characters are all visible. -/
def AllVisible (cs : List Char) : Prop :=
  ∀ c ∈ cs, Visible c

instance (cs : List Char) : Decidable (AllVisible cs) :=
  List.decidableBAll Visible cs

theorem allVisible_append : AllVisible (cs ++ rest) ↔ AllVisible cs ∧ AllVisible rest :=
  List.forall_mem_append

theorem allVisible_cons : AllVisible (c :: cs) ↔ Visible c ∧ AllVisible cs :=
  List.forall_mem_cons

/-- Visible characters are on one line. -/
theorem lineFeed_not_mem_of_allVisible (visible : AllVisible cs) : '\n' ∉ cs :=
  fun feed => absurd (visible _ feed) (by decide)

theorem allVisible_numeral (n : Int) : AllVisible (numeral n).toList := by
  have digits (n : Nat) : AllVisible (Nat.toDigits 10 n) := by
    intro c member
    obtain ⟨low, high⟩ := Source.isAsciiDigit_iff.mp (Source.digits_toDigits n c member)
    exact ⟨by omega, by omega⟩
  cases n with
  | ofNat n =>
    rw [Source.toList_numeral_ofNat]
    exact digits n
  | negSucc n =>
    rw [Source.toList_numeral_negSucc]
    exact allVisible_cons.mpr ⟨by decide, digits _⟩

mutual

/-- A value on one line is made of visible characters. -/
theorem allVisible_write (level : Nat) (v : Json) (whole : v.isWhole = true) :
    AllVisible (write .compact level v) := by
  match v with
  | .null => rw [write_null]; decide
  | .bool true => rw [write_bool]; decide
  | .bool false => rw [write_bool]; decide
  | .int n => rw [write_int]; exact allVisible_numeral n
  | .double x => cases whole
  | .str s => rw [write_str]; exact visible_writeString s
  | .arr [] => rw [write]; decide
  | .obj [] => rw [write]; decide
  | .arr (v :: vs) =>
    obtain ⟨wholeFirst, wholeRest⟩ := Bool.and_eq_true_iff.mp whole
    have first := allVisible_write (level + 1) v wholeFirst
    have others := allVisible_writeItems level vs wholeRest
    simp only [write, Layout.compact, List.append_nil, allVisible_append]
    exact ⟨⟨⟨by decide, first⟩, others⟩, by decide⟩
  | .obj ((k, v) :: fs) =>
    obtain ⟨wholeFirst, wholeRest⟩ := Bool.and_eq_true_iff.mp whole
    have key := visible_writeString k
    have first := allVisible_write (level + 1) v wholeFirst
    have others := allVisible_writeFields level fs wholeRest
    simp only [write, Layout.compact, List.append_nil, allVisible_append]
    exact ⟨⟨⟨⟨⟨by decide, key⟩, by decide⟩, first⟩, others⟩, by decide⟩

theorem allVisible_writeItems (level : Nat) (vs : List Json) (whole : areWhole vs = true) :
    AllVisible (writeItems .compact level vs) := by
  match vs with
  | [] => rw [writeItems]; decide
  | v :: vs =>
    obtain ⟨wholeFirst, wholeRest⟩ := Bool.and_eq_true_iff.mp whole
    have first := allVisible_write (level + 1) v wholeFirst
    have others := allVisible_writeItems level vs wholeRest
    simp only [writeItems, Layout.compact, allVisible_append]
    exact ⟨⟨by decide, first⟩, others⟩

theorem allVisible_writeFields (level : Nat) (fs : List (String × Json))
    (whole : fieldsWhole fs = true) : AllVisible (writeFields .compact level fs) := by
  match fs with
  | [] => rw [writeFields]; decide
  | (k, v) :: fs =>
    obtain ⟨wholeFirst, wholeRest⟩ := Bool.and_eq_true_iff.mp whole
    have key := visible_writeString k
    have first := allVisible_write (level + 1) v wholeFirst
    have others := allVisible_writeFields level fs wholeRest
    simp only [writeFields, Layout.compact, allVisible_append]
    exact ⟨⟨⟨⟨by decide, key⟩, by decide⟩, first⟩, others⟩

end

/-- The text of a value on one line is made of visible characters. -/
theorem allVisible_compact {v : Json} (whole : v.isWhole = true) :
    AllVisible v.compact.toList := by
  rw [compact, String.toList_ofList]
  exact allVisible_write 0 v whole

end CrashDiff.Json
