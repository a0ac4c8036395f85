import CrashDiff.Proofs.Random.Words

/-!
# The stream of a seed

The words that a seeded generator hands out determine its seed, as far as its key does. Each step
from the key to the words can be undone: the tempering, the renewing of the state, the mixing of the
words among themselves, and the mixing with the key, which adds to each word what the key adds in
this step. Only the first word of state is lost, and no word of the stream depends on it.

The addends are the words of the key with their indices, over and over. So keys with as many words
add the same only if they are the same. Keys of different lengths can add the same: a word `w` alone
adds what the two words `w` and `w - 1` do.

Results:
1. `agree_of_renew`: the renewed state determines the old one.
2. `agree_of_mixWords`, `word_mixKey`: the same for the two ways of mixing.
3. `sameStream_iff`: when two seeds have the same stream.
4. `natAbs_eq_of_sameStream`: seeds with as many words have it only if they agree up to their sign.
-/

namespace CrashDiff.Twister

variable {words words' : Array UInt32} {i j k t : Nat} {w : UInt32}

/-! ## Single words -/

theorem word_set (inside : i < words.size) (j : Nat) :
    word (words.setIfInBounds i w) j = if j = i then w else word words j := by
  unfold word
  rw [Array.getD_eq_getD_getElem?, Array.getD_eq_getD_getElem?, Array.getElem?_setIfInBounds]
  by_cases same : j = i
  · rw [if_pos same, if_pos same.symm, if_pos inside]
    rfl
  · rw [if_neg same, if_neg fun other => same other.symm]

@[simp] theorem size_putWord (words : Array UInt32) (i : Nat) (w : UInt32) :
    (putWord words i w).size = words.size := by
  unfold putWord
  split <;> simp

/-- A written word is found at its index, and the last one at the front, too. -/
theorem word_putWord (full : words.size = size) (inside : i < size) (j : Nat) :
    word (putWord words i w) j =
      if j = i ∨ (i + 1 = size ∧ j = 0) then w else word words j := by
  unfold putWord
  dsimp only
  by_cases last : i + 1 = size
  · rw [if_pos last, word_set (by simp [full]; decide), word_set (by rw [full]; exact inside)]
    by_cases front : j = 0
    · rw [if_pos front, if_pos (.inr ⟨last, front⟩)]
    · rw [if_neg front]
      simp only [front, and_false, or_false]
  · rw [if_neg last, word_set (by rw [full]; exact inside)]
    simp only [last, false_and, or_false]

/-- The two states have the same words, except perhaps for the first one. -/
def Agree (words words' : Array UInt32) : Prop :=
  ∀ j, 1 ≤ j → j < size → word words j = word words' j

/-! ## Renewing -/

/-- The state in which the first `k` words have been renewed. -/
def renewed (words : Array UInt32) (k : Nat) : Array UInt32 :=
  (List.range k).foldl (fun words i => words.setIfInBounds i (twisted words i)) words

theorem renewed_succ (words : Array UInt32) (k : Nat) :
    renewed words (k + 1) =
      (renewed words k).setIfInBounds k (twisted (renewed words k) k) := by
  rw [renewed, List.range_succ, List.foldl_append]
  rfl

theorem size_renewed (words : Array UInt32) (k : Nat) : (renewed words k).size = words.size := by
  induction k with
  | zero => rfl
  | succ k ih => rw [renewed_succ, Array.size_setIfInBounds, ih]

/-- A word is renewed in its turn, and only then. -/
theorem word_renewed (full : words.size = size) (few : k ≤ size) :
    word (renewed words k) j = if j < k then word (renew words) j else word words j := by
  have behind (k : Nat) (few : k ≤ size) (j : Nat) (later : k ≤ j) :
      word (renewed words k) j = word words j := by
    induction k with
    | zero => rfl
    | succ k ih =>
      rw [renewed_succ, word_set (by rw [size_renewed, full]; omega), if_neg (by omega)]
      exact ih (by omega) (by omega)
  split
  · rename_i before
    show word (renewed words k) j = word (renewed words size) j
    have stays (n : Nat) (fits : k + n ≤ size) :
        word (renewed words (k + n)) j = word (renewed words k) j := by
      induction n with
      | zero => rfl
      | succ n ih =>
        rw [← Nat.add_assoc, renewed_succ, word_set (by rw [size_renewed, full]; omega),
          if_neg (by omega)]
        exact ih (by omega)
    have all := stays (size - k) (by omega)
    rw [Nat.add_sub_cancel' few] at all
    exact all.symm
  · exact behind k few j (by omega)

/-- What a word is renewed to, in terms of the words that it finds. -/
theorem word_renew (full : words.size = size) (inside : i < size) :
    word (renew words) i =
      word (renewed words i) ((i + 397) % size) ^^^
        turn (high (word words i) ||| low (word (renewed words i) ((i + 1) % size))) := by
  have own : word (renewed words i) i = word words i := by
    rw [word_renewed full (by omega), if_neg (by omega)]
  have new : word (renewed words (i + 1)) i = word (renew words) i := by
    rw [word_renewed full (by omega), if_pos (by omega)]
  rw [← new, renewed_succ, word_set (by rw [size_renewed, full]; exact inside), if_pos rfl, twisted,
    own]
  exact UInt32.xor_assoc _ _ _

/-- The word behind a word is renewed after it. -/
theorem word_renewed_next (full : words.size = size) (inside : i + 1 < size) :
    word (renewed words i) ((i + 1) % size) = word words (i + 1) := by
  rw [Nat.mod_eq_of_lt inside, word_renewed full (by omega), if_neg (by omega)]

section

variable (full : words.size = size) (full' : words'.size = size)
  (same : ∀ j < size, word (renew words) j = word (renew words') j)

include full full' same

/-- Where the words that are combined are the same, so are the parts of the joined words. -/
theorem parts_of_renew (inside : i < size)
    (source : word (renewed words i) ((i + 397) % size) =
      word (renewed words' i) ((i + 397) % size)) :
    high (word words i) = high (word words' i) ∧
      (i + 1 < size → low (word words (i + 1)) = low (word words' (i + 1))) := by
  have turned := same i inside
  rw [word_renew full inside, word_renew full' inside, source, UInt32.xor_right_inj] at turned
  obtain ⟨highs, lows⟩ := joined_inj (turn_inj turned)
  refine ⟨highs, fun more => ?_⟩
  rwa [word_renewed_next full more, word_renewed_next full' more] at lows

/-- From index 227 on, the combined word is a renewed one. -/
theorem parts_of_later (late : 227 ≤ i) (inside : i < size) :
    high (word words i) = high (word words' i) ∧
      (i + 1 < size → low (word words (i + 1)) = low (word words' (i + 1))) := by
  refine parts_of_renew full full' same inside ?_
  have back : (i + 397) % size = i - 227 := by
    have total : size = 624 := rfl
    rw [total] at inside ⊢
    omega
  rw [back, word_renewed full (by omega), word_renewed full' (by omega), if_pos (by omega),
    if_pos (by omega)]
  exact same _ (by omega)

/-- The renewed state determines the old one, except perhaps for the first word. -/
theorem agree_of_renew : Agree words words' := by
  have total : size = 624 := rfl
  have upper (i : Nat) (late : 227 ≤ i) (inside : i + 1 < size) :
      word words (i + 1) = word words' (i + 1) :=
    eq_of_parts (parts_of_later full full' same (by omega) inside).1
      ((parts_of_later full full' same late (by omega)).2 inside)
  -- Before index 227, the combined word is an old one with a greater index.
  have earlier (i : Nat) (early : i < 227) :
      high (word words i) = high (word words' i) ∧
        (i + 1 < size → low (word words (i + 1)) = low (word words' (i + 1))) := by
    refine parts_of_renew full full' same (by omega) ?_
    have ahead : (i + 397) % size = i + 396 + 1 := by rw [total]; omega
    rw [ahead, word_renewed full (by omega), word_renewed full' (by omega), if_neg (by omega),
      if_neg (by omega)]
    exact upper _ (by omega) (by omega)
  intro j first inside
  obtain ⟨i, rfl⟩ : ∃ i, j = i + 1 := ⟨j - 1, by omega⟩
  by_cases late : 227 ≤ i
  · exact upper i late inside
  · refine eq_of_parts ?_ ((earlier i (by omega)).2 inside)
    by_cases edge : i + 1 = 227
    · exact (parts_of_later full full' same (by omega) inside).1
    · exact (earlier (i + 1) (by omega)).1

end

/-! ## Mixing the words among themselves -/

/-- One step of the mixing among themselves. -/
def stepped (words : Array UInt32) (i : Nat) : Array UInt32 :=
  putWord words i
    ((word words i ^^^ (spread (word words (i - 1)) * 1566083941)) - UInt32.ofNat i)

theorem mixWords_succ (n i : Nat) (words : Array UInt32) :
    mixWords (n + 1) i words = mixWords n (nextIndex i) (stepped words i) :=
  rfl

@[simp] theorem size_stepped (words : Array UInt32) (i : Nat) :
    (stepped words i).size = words.size :=
  size_putWord _ _ _

theorem nextIndex_of_lt (inside : i + 1 < size) : nextIndex i = i + 1 :=
  if_neg (by omega)

theorem size_mixWords (n i : Nat) (words : Array UInt32) :
    (mixWords n i words).size = words.size := by
  induction n generalizing i words with
  | zero => rfl
  | succ n ih => rw [mixWords, ih, size_putWord]

/-- What a step writes, and what it leaves alone. -/
theorem word_stepped (full : words.size = size) (inside : i < size) (j : Nat) :
    word (stepped words i) j =
      if j = i ∨ (i + 1 = size ∧ j = 0) then
        (word words i ^^^ (spread (word words (i - 1)) * 1566083941)) - UInt32.ofNat i
      else word words j :=
  word_putWord full inside j

/-- A step can be undone where the word before the written one is known. -/
theorem agree_of_stepped (full : words.size = size) (full' : words'.size = size)
    (inside : i < size) (before : word words (i - 1) = word words' (i - 1))
    (same : Agree (stepped words i) (stepped words' i)) : Agree words words' := by
  intro j first upto
  have found := same j first upto
  rw [word_stepped full inside, word_stepped full' inside] at found
  by_cases own : j = i
  · rw [if_pos (.inl own), if_pos (.inl own), before, UInt32.sub_left_inj,
      UInt32.xor_left_inj] at found
    rw [own]
    exact found
  · rw [if_neg (by omega), if_neg (by omega)] at found
    exact found

/-- It is known at any index but the first one: the step does not write it. -/
theorem agree_of_later_step (full : words.size = size) (full' : words'.size = size) (above : 2 ≤ i)
    (inside : i < size) (same : Agree (stepped words i) (stepped words' i)) :
    Agree words words' := by
  refine agree_of_stepped full full' inside ?_ same
  have found := same (i - 1) (by omega) (by omega)
  rw [word_stepped full inside, word_stepped full' inside, if_neg (by omega),
    if_neg (by omega)] at found
  exact found

/-- At the first index it is a copy of the last one. -/
theorem agree_of_first_step (full : words.size = size) (full' : words'.size = size)
    (copied : word words 0 = word words (size - 1))
    (copied' : word words' 0 = word words' (size - 1))
    (same : Agree (stepped words 1) (stepped words' 1)) : Agree words words' := by
  have inside : 1 < size := by decide
  refine agree_of_stepped full full' inside ?_ same
  have found := same (size - 1) (by decide) (by decide)
  rw [word_stepped full inside, word_stepped full' inside, if_neg (by decide),
    if_neg (by decide)] at found
  show word words 0 = word words' 0
  rw [copied, copied', found]

/-- The steps up to the last index, and one more at the first one, lose nothing but the first
word. -/
theorem agree_of_mixWords (full : words.size = size) (full' : words'.size = size) (above : 2 ≤ i)
    (rest : i + k + 1 = size)
    (same : Agree (mixWords (k + 2) i words) (mixWords (k + 2) i words')) :
    Agree words words' := by
  -- By induction on the steps that are left in front of the last index. The first word is not known
  -- in between, and no step in front of the last one reads it.
  induction k generalizing i words words' with
  | zero =>
    have inside : i < size := by omega
    have last : i = size - 1 := by omega
    have wrapped : nextIndex i = 1 := if_pos rest
    have copied (words : Array UInt32) (full : words.size = size) :
        word (stepped words i) 0 = word (stepped words i) (size - 1) := by
      rw [word_stepped full inside, word_stepped full inside, if_pos (.inr ⟨rest, rfl⟩),
        if_pos (.inl last.symm)]
    rw [mixWords_succ 1 i words, mixWords_succ 1 i words', wrapped] at same
    exact agree_of_later_step full full' above inside
      (agree_of_first_step (by rw [size_stepped, full]) (by rw [size_stepped, full'])
        (copied words full) (copied words' full') same)
  | succ k ih =>
    refine agree_of_later_step full full' above (by omega) ?_
    rw [mixWords_succ (k + 2) i words, mixWords_succ (k + 2) i words',
      nextIndex_of_lt (by omega)] at same
    exact ih (by rw [size_stepped, full]) (by rw [size_stepped, full']) (by omega) (by omega) same

/-! ## Mixing a key into the words -/

/-- What the word of a key adds in a step. -/
def addend (key : Array UInt32) (t : Nat) : UInt32 :=
  word key (t % key.size) + UInt32.ofNat (t % key.size)

/-- One step of the mixing with a key. -/
def keyed (words : Array UInt32) (i : Nat) (a : UInt32) : Array UInt32 :=
  putWord words i ((word words i ^^^ (spread (word words (i - 1)) * 1664525)) + a)

theorem succ_mod {n : Nat} (positive : 0 < n) (t : Nat) :
    (if t % n + 1 < n then t % n + 1 else 0) = (t + 1) % n := by
  have below := Nat.mod_lt t positive
  rw [← Nat.mod_add_mod]
  split
  · rename_i more
    exact (Nat.mod_eq_of_lt more).symm
  · have full : t % n + 1 = n := by omega
    rw [full, Nat.mod_self]

variable {key key' : Array UInt32}

theorem mixKey_succ (some : 0 < key.size) (n i t : Nat) (words : Array UInt32) :
    mixKey key (n + 1) i (t % key.size) words =
      mixKey key n (nextIndex i) ((t + 1) % key.size) (keyed words i (addend key t)) := by
  rw [mixKey, succ_mod some, keyed, addend, ← UInt32.add_assoc]

theorem word_keyed {a : UInt32} (full : words.size = size) (inside : i < size) (j : Nat) :
    word (keyed words i a) j =
      if j = i ∨ (i + 1 = size ∧ j = 0) then
        (word words i ^^^ (spread (word words (i - 1)) * 1664525)) + a
      else word words j :=
  word_putWord full inside j

/-- Only the addends of a key matter. -/
theorem mixKey_congr (some : 0 < key.size) (some' : 0 < key'.size)
    (same : ∀ t, addend key t = addend key' t) (n i t : Nat) (words : Array UInt32) :
    mixKey key n i (t % key.size) words = mixKey key' n i (t % key'.size) words := by
  induction n generalizing i t words with
  | zero => rfl
  | succ n ih => rw [mixKey_succ some, mixKey_succ some', same, ih]

@[simp] theorem size_keyed (words : Array UInt32) (i : Nat) (a : UInt32) :
    (keyed words i a).size = words.size :=
  size_putWord _ _ _

/-- The steps from an index up to the last one, and one more at the first index. Each word behind
the first two is written once, from its base and the word in front of it. -/
theorem word_mixKey (some : 0 < key.size) (full : words.size = size) (above : 2 ≤ i)
    (rest : i + k + 1 = size) {result : Nat × Array UInt32}
    (mixed : mixKey key (k + 2) i (t % key.size) words = result) :
    result.1 = 2 ∧ result.2.size = size ∧
      (∀ j, 2 ≤ j → j < i → word result.2 j = word words j) ∧
      word result.2 i =
        (word words i ^^^ (spread (word words (i - 1)) * 1664525)) + addend key t ∧
      ∀ j, i < j → j < size → word result.2 j =
        (word words j ^^^ (spread (word result.2 (j - 1)) * 1664525)) +
          addend key (t + (j - i)) := by
  -- By induction on the steps that are left in front of the last index. What a later step reads in
  -- front of its index is a final word, except where it is written by the very first step.
  induction k generalizing i t words with
  | zero =>
    have inside : i < size := by omega
    have wrapped : nextIndex i = 1 := if_pos rest
    rw [mixKey_succ some 1 i t, wrapped, mixKey_succ some 0 1 (t + 1)] at mixed
    subst mixed
    have length : (keyed words i (addend key t)).size = size := by rw [size_keyed, full]
    have written := word_keyed (i := 1) (a := addend key (t + 1)) length (by decide)
    refine ⟨rfl, by rw [mixKey, size_keyed, size_keyed, full], ?_, ?_, ?_⟩
    · intro j second before
      show word (keyed (keyed words i _) 1 _) j = _
      rw [written, if_neg (by omega), word_keyed full inside, if_neg (by omega)]
    · show word (keyed (keyed words i _) 1 _) i = _
      rw [written, if_neg (by omega), word_keyed full inside, if_pos (.inl rfl)]
    · intro j behind upto
      omega
  | succ k ih =>
    have inside : i < size := by omega
    rw [mixKey_succ some (k + 2) i t, nextIndex_of_lt (by omega)] at mixed
    obtain ⟨index, length, front, own, behind⟩ :=
      ih (by rw [size_keyed, full]) (by omega) (by omega) mixed
    have written := word_keyed (a := addend key t) full inside
    refine ⟨index, length, ?_, ?_, ?_⟩
    · intro j second before
      rw [front j second (by omega), written, if_neg (by omega)]
    · rw [front i above (by omega), written, if_pos (.inl rfl)]
    · intro j later upto
      have base : word (keyed words i (addend key t)) j = word words j := by
        rw [written, if_neg (by omega)]
      by_cases next : j = i + 1
      · subst next
        rw [own, base, Nat.add_sub_cancel, Nat.add_sub_cancel_left, front i above (by omega)]
      · have step : t + 1 + (j - (i + 1)) = t + (j - i) := by omega
        rw [behind j (by omega) upto, base, step]

/-! ## Seeds -/

/-- The key that a seed is turned into. -/
def keyOf (seed : Int) : Array UInt32 :=
  (seedWords seed.natAbs).toArray

theorem size_keyOf (seed : Int) : (keyOf seed).size = seed.natAbs.log2 / 32 + 1 := by
  rw [keyOf, List.size_toArray, seedWords, List.length_map, List.length_range]

theorem size_baseWords : baseWords.size = size := by
  have pushed (n : Nat) (f : Array UInt32 → Nat → UInt32) (words : Array UInt32) :
      ((List.range n).foldl (fun words i => words.push (f words i)) words).size =
        words.size + n := by
    induction n with
    | zero => rfl
    | succ n ih =>
      rw [List.range_succ, List.foldl_append, List.foldl_cons, List.foldl_nil, Array.size_push, ih]
      omega
  exact pushed _ _ _

variable {s s' : Int}

theorem size_keyOf_pos (seed : Int) : 0 < (keyOf seed).size := by
  rw [size_keyOf]
  exact Nat.succ_pos _

/-- The index and the words that are left by the mixing with the key of a seed. -/
def mixed (seed : Int) : Nat × Array UInt32 :=
  mixKey (keyOf seed) size 1 0 baseWords

/-- The words of state for a seed with a short key. -/
theorem words_seeded (short : (keyOf s).size ≤ size) :
    (seeded s).words =
      (mixWords (size - 1) (mixed s).1 (mixed s).2).setIfInBounds 0 0x80000000 := by
  have steps : max size (keyOf s).size = size := Nat.max_eq_left short
  unfold seeded mixed
  rw [← keyOf]
  dsimp only
  rw [steps]

theorem used_seeded (s : Int) : (seeded s).used = size :=
  rfl

/-- Each word behind the first two, with the addend of the key. -/
theorem word_mixed (s : Int) :
    (mixed s).1 = 2 ∧ (mixed s).2.size = size ∧
      ∀ j, 2 < j → j < size → word (mixed s).2 j =
        (word baseWords j ^^^ (spread (word (mixed s).2 (j - 1)) * 1664525)) +
          addend (keyOf s) (j - 1) := by
  have some := size_keyOf_pos s
  have start : mixed s = mixKey (keyOf s) (621 + 2) 2 (1 % (keyOf s).size)
      (keyed baseWords 1 (addend (keyOf s) 0)) := by
    have first := mixKey_succ some 623 1 0 baseWords
    rw [Nat.zero_mod, nextIndex_of_lt (by decide)] at first
    exact first
  obtain ⟨index, length, -, -, behind⟩ :=
    word_mixKey some (by rw [size_keyed, size_baseWords]) (Nat.le_refl 2) (by decide) start.symm
  refine ⟨index, length, fun j later upto => ?_⟩
  have step : 1 + (j - 2) = j - 1 := by omega
  rw [behind j later upto, word_keyed size_baseWords (by decide), if_neg (by omega), step]

/-- The words of a state determine the addends of the key. -/
theorem addend_of_agree (short : (keyOf s).size ≤ size) (short' : (keyOf s').size ≤ size)
    (same : Agree (seeded s).words (seeded s').words) (second : 2 ≤ t) (upto : t + 1 < size) :
    addend (keyOf s) t = addend (keyOf s') t := by
  obtain ⟨index, full, word_eq⟩ := word_mixed s
  obtain ⟨index', full', word_eq'⟩ := word_mixed s'
  have agree : Agree (mixed s).2 (mixed s').2 := by
    refine agree_of_mixWords (i := 2) (k := 621) full full' (Nat.le_refl 2) (by decide) ?_
    intro j first inside
    have found := same j first inside
    rw [words_seeded short, words_seeded short', index, index',
      word_set (by rw [size_mixWords, full]; decide),
      word_set (by rw [size_mixWords, full']; decide), if_neg (by omega),
      if_neg (by omega)] at found
    exact found
  have own := agree (t + 1) (by omega) upto
  rw [word_eq (t + 1) (by omega) upto, word_eq' (t + 1) (by omega) upto, Nat.add_sub_cancel,
    agree t (by omega) (by omega), UInt32.add_right_inj] at own
  exact own

/-- The addends come back after as many steps as the key has words. -/
theorem addend_mod {m : Nat} (divides : key.size ∣ m) (t n : Nat) :
    addend key (t % m + m * n) = addend key t := by
  have same : (t % m + m * n) % key.size = t % key.size := by
    rw [Nat.add_mod, Nat.mod_mod_of_dvd t divides,
      Nat.mod_eq_zero_of_dvd (Nat.dvd_mul_right_of_dvd divides n), Nat.add_zero, Nat.mod_mod]
  rw [addend, addend, same]

/-- The state of a seed determines all addends, if the keys have four words at most: there is an
early step with any remainder by both lengths. -/
theorem addend_eq_of_agree (few : (keyOf s).size ≤ 4) (few' : (keyOf s').size ≤ 4)
    (same : Agree (seeded s).words (seeded s').words) (t : Nat) :
    addend (keyOf s) t = addend (keyOf s') t := by
  have some := size_keyOf_pos s
  have some' := size_keyOf_pos s'
  have total : size = 624 := rfl
  obtain ⟨period, shape⟩ : ∃ period, period = (keyOf s).size * (keyOf s').size := ⟨_, rfl⟩
  have positive : 0 < period := shape ▸ Nat.mul_pos some some'
  have bounded : period ≤ 4 * 4 := shape ▸ Nat.mul_le_mul few few'
  have below : t % period < period := Nat.mod_lt t positive
  have divides : (keyOf s).size ∣ period := shape ▸ Nat.dvd_mul_right _ _
  have divides' : (keyOf s').size ∣ period := shape ▸ Nat.dvd_mul_left _ _
  rw [← addend_mod divides t 2, ← addend_mod divides' t 2]
  exact addend_of_agree (by omega) (by omega) same (by omega) (by omega)

/-! ## Streams -/

/-- The word that is handed out after `n` others. -/
def wordAt : Nat → Twister → UInt32
  | 0, t => t.nextWord.1
  | n + 1, t => wordAt n t.nextWord.2

/-- The words of state are handed out in order. -/
theorem wordAt_used (words : Array UInt32) (used n : Nat) (fits : used + n < size) :
    wordAt n ⟨words, used⟩ = temper (word words (used + n)) := by
  induction n generalizing used with
  | zero =>
    rw [wordAt, nextWord]
    exact congrArg Prod.fst (if_pos fits)
  | succ n ih =>
    have more : used < size := by omega
    rw [wordAt, nextWord, if_pos more]
    dsimp only
    rw [ih (used + 1) (by omega), Nat.add_right_comm, Nat.add_assoc]

/-- A seeded generator hands out the renewed words first. -/
theorem wordAt_seeded (s : Int) {n : Nat} (early : n < size) :
    wordAt n (seeded s) = temper (word (renew (seeded s).words) n) := by
  have spent : ¬ (seeded s).used < size := by rw [used_seeded]; exact Nat.lt_irrefl size
  cases n with
  | zero => rw [wordAt, nextWord, if_neg spent]
  | succ n =>
    rw [wordAt, nextWord, if_neg spent]
    dsimp only
    rw [wordAt_used _ _ _ (by omega), Nat.add_comm]

/-- Two generators hand out the same words forever. -/
def SameStream (a b : Twister) : Prop :=
  ∀ n, wordAt n a = wordAt n b

theorem size_seeded (short : (keyOf s).size ≤ size) : (seeded s).words.size = size := by
  rw [words_seeded short, Array.size_setIfInBounds, size_mixWords, (word_mixed s).2.1]

/-- Two seeds with keys of four words at most have the same stream if and only if their keys add the
same in every step. -/
theorem sameStream_iff (few : (keyOf s).size ≤ 4) (few' : (keyOf s').size ≤ 4) :
    SameStream (seeded s) (seeded s') ↔ ∀ t, addend (keyOf s) t = addend (keyOf s') t := by
  have total : size = 624 := rfl
  have short : (keyOf s).size ≤ size := by omega
  have short' : (keyOf s').size ≤ size := by omega
  constructor
  · intro same
    -- The first words of the stream are the renewed words.
    refine addend_eq_of_agree few few' (agree_of_renew (size_seeded short) (size_seeded short') ?_)
    intro j inside
    have handed := same j
    rw [wordAt_seeded s inside, wordAt_seeded s' inside] at handed
    exact temper_inj handed
  · intro same
    have states : mixed s = mixed s' := by
      have congruent := mixKey_congr (size_keyOf_pos s) (size_keyOf_pos s') same size 1 0 baseWords
      rw [Nat.zero_mod, Nat.zero_mod] at congruent
      exact congruent
    have words : (seeded s).words = (seeded s').words := by
      rw [words_seeded short, words_seeded short', states]
    have parts (t : Twister) : t = ⟨t.words, t.used⟩ := rfl
    intro n
    rw [parts (seeded s), parts (seeded s'), words, used_seeded, used_seeded]

theorem getElem?_seedWords {n i : Nat} (inside : i < n.log2 / 32 + 1) :
    (seedWords n)[i]? = some (UInt32.ofNat (n >>> (32 * i))) := by
  rw [seedWords, List.getElem?_map, List.getElem?_range inside]
  rfl

theorem length_seedWords (n : Nat) : (seedWords n).length = n.log2 / 32 + 1 := by
  rw [seedWords, List.length_map, List.length_range]

/-- The words of a number determine it. -/
theorem seedWords_inj {m n : Nat} (same : seedWords m = seedWords n) : m = n := by
  have lengths : m.log2 / 32 + 1 = n.log2 / 32 + 1 := by
    rw [← length_seedWords, same, length_seedWords]
  refine Nat.eq_of_testBit_eq fun k => ?_
  by_cases inside : k / 32 < m.log2 / 32 + 1
  · have words := getElem?_seedWords inside
    rw [same, getElem?_seedWords (lengths ▸ inside)] at words
    have values := congrArg (fun w : UInt32 => w.toNat.testBit (k % 32)) (Option.some.inj words)
    have bit (n : Nat) : (UInt32.ofNat (n >>> (32 * (k / 32)))).toNat.testBit (k % 32) =
        n.testBit k := by
      have small : k % 32 < 32 := Nat.mod_lt k (by decide)
      rw [UInt32.toNat_ofNat', Nat.testBit_mod_two_pow, decide_eq_true small, Bool.true_and,
        Nat.testBit_shiftRight, Nat.div_add_mod]
    rw [bit, bit] at values
    exact values.symm
  · have none (n : Nat) (outside : ¬ k / 32 < n.log2 / 32 + 1) : n.testBit k = false := by
      refine Nat.testBit_lt_two_pow (Nat.lt_of_lt_of_le Nat.lt_log2_self ?_)
      exact Nat.pow_le_pow_right (by decide) (by omega)
    rw [none m inside, none n (by omega)]

/-- Seeds with as many words have the same stream only if they are the same up to their sign. -/
theorem natAbs_eq_of_sameStream (few : (keyOf s).size ≤ 4)
    (lengths : (keyOf s).size = (keyOf s').size)
    (same : SameStream (seeded s) (seeded s')) : s.natAbs = s'.natAbs := by
  have addends := (sameStream_iff few (lengths ▸ few)).mp same
  have keys : keyOf s = keyOf s' := by
    refine Array.ext lengths fun j inside inside' => ?_
    have own := addends j
    rw [addend, addend, ← lengths, Nat.mod_eq_of_lt inside, UInt32.add_left_inj] at own
    unfold word at own
    rw [Array.getD_eq_getD_getElem?, Array.getD_eq_getD_getElem?, Array.getElem?_eq_getElem inside,
      Array.getElem?_eq_getElem inside'] at own
    exact own
  exact seedWords_inj (List.toArray_inj keys)

/-- The keys of the seeds have different counts of words, and add the same in every step. -/
def Alias (s s' : Int) : Prop :=
  (keyOf s).size ≠ (keyOf s').size ∧ ∀ t, addend (keyOf s) t = addend (keyOf s') t

/-- Different seeds have the same stream only if they are negations or aliases of each other. -/
theorem natAbs_eq_or_alias (few : (keyOf s).size ≤ 4) (few' : (keyOf s').size ≤ 4)
    (same : SameStream (seeded s) (seeded s')) : s.natAbs = s'.natAbs ∨ Alias s s' := by
  by_cases lengths : (keyOf s).size = (keyOf s').size
  · exact .inl (natAbs_eq_of_sameStream few lengths same)
  · exact .inr ⟨lengths, (sameStream_iff few few').mp same⟩

/-- There are aliases: the words two and one add the same as the word two alone. -/
theorem alias_two : Alias 2 4294967298 := by
  have one : keyOf 2 = #[2] := by decide +kernel
  have two : keyOf 4294967298 = #[2, 1] := by decide +kernel
  refine ⟨by rw [one, two]; decide, fun t => ?_⟩
  rw [one, two, addend, addend]
  rcases Nat.mod_two_eq_zero_or_one t with even | odd
  · show word #[2] (t % 1) + UInt32.ofNat (t % 1) = word #[2, 1] (t % 2) + UInt32.ofNat (t % 2)
    rw [even, Nat.mod_one]
    rfl
  · show word #[2] (t % 1) + UInt32.ofNat (t % 1) = word #[2, 1] (t % 2) + UInt32.ofNat (t % 2)
    rw [odd, Nat.mod_one]
    rfl

end CrashDiff.Twister
