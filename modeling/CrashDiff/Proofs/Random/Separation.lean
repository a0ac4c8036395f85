import CrashDiff.Proofs.Random.Stream
import CrashDiff.Proofs.Text.Marks
import CrashDiff.Random.Seed
import CrashDiff.Run.Pool
import Mathlib.Data.List.Induction

/-!
# Seeds kept apart

The message that is hashed for a seed determines the master seed and the texts of the labels, as
long as no label has a bar in its text. So two workers, of one run or of two, hash the same message
only if they have the same number and the same master seed. Otherwise they have the same seed only
if the hash collides on two different messages.

A collision is what it takes to have the same stream, too, but for the rare seeds with different
counts of words that are aliases of each other.

Results:
1. `hashed_eq_iff`: what the hashed message determines.
2. `compose_eq_ok_iff`: for which seeds and labels there is a message.
3. `derive_eq_iff`: derived seeds are equal just if the digests are.
4. `sameStream_iff`: what it takes for two workers to have the same stream.
5. `separated`: seeds and workers kept apart.
-/

namespace CrashDiff

open Text

/-! ## Bytes -/

theorem toList_loop (bytes : ByteArray) (i : Nat) (front : List UInt8) :
    ByteArray.toList.loop bytes i front = front.reverse ++ bytes.data.toList.drop i := by
  fun_induction ByteArray.toList.loop bytes i front with
  | case1 i front inside ih =>
    have byte : bytes.get! i = bytes.data[i] := getElem!_pos bytes.data i inside
    rw [ih, byte, List.reverse_cons, List.append_assoc, List.singleton_append,
      List.drop_eq_getElem_cons (i := i) (by simpa using inside), Array.getElem_toList]
  | case2 i front outside =>
    rw [List.drop_eq_nil_of_le (by simpa using Nat.le_of_not_lt outside), List.append_nil]

/-- Texts with the same bytes are the same. -/
theorem toUTF8_toList_inj {a b : String} : a.toUTF8.toList = b.toUTF8.toList ↔ a = b := by
  have data (bytes : ByteArray) : bytes.toList = bytes.data.toList := toList_loop bytes 0 []
  rw [data, data, Array.toList_inj, ← ByteArray.ext_iff, String.toUTF8_eq_toByteArray,
    String.toUTF8_eq_toByteArray, String.toByteArray_inj]

/-! ## Digests -/

namespace Blake2b

theorem length_compress (state : List UInt64) (block : Array UInt64) (count : Nat) (last : Bool) :
    (compress state block count last).length = state.length :=
  List.length_mapIdx

theorem length_absorb (taken : Nat) (state : List UInt64) (bytes : List UInt8) :
    (absorb taken state bytes).length = state.length := by
  fun_induction absorb taken state bytes with
  | case1 taken state bytes few => exact length_compress _ _ _ _
  | case2 taken state bytes many ih => rw [ih, length_compress]

/-- A digest has the length that is asked for. -/
theorem length_digest {length : Nat} (short : length ≤ 64) (bytes : List UInt8) :
    (digest length bytes).length = length := by
  have words (ws : List UInt64) : (ws.flatMap bytesOfWord).length = 8 * ws.length := by
    induction ws with
    | nil => rfl
    | cons w ws ih =>
      have bytes : (bytesOfWord w).length = 8 := by
        rw [bytesOfWord, List.length_map, List.length_range]
      rw [List.flatMap_cons, List.length_append, ih, List.length_cons, bytes]
      omega
  unfold digest
  rw [List.length_take, words, length_absorb]
  exact Nat.min_eq_left short

end Blake2b

namespace Seed

variable {s s' : Int} {p p' : List Label}

/-- The bytes that are hashed for a seed and a path. -/
def hashed (seed : Int) (path : List Label) : List UInt8 :=
  (message seed path).toUTF8.toList

/-- No label of the path has a bar in its text. -/
def Plain (path : List Label) : Prop :=
  ∀ label ∈ path, '|' ∉ label.spelling.toList

/-! ## The message -/

/-- The message is the numeral of the seed and the labels, joined by bars. -/
theorem toList_message (s : Int) (p : List Label) :
    (message s p).toList =
      ['|'].intercalate ((numeral s).toList :: (p.map Label.spelling).map String.toList) := by
  unfold message
  generalize numeral s = front
  induction p generalizing front with
  | nil => rw [List.foldl_nil, List.map_nil, List.map_nil, List.intercalate_singleton]
  | cons label p ih =>
    rw [List.foldl_cons, ih, List.map_cons, List.map_cons, List.intercalate_cons_cons]
    cases p <;> simp

/-- The parts of the message can be told apart. -/
theorem splitOn_message (plain : Plain p) :
    (message s p).toList.splitOn '|' =
      (numeral s).toList :: (p.map Label.spelling).map String.toList := by
  rw [toList_message, List.splitOn_intercalate _ _ (List.cons_ne_nil _ _)]
  intro part member
  rcases List.mem_cons.mp member with rfl | member
  · exact not_mem_numeral (by decide) (by decide) s
  · obtain ⟨text, spelled, rfl⟩ := List.mem_map.mp member
    obtain ⟨label, label_mem, rfl⟩ := List.mem_map.mp spelled
    exact plain label label_mem

/-- The message determines the seed and the texts of the labels. -/
theorem hashed_eq_iff (plain : Plain p) (plain' : Plain p') :
    hashed s p = hashed s' p' ↔ s = s' ∧ p.map Label.spelling = p'.map Label.spelling := by
  rw [hashed, hashed, toUTF8_toList_inj]
  constructor
  · intro same
    have parts := splitOn_message (s := s) plain
    rw [same, splitOn_message plain'] at parts
    obtain ⟨front, labels⟩ := List.cons_eq_cons.mp parts
    exact ⟨(numeral_injective (String.toList_inj.mp front)).symm,
      (List.map_inj_right fun _ _ => String.toList_inj.mp).mp labels.symm⟩
  · rintro ⟨rfl, labels⟩
    rw [← String.toList_inj, toList_message, toList_message, labels]

/-- The path to the random source of a worker. -/
def workerPath (i : Int) : List Label :=
  [.text "worker", .number i]

theorem plain_workerPath (i : Int) : Plain (workerPath i) := by
  intro label member
  rcases List.mem_cons.mp member with rfl | member
  · decide
  · rw [List.mem_singleton.mp member]
    exact not_mem_numeral (by decide) (by decide) i

/-- Different workers, or different master seeds, make different messages. -/
theorem hashed_workerPath_iff {i j : Int} :
    hashed s (workerPath i) = hashed s' (workerPath j) ↔ s = s' ∧ i = j := by
  rw [hashed_eq_iff (plain_workerPath i) (plain_workerPath j)]
  refine and_congr_right fun _ => ⟨fun labels => ?_, fun same => by rw [same]⟩
  exact numeral_injective (List.cons.inj (List.cons.inj labels).2).1

/-! ## Derived seeds -/

theorem numberOfBytes_concat (bytes : List UInt8) (b : UInt8) :
    numberOfBytes (bytes ++ [b]) = 256 * numberOfBytes bytes + b.toNat := by
  rw [numberOfBytes, List.foldl_append]
  rfl

/-- Numbers of as many bytes are the same only if the bytes are. -/
theorem numberOfBytes_inj {xs ys : List UInt8} (lengths : xs.length = ys.length)
    (same : numberOfBytes xs = numberOfBytes ys) : xs = ys := by
  induction xs using List.reverseRecOn generalizing ys with
  | nil => exact (List.length_eq_zero_iff.mp lengths.symm).symm
  | append_singleton xs x ih =>
    rcases List.eq_nil_or_concat ys with rfl | ⟨ys, y, rfl⟩
    · simp at lengths
    · rw [List.concat_eq_append] at lengths same ⊢
      rw [numberOfBytes_concat, numberOfBytes_concat] at same
      have small := x.toNat_lt
      have small' := y.toNat_lt
      have front : numberOfBytes xs = numberOfBytes ys := by omega
      have back : x = y := UInt8.toNat_inj.mp (by omega)
      rw [ih (by simpa using lengths) front, back]

theorem numberOfBytes_lt (bytes : List UInt8) :
    numberOfBytes bytes < Number.twoTo (8 * bytes.length) := by
  induction bytes using List.reverseRecOn with
  | nil => decide
  | append_singleton bytes b ih =>
    have small := b.toNat_lt
    have byte (n : Nat) : Number.twoTo (8 * (n + 1)) = Number.twoTo (8 * n) * 256 := by
      rw [Nat.mul_add]
      exact Nat.pow_add 2 (8 * n) 8
    rw [numberOfBytes_concat, List.length_append, List.length_singleton, byte]
    omega

/-- Derived seeds are equal just if the digests are. -/
theorem derive_eq_iff :
    derive s p = derive s' p' ↔
      Blake2b.digest 16 (hashed s p) = Blake2b.digest 16 (hashed s' p') := by
  have length (bytes : List UInt8) : (Blake2b.digest 16 bytes).length = 16 :=
    Blake2b.length_digest (by decide) bytes
  constructor
  · intro same
    exact numberOfBytes_inj ((length _).trans (length _).symm) same
  · intro same
    exact congrArg numberOfBytes same

/-- A derived seed has four words at most. -/
theorem size_keyOf_derive (s : Int) (p : List Label) : (Twister.keyOf (derive s p)).size ≤ 4 := by
  have bound : derive s p < 2 ^ 128 := by
    have below := numberOfBytes_lt (Blake2b.digest 16 (hashed s p))
    rw [Blake2b.length_digest (by decide)] at below
    exact below
  have few : (derive s p).log2 < 128 := by
    by_cases zero : derive s p = 0
    · rw [zero]
      decide
    · exact (Nat.log2_lt zero).mpr bound
  rw [Twister.size_keyOf, Int.natAbs_natCast]
  omega

/-- The hash has the same digest for two different messages. -/
def Collide (x y : List UInt8) : Prop :=
  x ≠ y ∧ Blake2b.digest 16 x = Blake2b.digest 16 y

/-- The source of a worker has the seed that is derived for the worker. -/
theorem sourcesFor_of_seed {settings : RunSettings} (seeded : settings.seed = some s)
    (own : Nat → Int) (i : Nat) :
    Pool.sourcesFor settings own i = Twister.seeded (derive s (workerPath i)) := by
  rw [Pool.sourcesFor, seeded]
  rfl

theorem hashed_workerPath_ne {i j : Int} (other : (s, i) ≠ (s', j)) :
    hashed s (workerPath i) ≠ hashed s' (workerPath j) := by
  intro same
  obtain ⟨rfl, rfl⟩ := hashed_workerPath_iff.mp same
  exact other rfl

theorem derive_workerPath_eq_iff {i j : Int} (other : (s, i) ≠ (s', j)) :
    derive s (workerPath i) = derive s' (workerPath j) ↔
      Collide (hashed s (workerPath i)) (hashed s' (workerPath j)) := by
  rw [derive_eq_iff]
  exact ⟨fun digests => ⟨hashed_workerPath_ne other, digests⟩, fun collision => collision.2⟩

/-- The sources of two workers of any runs hand out the same words forever exactly if the hash
collides, or if the two derived seeds are aliases. -/
theorem sameStream_iff {settings settings' : RunSettings} {own own' : Nat → Int} {i j : Nat}
    (seeded : settings.seed = some s) (seeded' : settings'.seed = some s')
    (other : (s, i) ≠ (s', j)) :
    Twister.SameStream (Pool.sourcesFor settings own i) (Pool.sourcesFor settings' own' j) ↔
      Collide (hashed s (workerPath i)) (hashed s' (workerPath j)) ∨
        Twister.Alias (derive s (workerPath i)) (derive s' (workerPath j)) := by
  have other : (s, (i : Int)) ≠ (s', (j : Int)) := by
    intro equal
    obtain ⟨rfl, numbers⟩ := Prod.mk.inj equal
    exact other (by rw [Int.ofNat.inj numbers])
  have few := size_keyOf_derive s (workerPath i)
  have few' := size_keyOf_derive s' (workerPath j)
  rw [sourcesFor_of_seed seeded, sourcesFor_of_seed seeded']
  constructor
  · intro same
    rcases Twister.natAbs_eq_or_alias few few' same with equal | aliases
    · exact .inl ((derive_workerPath_eq_iff other).mp equal)
    · exact .inr aliases
  · rintro (collision | aliases)
    · rw [(derive_workerPath_eq_iff other).mpr collision]
      exact fun n => rfl
    · exact (Twister.sameStream_iff few few').mpr aliases.2

/-! ## Messages that are written out -/

/-- All numbers of a seed and a path can be written. -/
def IsShort (seed : Int) (path : List Label) : Prop :=
  isShort seed = true ∧ ∀ n, .number n ∈ path → isShort n = true

theorem mapM_written_of_isShort (short : ∀ n, .number n ∈ p → isShort n = true) :
    p.mapM Label.written = .ok (p.map Label.spelling) := by
  induction p with
  | nil => rfl
  | cons label p ih =>
    have first : label.written = .ok label.spelling := by
      cases label with
      | number n => exact Whole.written_number (short n List.mem_cons_self)
      | text | flag | absent => rfl
    rw [List.mapM_cons, first, ih fun n member => short n (List.mem_cons_of_mem _ member)]
    rfl

theorem mapM_written_of_long {n : Int} (member : .number n ∈ p) (long : isShort n = false) :
    p.mapM Label.written = .error .tooLong := by
  induction p with
  | nil => cases member
  | cons label p ih =>
    rw [List.mapM_cons]
    by_cases first : ∃ m, label = .number m ∧ isShort m = false
    · obtain ⟨m, rfl, long⟩ := first
      rw [Label.written, Whole.written_of_long long]
      rfl
    · have later : .number n ∈ p := by
        rcases List.mem_cons.mp member with rfl | later
        · exact absurd ⟨n, rfl, long⟩ first
        · exact later
      have written : label.written = .ok label.spelling := by
        cases label with
        | number m =>
          refine Whole.written_number (eq_true_of_ne_false fun long => ?_)
          exact first ⟨m, rfl, long⟩
        | text | flag | absent => rfl
      rw [written, ih later]
      rfl

/-- There is a message exactly if all numbers can be written. -/
theorem compose_of_isShort (short : IsShort s p) : compose (.number s) p = .ok (message s p) := by
  rw [compose, Whole.written_number short.1, mapM_written_of_isShort short.2, message,
    ← List.foldl_map]
  rfl

theorem compose_of_not_isShort (long : ¬ IsShort s p) :
    compose (.number s) p = .error .tooLong := by
  rw [compose]
  cases seed : isShort s with
  | false =>
    rw [Whole.written_of_long seed]
    rfl
  | true =>
    have label : ∃ n, .number n ∈ p ∧ isShort n = false := by
      by_contra none
      refine long ⟨seed, fun n member => eq_true_of_ne_false fun other => ?_⟩
      exact none ⟨n, member, other⟩
    obtain ⟨n, member, other⟩ := label
    rw [Whole.written_number seed, mapM_written_of_long member other]
    rfl

theorem compose_eq_ok_iff {text : String} :
    compose (.number s) p = .ok text ↔ IsShort s p ∧ text = message s p := by
  by_cases short : IsShort s p
  · rw [compose_of_isShort short]
    exact ⟨fun same => ⟨short, (Except.ok.inj same).symm⟩, fun same => by rw [same.2]⟩
  · rw [compose_of_not_isShort short]
    exact ⟨fun none => (nomatch none), fun same => absurd same.1 short⟩

/-- Seeds and workers are kept apart.

* A seed is derived exactly if the master seed and the numbers on the path have few enough digits.
  The message that is hashed for it determines the master seed and the texts of the labels, how many
  there are included.
* For different workers or master seeds the message is different.
* The seed of a worker is what its random source is made from. So two workers of any runs share a
  random stream just if the hash collides on their messages, or if the derived seeds, with different
  counts of words, are aliases.
* A master seed and its negation have different messages, too, although as seeds of a generator they
  give the same one. -/
theorem separated :
    (∀ (s : Int) (p : List Label),
      (IsShort s p → ∃ text, compose (.number s) p = .ok text ∧
        ask (.number s) p = .ok (ofMessage text)) ∧
      (¬ IsShort s p → ask (.number s) p = .error .tooLong)) ∧
    (∀ (s s' : Int) (p p' : List Label) (text text' : String), Plain p → Plain p' →
      compose (.number s) p = .ok text → compose (.number s') p' = .ok text' →
      (text.toUTF8.toList = text'.toUTF8.toList ↔
        s = s' ∧ p.map Label.spelling = p'.map Label.spelling)) ∧
    (∀ (s s' i j : Int) (text text' : String), (s, i) ≠ (s', j) →
      compose (.number s) (workerPath i) = .ok text →
      compose (.number s') (workerPath j) = .ok text' →
      text.toUTF8.toList ≠ text'.toUTF8.toList) ∧
    (∀ (settings settings' : RunSettings) (own own' : Nat → Int) (s s' : Int) (i j : Nat)
      (text text' : String), settings.seed = some s → settings'.seed = some s' →
      (s, i) ≠ (s', j) → compose (.number s) (workerPath i) = .ok text →
      compose (.number s') (workerPath j) = .ok text' →
      Pool.sourcesFor settings own i = Twister.seeded (ofMessage text) ∧
      (Twister.SameStream (Pool.sourcesFor settings own i) (Pool.sourcesFor settings' own' j) ↔
        Collide text.toUTF8.toList text'.toUTF8.toList ∨
          Twister.Alias (ofMessage text) (ofMessage text'))) ∧
    (∀ (s i : Int) (text text' : String), s ≠ 0 → compose (.number s) (workerPath i) = .ok text →
      compose (.number (-s)) (workerPath i) = .ok text' →
      text.toUTF8.toList ≠ text'.toUTF8.toList ∧ Twister.seeded s = Twister.seeded (-s)) := by
  refine ⟨fun s p => ⟨fun short => ?_, fun long => ?_⟩, ?_, ?_, ?_, ?_⟩
  · exact ⟨_, compose_of_isShort short, by rw [ask, compose_of_isShort short]; rfl⟩
  · rw [ask, compose_of_not_isShort long]
    rfl
  · intro s s' p p' text text' plain plain' composed composed'
    rw [(compose_eq_ok_iff.mp composed).2, (compose_eq_ok_iff.mp composed').2]
    exact hashed_eq_iff plain plain'
  · intro s s' i j text text' other composed composed'
    rw [(compose_eq_ok_iff.mp composed).2, (compose_eq_ok_iff.mp composed').2]
    exact hashed_workerPath_ne other
  · intro settings settings' own own' s s' i j text text' seeded seeded' other composed composed'
    rw [(compose_eq_ok_iff.mp composed).2, (compose_eq_ok_iff.mp composed').2]
    exact ⟨sourcesFor_of_seed seeded own i, sameStream_iff seeded seeded' other⟩
  · intro s i text text' nonzero composed composed'
    rw [(compose_eq_ok_iff.mp composed).2, (compose_eq_ok_iff.mp composed').2]
    refine ⟨hashed_workerPath_ne fun equal => ?_, ?_⟩
    · have negation : s = -s := (Prod.mk.inj equal).1
      omega
    · rw [Twister.seeded, Twister.seeded, Int.natAbs_neg]

/-- A digit cannot move from a label to the master seed, labels of two kinds can have one text, and
the sign of the master seed counts. -/
theorem separated_seven :
    (message 1 [.number 23]).toUTF8.toList ≠ (message 12 [.number 3]).toUTF8.toList ∧
      (message 7 [.text "None"]).toUTF8.toList = (message 7 [.absent]).toUTF8.toList ∧
      (message 7 (workerPath 0)).toUTF8.toList ≠ (message (-7) (workerPath 0)).toUTF8.toList := by
  obtain ⟨-, messages, workers, -, -⟩ := separated
  have number (n : Int) : Plain [.number n] := by
    intro label member
    rw [List.mem_singleton.mp member]
    exact not_mem_numeral (by decide) (by decide) n
  have word (label : Label) (plain : '|' ∉ label.spelling.toList) : Plain [label] := by
    intro other member
    rwa [List.mem_singleton.mp member]
  refine ⟨fun same => ?_, ?_, ?_⟩
  · exact absurd ((messages 1 12 _ _ _ _ (number 23) (number 3) rfl rfl).mp same).1 (by decide)
  · exact (messages 7 7 _ _ _ _ (word (.text "None") (by decide)) (word .absent (by decide)) rfl
      rfl).mpr ⟨rfl, rfl⟩
  · exact workers 7 (-7) 0 0 _ _ (by decide) rfl rfl

/-- No seed is derived from one with 4300 zeros behind it. A truth value that counts as one has a
message of its own. Different seeds can give the same stream without being negations. -/
theorem unseparated_of_long_seed :
    ask (.number (Number.tenTo maxNumeralDigits)) (workerPath 0) = .error .tooLong ∧
      (Whole.value (.truth true) = 1 ∧
        compose (.truth true) (workerPath 0) = .ok "True|worker|0" ∧
        compose (.number 1) (workerPath 0) = .ok "1|worker|0") ∧
      Twister.SameStream (.seeded 2) (.seeded 4294967298) := by
  refine ⟨?_, ⟨rfl, rfl, rfl⟩, (Twister.sameStream_iff (by decide +kernel) (by decide +kernel)).mpr
    Twister.alias_two.2⟩
  rw [ask, compose_of_not_isShort fun short => absurd short.1 (Bool.eq_false_iff.mp isShort_tenTo)]
  rfl

end Seed

end CrashDiff
