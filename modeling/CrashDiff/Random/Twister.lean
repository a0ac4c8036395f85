import CrashDiff.Random.Draws

/-!
# The Mersenne Twister

The generator of 32-bit words with 624 words of state, seeded from a whole number of any size, and
the uniform draws made from its words. The sign of the seed is ignored, so a seed and its negation
give the same stream.

A draw below `n` takes as many bits as `n` has and repeats that until the number is below `n`.
-/

namespace CrashDiff

/-- The state of the generator: its words, and how many of them have been used. -/
structure Twister where
  words : Array UInt32
  used : Nat

namespace Twister

/-- The count of words of state. -/
def size : Nat := 624

/-- The word at an index. -/
def word (words : Array UInt32) (i : Nat) : UInt32 :=
  words.getD i 0

/-! ## Seeding -/

/-- The word before, spread for the next seeding step. -/
def spread (w : UInt32) : UInt32 :=
  w ^^^ (w >>> 30)

/-- The state that every seed starts from. -/
def baseWords : Array UInt32 :=
  (List.range (size - 1)).foldl
    (fun words i => words.push (1812433253 * spread (word words i) + UInt32.ofNat (i + 1)))
    #[19650218]

/-- The 32-bit words of a number, the least significant first; one word for zero. -/
def seedWords (n : Nat) : List UInt32 :=
  (List.range (n.log2 / 32 + 1)).map fun i => UInt32.ofNat (n >>> (32 * i))

/-- Writes a word at an index; the last one is also copied to the front. -/
def putWord (words : Array UInt32) (i : Nat) (w : UInt32) : Array UInt32 :=
  let words := words.setIfInBounds i w
  if i + 1 = size then words.setIfInBounds 0 w else words

/-- The index after `i` in the cycle of all indices but zero. -/
def nextIndex (i : Nat) : Nat :=
  if i + 1 = size then 1 else i + 1

/-- Mixes a key into the words: `steps` steps from the index `i`, with the key's word `j` next. -/
def mixKey (key : Array UInt32) : Nat → Nat → Nat → Array UInt32 → Nat × Array UInt32
  | 0, i, _, words => (i, words)
  | steps + 1, i, j, words =>
    let w := (word words i ^^^ (spread (word words (i - 1)) * 1664525)) + word key j +
      UInt32.ofNat j
    mixKey key steps (nextIndex i) (if j + 1 < key.size then j + 1 else 0) (putWord words i w)

/-- Mixes the words among themselves: `steps` steps from the index `i`. -/
def mixWords : Nat → Nat → Array UInt32 → Array UInt32
  | 0, _, words => words
  | steps + 1, i, words =>
    let w := (word words i ^^^ (spread (word words (i - 1)) * 1566083941)) - UInt32.ofNat i
    mixWords steps (nextIndex i) (putWord words i w)

/-- The generator for a seed. -/
def seeded (seed : Int) : Twister :=
  let key := (seedWords seed.natAbs).toArray
  let (i, words) := mixKey key (max size key.size) 1 0 baseWords
  ⟨(mixWords (size - 1) i words).setIfInBounds 0 0x80000000, size⟩

/-! ## Words -/

/-- The word that replaces the one at `i` when the state is renewed. -/
def twisted (words : Array UInt32) (i : Nat) : UInt32 :=
  let y := (word words i &&& 0x80000000) ||| (word words ((i + 1) % size) &&& 0x7FFFFFFF)
  word words ((i + 397) % size) ^^^ (y >>> 1) ^^^ (if y &&& 1 = 0 then 0 else 0x9908B0DF)

/-- The renewed state. -/
def renew (words : Array UInt32) : Array UInt32 :=
  (List.range size).foldl (fun words i => words.setIfInBounds i (twisted words i)) words

/-- The word that is handed out for a word of state. -/
def temper (y : UInt32) : UInt32 :=
  let y := y ^^^ (y >>> 11)
  let y := y ^^^ ((y <<< 7) &&& 0x9D2C5680)
  let y := y ^^^ ((y <<< 15) &&& 0xEFC60000)
  y ^^^ (y >>> 18)

/-- The next word. -/
def nextWord (t : Twister) : UInt32 × Twister :=
  if t.used < size then (temper (word t.words t.used), ⟨t.words, t.used + 1⟩)
  else
    let words := renew t.words
    (temper (word words 0), ⟨words, 1⟩)

/-! ## Draws -/

/-- `n` full words and then the high bits of one more, the least significant word first. -/
def wordsThenBits (bits : Nat) : Nat → Twister → Nat × Twister
  | 0, t =>
    let (w, t) := t.nextWord
    (w.toNat >>> (32 - bits), t)
  | n + 1, t =>
    let (w, t) := t.nextWord
    let (high, t) := wordsThenBits bits n t
    (w.toNat + high <<< 32, t)

/-- A number of the given positive count of bits. -/
def nextBits (bits : Nat) (t : Twister) : Nat × Twister :=
  let full := (bits - 1) / 32
  wordsThenBits (bits - 32 * full) full t

/-- A number below the bound, of the given count of bits, after at most `tries` rejected ones.
Should all be rejected, the next number is reduced to the bound, so that the draw always ends. -/
def belowWithin (bound : Nat) (pos : 0 < bound) (bits : Nat) : Nat → Twister → Fin bound × Twister
  | 0, t =>
    let (n, t) := t.nextBits bits
    (⟨n % bound, Nat.mod_lt n pos⟩, t)
  | tries + 1, t =>
    let (n, t) := t.nextBits bits
    if h : n < bound then (⟨n, h⟩, t) else belowWithin bound pos bits tries t

/-- How many numbers a draw may reject. A draw by rejection has no bound of its own and goes on
until a number is below the bound; the two differ only where the words of the generator reject more
than this, and each number is rejected with a chance of at most one half. -/
def maxRejected : Nat := 1000000

instance : DrawSource Twister where
  below bound pos t := belowWithin bound pos (bound.log2 + 1) maxRejected t

end Twister

end CrashDiff
