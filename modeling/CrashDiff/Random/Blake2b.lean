/-!
# BLAKE2b

The unkeyed BLAKE2b hash with a digest of any length up to 64 bytes.
-/

namespace CrashDiff.Blake2b

/-- The initial words of the state. -/
def initial : List UInt64 :=
  [0x6A09E667F3BCC908, 0xBB67AE8584CAA73B, 0x3C6EF372FE94F82B, 0xA54FF53A5F1D36F1,
    0x510E527FADE682D1, 0x9B05688C2B3E6C1F, 0x1F83D9ABFB41BD6B, 0x5BE0CD19137E2179]

/-- The order in which each round takes the words of a block; the rounds after the tenth start
again. -/
def schedule : List (List Nat) :=
  [[0, 1, 2, 3, 4, 5, 6, 7, 8, 9, 10, 11, 12, 13, 14, 15],
    [14, 10, 4, 8, 9, 15, 13, 6, 1, 12, 0, 2, 11, 7, 5, 3],
    [11, 8, 12, 0, 5, 2, 15, 13, 10, 14, 3, 6, 7, 1, 9, 4],
    [7, 9, 3, 1, 13, 12, 11, 14, 2, 6, 5, 10, 4, 0, 15, 8],
    [9, 0, 5, 7, 2, 4, 10, 15, 14, 1, 11, 12, 6, 8, 3, 13],
    [2, 12, 6, 10, 0, 11, 8, 3, 4, 13, 7, 5, 15, 14, 1, 9],
    [12, 5, 1, 15, 14, 13, 4, 10, 0, 7, 6, 3, 9, 2, 8, 11],
    [13, 11, 7, 14, 12, 1, 3, 9, 5, 0, 15, 4, 8, 6, 2, 10],
    [6, 15, 14, 9, 11, 3, 0, 8, 12, 2, 13, 7, 1, 4, 10, 5],
    [10, 2, 8, 4, 7, 6, 1, 5, 15, 11, 9, 14, 3, 12, 13, 0],
    [0, 1, 2, 3, 4, 5, 6, 7, 8, 9, 10, 11, 12, 13, 14, 15],
    [14, 10, 4, 8, 9, 15, 13, 6, 1, 12, 0, 2, 11, 7, 5, 3]]

/-- The positions of the state that the eight mixing steps of a round combine: the four columns,
then the four diagonals. -/
def lanes : List (Nat × Nat × Nat × Nat) :=
  [(0, 4, 8, 12), (1, 5, 9, 13), (2, 6, 10, 14), (3, 7, 11, 15),
    (0, 5, 10, 15), (1, 6, 11, 12), (2, 7, 8, 13), (3, 4, 9, 14)]

def rotateRight (w : UInt64) (n : UInt64) : UInt64 :=
  (w >>> n) ||| (w <<< (64 - n))

/-- One mixing step with two words of the block. -/
def mix (v : Array UInt64) (lane : Nat × Nat × Nat × Nat) (x y : UInt64) : Array UInt64 :=
  let (ia, ib, ic, id) := lane
  let a := v.getD ia 0 + v.getD ib 0 + x
  let d := rotateRight (v.getD id 0 ^^^ a) 32
  let c := v.getD ic 0 + d
  let b := rotateRight (v.getD ib 0 ^^^ c) 24
  let a := a + b + y
  let d := rotateRight (d ^^^ a) 16
  let c := c + d
  let b := rotateRight (b ^^^ c) 63
  (((v.setIfInBounds ia a).setIfInBounds ib b).setIfInBounds ic c).setIfInBounds id d

/-- One round: the words of the block are taken in pairs, a pair for each lane. -/
def mixRound (block : Array UInt64) : List (Nat × Nat × Nat × Nat) → List Nat → Array UInt64 →
    Array UInt64
  | lane :: lanes, i :: j :: order, v =>
    mixRound block lanes order (mix v lane (block.getD i 0) (block.getD j 0))
  | _, _, v => v

/-- Takes a block into the state; `count` bytes have been taken with it. -/
def compress (state : List UInt64) (block : Array UInt64) (count : Nat) (last : Bool) :
    List UInt64 :=
  let v := (state ++ initial).toArray
  let v := v.setIfInBounds 12 (v.getD 12 0 ^^^ UInt64.ofNat count)
  let v := v.setIfInBounds 13 (v.getD 13 0 ^^^ UInt64.ofNat (count >>> 64))
  let v := if last then v.setIfInBounds 14 (v.getD 14 0 ^^^ 0xFFFFFFFFFFFFFFFF) else v
  let v := schedule.foldl (fun v order => mixRound block lanes order v) v
  state.mapIdx fun i w => w ^^^ v.getD i 0 ^^^ v.getD (i + 8) 0

/-- The word of up to eight bytes, the least significant first. -/
def wordOfBytes (bytes : List UInt8) : UInt64 :=
  bytes.foldr (fun b w => (w <<< 8) ||| b.toUInt64) 0

/-- The sixteen words of a block, filled up with zeros. -/
def blockWords (bytes : List UInt8) : Array UInt64 :=
  ((List.range 16).map fun i => wordOfBytes ((bytes.drop (8 * i)).take 8)).toArray

/-- The state after the bytes, of which `taken` have already been taken. Only the last block may
be short, and the last one is never left out. -/
def absorb (taken : Nat) (state : List UInt64) (bytes : List UInt8) : List UInt64 :=
  if h : bytes.length ≤ 128 then compress state (blockWords bytes) (taken + bytes.length) true
  else
    absorb (taken + 128) (compress state (blockWords (bytes.take 128)) (taken + 128) false)
      (bytes.drop 128)
termination_by bytes.length
decreasing_by simp; omega

/-- The bytes of a word, the least significant first. -/
def bytesOfWord (w : UInt64) : List UInt8 :=
  (List.range 8).map fun i => (w >>> UInt64.ofNat (8 * i)).toUInt8

/-- The digest of the bytes, of the given length. -/
def digest (length : Nat) (bytes : List UInt8) : List UInt8 :=
  let start := match initial with
    | w :: ws => (w ^^^ 0x01010000 ^^^ UInt64.ofNat length) :: ws
    | [] => []
  ((absorb 0 start bytes).flatMap bytesOfWord).take length

end CrashDiff.Blake2b
