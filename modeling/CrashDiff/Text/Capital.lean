import CrashDiff.Text.CaseTable

/-!
# Capitalised words

A capitalised text has its first character in title form and all others in lower form. Most
forms are one character; a few title forms are two or three, and the capital sigma becomes the
final small sigma at the end of a word.
-/

namespace CrashDiff.Text

/-- The code point that a table of runs assigns to a code point. -/
def shifted? (runs : List ShiftRun) (n : Nat) : Option Nat :=
  (runs.find? fun (first, last, step, _) => first ≤ n && n ≤ last && (n - first) % step == 0).map
    fun (_, _, _, distance) => (n + distance).toNat

/-- Whether a table of ranges holds a code point. -/
def inRanges (ranges : List (Nat × Nat)) (c : Char) : Bool :=
  ranges.any fun (first, last) => first ≤ c.toNat && c.toNat ≤ last

/-- Whether the next character that is not skipped has a case. -/
def seesCased (cs : List Char) : Bool :=
  ((cs.dropWhile (inRanges caseIgnorableRanges)).head?.map (inRanges casedRanges)).getD false

/-- The title form of a character. -/
def titleForm (c : Char) : List Char :=
  match longTitles.find? fun t => t.1 == c.toNat with
  | some (_, forms) => forms.map Char.ofNat
  | none => [((shifted? titleRuns c.toNat).map Char.ofNat).getD c]

/-- The lower form of a character between the characters before it, the nearest first, and those
after it. -/
def lowerForm (before : List Char) (c : Char) (after : List Char) : List Char :=
  if c.toNat = 0x3A3 then
    if seesCased before && !seesCased after then [Char.ofNat 0x3C2] else [Char.ofNat 0x3C3]
  else if c.toNat = 0x130 then ['i', Char.ofNat 0x307]
  else [((shifted? lowerRuns c.toNat).map Char.ofNat).getD c]

/-- The lower forms of the characters that follow `before`. -/
def lowerAfter (before : List Char) : List Char → List Char
  | [] => []
  | c :: cs => lowerForm before c cs ++ lowerAfter (c :: before) cs

/-- The capitalised form of a text. -/
def capitalize (s : String) : String :=
  match s.toList with
  | [] => ""
  | c :: cs => String.ofList (titleForm c ++ lowerAfter [c] cs)

end CrashDiff.Text
