import CrashDiff.Proofs.Text.OneLine
import CrashDiff.Run.Pool

/-!
# Stories

What happens to a pool, as far as the progress stream tells of it, and the text that tells it. The
story ends with the first happening that closes the stream. A stream that is shared with the traces
of failures shows each of them behind the report of its failure.

Results:
1. `shown_append`: the output of happenings one after the other.
2. `shown_unshared`: an unshared stream shows the story.
3. `decodes_splitOn`: if no line has a line feed in it, the lines are read back from the text.
-/

namespace CrashDiff

open Text

/-- What the progress stream may tell of.

* `discarded`: a case was dull.
* `reported`, `halted`: a case was reported by a line, and the run goes on or is halted.
* `gaveUp`: a worker was stopped by a failure, whose trace has the given text.
* `stopped`: the run was stopped from outside. -/
inductive Happening where
  | discarded
  | reported (line : String)
  | halted (line : String)
  | gaveUp (worker : Nat) (failure : Failure) (traceText : String)
  | stopped

namespace Happening

/-- The line that tells of a happening, if there is one. -/
def line? : Happening → Option String
  | .reported line | .halted line => some line
  | .gaveUp worker failure _ =>
    some ("[!!!] Worker " ++ numeral worker ++ " stopped by an infrastructure error: " ++
      failure.shown)
  | .discarded | .stopped => none

/-- The text that tells of a happening. -/
def text : Happening → String
  | .discarded => "."
  | .reported line | .halted line => "\n" ++ line ++ "\n"
  | .gaveUp worker failure _ =>
    "\n" ++ ("[!!!] Worker " ++ numeral worker ++ " stopped by an infrastructure error: " ++
      failure.shown) ++ "\n"
  | .stopped => ""

/-- Whether nothing is told after the happening. -/
def closes : Happening → Bool
  | .discarded | .reported _ => false
  | .halted _ | .gaveUp .. | .stopped => true

/-- The trace that goes to the error stream. -/
def trace : Happening → String
  | .gaveUp _ _ traceText => traceText
  | .discarded | .reported _ | .halted _ | .stopped => ""

/-- The happenings up to the first one that closes the stream, and that one. -/
def told : List Happening → List Happening
  | [] => []
  | h :: hs => if h.closes then [h] else h :: told hs

/-- The text that tells of happenings. -/
def textOf (hs : List Happening) : String :=
  String.join (hs.map text)

/-- The output of happenings: their texts as long as the progress stream is not closed, and their
traces if the output stream is shared with them. -/
def shown (shared : Bool) : (closed : Bool) → List Happening → String
  | _, [] => ""
  | closed, h :: hs =>
    (if closed then "" else h.text) ++ (if shared then h.trace else "") ++
      shown shared (closed || h.closes) hs

/-- The lines that tell of happenings. -/
def linesOf (hs : List Happening) : List String :=
  hs.filterMap line?

@[simp] theorem textOf_nil : textOf [] = "" := rfl

@[simp] theorem textOf_cons (h : Happening) (hs : List Happening) :
    textOf (h :: hs) = h.text ++ textOf hs := by
  simp [textOf]

variable {h : Happening} {hs more : List Happening}

theorem shown_append (shared closed : Bool) (hs more : List Happening) :
    shown shared closed (hs ++ more) =
      shown shared closed hs ++ shown shared (closed || hs.any closes) more := by
  induction hs generalizing closed with
  | nil => simp [shown]
  | cons h hs ih => simp [shown, ih, String.append_assoc, Bool.or_assoc]

theorem shown_closed (hs : List Happening) : shown false true hs = "" := by
  induction hs with
  | nil => rfl
  | cons h hs ih => simp [shown, ih]

/-- A stream that is not shared shows the story, or nothing if it is closed. -/
theorem shown_unshared (closed : Bool) (hs : List Happening) :
    shown false closed hs = textOf (if closed then [] else told hs) := by
  cases closed with
  | true => exact shown_closed hs
  | false =>
    induction hs with
    | nil => rfl
    | cons h hs ih =>
      cases closing : h.closes with
      | true => simp [shown, told, closing, shown_closed]
      | false =>
        simp only [shown, told, closing, Bool.or_false, Bool.false_eq_true, if_false, textOf_cons,
          String.append_empty]
        rw [ih]
        rfl

theorem shown_eq_empty (shared closed : Bool)
    (silent : ∀ h ∈ hs, h.text = "" ∧ h.trace = "") : shown shared closed hs = "" := by
  induction hs generalizing closed with
  | nil => rfl
  | cons h hs ih =>
    obtain ⟨⟨text, trace⟩, others⟩ := List.forall_mem_cons.mp silent
    simp [shown, text, trace, ih _ others]

/-- Nothing that closes the stream is followed by anything in a story. -/
theorem closes_of_mem_dropLast (member : h ∈ (told hs).dropLast) : h.closes = false := by
  induction hs with
  | nil => cases member
  | cons h' hs ih =>
    rw [told] at member
    split at member
    · cases member
    · -- The first happening is in front of the last one only if something is told after it.
      rename_i stays
      cases rest : told hs with
      | nil =>
        rw [rest] at member
        cases member
      | cons first later =>
        rw [rest, List.dropLast_cons_cons] at member
        rcases List.mem_cons.mp member with rfl | inRest
        · simpa using stays
        · exact ih (rest ▸ inRest)

theorem mem_of_mem_told (member : h ∈ told hs) : h ∈ hs := by
  induction hs with
  | nil => cases member
  | cons h' hs ih =>
    rw [told] at member
    split at member
    · rw [List.mem_singleton.mp member]
      exact List.mem_cons_self
    · rcases List.mem_cons.mp member with rfl | inRest
      · exact List.mem_cons_self
      · exact List.mem_cons_of_mem _ (ih inRest)

/-! ## Reading lines back -/

/-- Points and lines in turn, with points at both ends. -/
inductive Decodes : List (List Char) → List String → Prop
  | last {points : List Char} : (∀ c ∈ points, c = '.') → Decodes [points] []
  | line {points : List Char} {segments : List (List Char)} {line : String}
      {lines : List String} : (∀ c ∈ points, c = '.') → Decodes segments lines →
      Decodes (points :: line.toList :: segments) (line :: lines)

namespace Decodes

variable {segments : List (List Char)} {lines : List String}

theorem length_eq (decodes : Decodes segments lines) :
    segments.length = 2 * lines.length + 1 := by
  induction decodes with
  | last _ => rfl
  | line _ _ ih =>
    simp only [List.length_cons, ih]
    omega

theorem getElem?_odd (decodes : Decodes segments lines) (k : Nat) :
    segments[2 * k + 1]? = lines[k]?.map String.toList := by
  induction decodes generalizing k with
  | last _ => simp
  | line _ _ ih =>
    cases k with
    | zero => rfl
    | succ k =>
      have index : 2 * (k + 1) + 1 = 2 * k + 1 + 1 + 1 := by omega
      rw [index, List.getElem?_cons_succ, List.getElem?_cons_succ, ih k, List.getElem?_cons_succ]

theorem getElem?_even (decodes : Decodes segments lines) (k : Nat) {points : List Char}
    (found : segments[2 * k]? = some points) : ∀ c ∈ points, c = '.' := by
  induction decodes generalizing k with
  | last only =>
    cases k with
    | zero =>
      cases found
      exact only
    | succ k =>
      have index : 2 * (k + 1) = 2 * k + 1 + 1 := by omega
      rw [index] at found
      cases found
  | line first _ ih =>
    cases k with
    | zero =>
      cases found
      exact first
    | succ k =>
      have index : 2 * (k + 1) = 2 * k + 1 + 1 := by omega
      rw [index, List.getElem?_cons_succ, List.getElem?_cons_succ] at found
      exact ih k found

/-- Another point in front. -/
theorem point (decodes : Decodes segments lines) :
    Decodes (segments.modifyHead ('.' :: ·)) lines := by
  cases decodes with
  | last only => exact .last (by simpa using only)
  | line first rest => exact .line (by simpa using first) rest

end Decodes

theorem text_of_line? {line : String} (told : h.line? = some line) :
    h.text = "\n" ++ line ++ "\n" := by
  cases h with
  | discarded => cases told
  | reported own =>
    cases told
    rfl
  | halted own =>
    cases told
    rfl
  | gaveUp worker failure traceText =>
    cases told
    rfl
  | stopped => cases told

theorem text_of_no_line? (untold : h.line? = none) : h.text = "." ∨ h.text = "" := by
  cases h with
  | discarded => exact Or.inl rfl
  | reported own => cases untold
  | halted own => cases untold
  | gaveUp worker failure => cases untold
  | stopped => exact Or.inr rfl

theorem splitOn_line {line : String} (whole : OneLine line) (rest : String) :
    ("\n" ++ line ++ "\n" ++ rest).toList.splitOn '\n' =
      [] :: line.toList :: rest.toList.splitOn '\n' := by
  have letters : ("\n" ++ line ++ "\n" ++ rest).toList =
      '\n' :: (line.toList ++ '\n' :: rest.toList) := by
    simp
  rw [letters, List.splitOn_cons_eq_if_modifyHead]
  simp only [beq_self_eq_true, if_true]
  rw [List.splitOn_append_cons_self_of_not_mem whole]

/-- The lines of a story without line feeds in them are read back from its text. -/
theorem decodes_splitOn (whole : ∀ line ∈ linesOf hs, OneLine line) :
    Decodes ((textOf hs).toList.splitOn '\n') (linesOf hs) := by
  induction hs with
  | nil => exact .last (by simp)
  | cons h hs ih =>
    rw [textOf_cons]
    cases told : h.line? with
    | some line =>
      have lines : linesOf (h :: hs) = line :: linesOf hs := List.filterMap_cons_some told
      rw [lines] at whole ⊢
      obtain ⟨own, others⟩ := List.forall_mem_cons.mp whole
      rw [text_of_line? told, splitOn_line own]
      exact .line (by simp) (ih others)
    | none =>
      have lines : linesOf (h :: hs) = linesOf hs := List.filterMap_cons_none told
      rw [lines] at whole ⊢
      rcases text_of_no_line? told with point | silent
      · have letters : (h.text ++ textOf hs).toList = '.' :: (textOf hs).toList := by
          simp [point]
        rw [letters, List.splitOn_cons_eq_if_modifyHead]
        exact (ih whole).point
      · rw [silent, String.empty_append]
        exact ih whole

end Happening

end CrashDiff
