import CrashDiff.Proofs.Json.Values
import CrashDiff.Proofs.Text.Dedent

/-!
# The lines of an indented value

Below its first line, an indented value only has lines that start with a blank, and the line of its
closing bracket. None of them is blank altogether, whatever texts the value holds: strings are on
one line, and each line feed of the layout is followed by something else than blanks.

Results:
1. `laidOut_write`: what the lines of a value are like.
2. `isInner_indented`: every line of an indented object starts with a blank or a bracket.
-/

namespace CrashDiff.Json

open Text

variable {l a b : List Char}

/-! ## Lines below the first one -/

/-- The line starts with a blank and is not blank altogether, or starts with a bracket. -/
def IsInner (l : List Char) : Prop :=
  (∃ rest, l = ' ' :: rest ∧ IsSolid rest) ∨ ∃ c rest, l = c :: rest ∧ c ∈ ['{', '}', ']']

theorem IsInner.append (inner : IsInner l) (rest : List Char) : IsInner (l ++ rest) := by
  rcases inner with ⟨behind, rfl, solid⟩ | ⟨c, behind, rfl, bracket⟩
  · exact Or.inl ⟨_, rfl, solid.append_left rest⟩
  · exact Or.inr ⟨c, _, rfl, bracket⟩

theorem IsInner.isSolid (inner : IsInner l) : IsSolid l := by
  rcases inner with ⟨behind, rfl, solid⟩ | ⟨c, behind, rfl, bracket⟩
  · exact solid.append_right [' ']
  · refine ⟨c, List.mem_cons_self, ?_⟩
    constructor <;>
      (rintro rfl
       exact absurd bracket (by decide))

/-- All lines but the first one are inner lines. -/
def LaidOut (cs : List Char) : Prop :=
  ∀ l ∈ (lines cs).tail, IsInner l

theorem laidOut_of_oneLine (single : '\n' ∉ a) : LaidOut a := by
  rw [LaidOut, lines_of_oneLine single]
  simp

theorem LaidOut.append (first : LaidOut a) (second : LaidOut b) : LaidOut (a ++ b) := by
  obtain ⟨front, last, head, rest, before, behind, whole⟩ := lines_append a b
  rw [LaidOut, before] at first
  rw [LaidOut, behind] at second
  rw [LaidOut, whole]
  cases front with
  | nil => exact second
  | cons l front =>
    obtain ⟨others, own⟩ := List.forall_mem_append.mp first
    refine List.forall_mem_append.mpr ⟨others, List.forall_mem_cons.mpr ⟨?_, second⟩⟩
    exact (own last (List.mem_singleton_self last)).append head

/-- Behind the line feed of the layout there is a line of its own. -/
theorem lines_newLine {c : Char} (other : c ≠ '\n') (level : Nat) (a : List Char) :
    ∃ line rest, lines (c :: a) = (c :: line) :: rest ∧
      lines (newLine level ++ c :: a) =
        [] :: (List.replicate (4 * level) ' ' ++ c :: line) :: rest := by
  obtain ⟨line, rest, _, here⟩ := lines_cons other a
  have blanks : '\n' ∉ List.replicate (4 * level) ' ' := by
    intro member
    exact absurd (List.eq_of_mem_replicate member) (by decide)
  obtain ⟨first, shape, joined⟩ := lines_append_of_oneLine blanks (c :: a)
  rw [here] at shape joined
  cases shape
  refine ⟨line, rest, here, ?_⟩
  rw [newLine, List.cons_append, lines, if_pos rfl, joined]
  rfl

/-- The character is none of the blanks that a layout is made of. -/
theorem Opens.isSolid {c : Char} (opens : Opens c) (rest : List Char) :
    c ≠ '\n' ∧ IsSolid (c :: rest) := by
  obtain ⟨space, _⟩ := opens
  simp only [isSpace, Bool.or_eq_false_iff, decide_eq_false_iff_not] at space
  obtain ⟨⟨⟨blank, feed⟩, tab⟩, _⟩ := space
  exact ⟨feed, c, List.mem_cons_self, blank, tab⟩

/-- A text that opens with something else than a blank, on a line of its own. -/
theorem laidOut_newLine (level : Nat) (rest : LaidOut a) (first : ∃ c cs, a = c :: cs ∧ Opens c) :
    LaidOut (newLine (level + 1) ++ a) := by
  obtain ⟨c, cs, rfl, opens⟩ := first
  obtain ⟨line, others, here, whole⟩ := lines_newLine (opens.isSolid []).1 (level + 1) cs
  rw [LaidOut, here] at rest
  rw [LaidOut, whole]
  refine List.forall_mem_cons.mpr ⟨Or.inl ⟨_, rfl, ?_⟩, rest⟩
  exact (opens.isSolid line).2.append_right _

/-- A closing bracket on a line of its own, at the left edge or not. -/
theorem laidOut_bracket {c : Char} (bracket : c ∈ ['}', ']']) (level : Nat) :
    LaidOut (newLine level ++ [c]) := by
  have other : c ≠ '\n' ∧ c ≠ ' ' ∧ c ≠ '\t' := by
    refine ⟨?_, ?_, ?_⟩ <;>
      (rintro rfl
       exact absurd bracket (by decide))
  obtain ⟨line, rest, here, whole⟩ := lines_newLine other.1 level []
  rw [lines_of_oneLine (by simpa using Ne.symm other.1)] at here
  cases here
  rw [LaidOut, whole]
  refine List.forall_mem_singleton.mpr ?_
  cases level with
  | zero => exact Or.inr ⟨c, [], rfl, List.mem_cons_of_mem _ bracket⟩
  | succ level =>
    refine Or.inl ⟨_, rfl, IsSolid.append_right ?_ _⟩
    exact ⟨c, List.mem_singleton_self c, other.2⟩

/-! ## Values -/

theorem Layout.indented_first (level : Nat) : Layout.indented.first level = newLine (level + 1) :=
  rfl

theorem Layout.indented_next (level : Nat) :
    Layout.indented.next level = ',' :: newLine (level + 1) :=
  rfl

theorem Layout.indented_last (level : Nat) : Layout.indented.last level = newLine level :=
  rfl

theorem oneLine_doubleText (x : Double) : OneLine (doubleText x) := by
  cases x with
  | finite negative m e =>
    obtain ⟨s, found⟩ : ∃ s, (Double.finite negative m e).shortest? = some s := ⟨_, rfl⟩
    have text : doubleText (.finite negative m e) = s := congrArg (Option.getD · "") found
    rw [text]
    exact Double.oneLine_shortest found
  | infinite negative => cases negative <;> decide
  | nan => decide

theorem laidOut_writeString (s : String) : LaidOut (writeString s) :=
  laidOut_of_oneLine (lineFeed_not_mem_of_allVisible (visible_writeString s))

mutual

/-- A value at any level is laid out. -/
theorem laidOut_write (level : Nat) (v : Json) : LaidOut (write .indented level v) := by
  match v with
  | .null => exact laidOut_of_oneLine (by rw [write_null]; decide)
  | .bool true => exact laidOut_of_oneLine (by rw [write_bool]; decide)
  | .bool false => exact laidOut_of_oneLine (by rw [write_bool]; decide)
  | .int n => exact laidOut_of_oneLine (by rw [write_int]; exact oneLine_numeral n)
  | .double x => exact laidOut_of_oneLine (by rw [write_double]; exact oneLine_doubleText x)
  | .str s => rw [write_str]; exact laidOut_writeString s
  | .arr [] => exact laidOut_of_oneLine (by rw [write]; decide)
  | .obj [] => exact laidOut_of_oneLine (by rw [write]; decide)
  | .arr (v :: vs) =>
    have item := laidOut_newLine level (laidOut_write (level + 1) v) (exists_write _ _ v)
    have items := laidOut_writeItems level vs
    have last : LaidOut (newLine level ++ [']']) := laidOut_bracket (by decide) level
    have square : LaidOut ['['] := laidOut_of_oneLine (by decide)
    have whole := square.append ((item.append items).append last)
    simpa only [write, Layout.indented_first, Layout.indented_last, List.append_assoc,
      List.cons_append, List.nil_append] using whole
  | .obj ((k, v) :: fs) =>
    have field := laidOut_field level k v
    have fields := laidOut_writeFields level fs
    have last : LaidOut (newLine level ++ ['}']) := laidOut_bracket (by decide) level
    have curly : LaidOut ['{'] := laidOut_of_oneLine (by decide)
    have whole := curly.append ((field.append fields).append last)
    simpa only [write, Layout.indented_first, Layout.indented_last, List.append_assoc,
      List.cons_append, List.nil_append] using whole

/-- So is a field on a line of its own. -/
theorem laidOut_field (level : Nat) (k : String) (v : Json) :
    LaidOut (newLine (level + 1) ++
      (writeString k ++ ([':', ' '] ++ write .indented (level + 1) v))) := by
  have colon : LaidOut [':', ' '] := laidOut_of_oneLine (by decide)
  have value := colon.append (laidOut_write (level + 1) v)
  exact laidOut_newLine level ((laidOut_writeString k).append value)
    ⟨'"', _, rfl, by simp [Opens, isSpace]⟩

theorem laidOut_writeItems (level : Nat) (vs : List Json) :
    LaidOut (writeItems .indented level vs) := by
  match vs with
  | [] => exact laidOut_of_oneLine (by rw [writeItems]; decide)
  | v :: vs =>
    have item := laidOut_newLine level (laidOut_write (level + 1) v) (exists_write _ _ v)
    have items := laidOut_writeItems level vs
    have comma : LaidOut [','] := laidOut_of_oneLine (by decide)
    have whole := comma.append (item.append items)
    simpa only [writeItems, Layout.indented_next, List.append_assoc, List.cons_append,
      List.nil_append] using whole

theorem laidOut_writeFields (level : Nat) (fs : List (String × Json)) :
    LaidOut (writeFields .indented level fs) := by
  match fs with
  | [] => exact laidOut_of_oneLine (by rw [writeFields]; decide)
  | (k, v) :: fs =>
    have field := laidOut_field level k v
    have fields := laidOut_writeFields level fs
    have comma : LaidOut [','] := laidOut_of_oneLine (by decide)
    have whole := comma.append (field.append fields)
    simpa only [writeFields, Layout.indented_next, List.append_assoc, List.cons_append,
      List.nil_append] using whole

end

/-- No line of an indented object starts otherwise than with a blank or a curly bracket. -/
theorem isInner_indented (fields : List (String × Json)) :
    ∀ l ∈ lines (Json.obj fields).indented.toList, IsInner l := by
  have below := laidOut_write 0 (.obj fields)
  rw [indented, String.toList_ofList]
  obtain ⟨cs, shape⟩ : ∃ cs, write .indented 0 (.obj fields) = '{' :: cs := by
    cases fields with
    | nil => exact ⟨_, by rw [write]⟩
    | cons f fs =>
      obtain ⟨k, v⟩ := f
      exact ⟨_, by rw [write]; rfl⟩
  obtain ⟨line, rest, _, here⟩ := lines_cons (show '{' ≠ '\n' by decide) cs
  rw [shape, LaidOut, here] at below
  rw [shape, here]
  exact List.forall_mem_cons.mpr ⟨Or.inr ⟨'{', line, rfl, by decide⟩, below⟩

end CrashDiff.Json
