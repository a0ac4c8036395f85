import CrashDiff.Proofs.Text.OneLine
import CrashDiff.Text.Lines

/-!
# Texts as lines

A line feed between two texts is a border between their lines, and nothing else is. Emptying the
blank lines of a text keeps every other line.

Results:
1. `lines_lineFeed`: the lines of two texts with a line feed between them.
2. `lines_unlines`, `unlines_lines`: a text and its lines determine each other.
3. `lines_append_endedLines`: the lines of a text that ended lines are put behind.
4. `lines_intercalate`: the lines of texts with line feeds between them.
5. `unlines_isInfix`: the text of some lines is in that of more lines around them.
6. `lines_clearBlankLines`: the lines of a text whose blank lines have been emptied.
-/

namespace CrashDiff.Text

variable {l : List Char} {a b : List Char}

/-! ## Lines -/

theorem lines_ne_nil (cs : List Char) : lines cs ≠ [] := by
  cases cs with
  | nil => simp [lines]
  | cons c cs =>
    unfold lines
    split
    · simp
    · split <;> simp

theorem lines_cons {c : Char} (other : c ≠ '\n') (cs : List Char) :
    ∃ first rest, lines cs = first :: rest ∧ lines (c :: cs) = (c :: first) :: rest := by
  obtain ⟨first, rest, shape⟩ := List.exists_cons_of_ne_nil (lines_ne_nil cs)
  exact ⟨first, rest, shape, by simp [lines, other, shape]⟩

/-- A text without a line feed is one line. -/
theorem lines_of_oneLine (single : '\n' ∉ l) : lines l = [l] := by
  induction l with
  | nil => rfl
  | cons c cs ih =>
    obtain ⟨other, later⟩ := not_or.mp (mt List.mem_cons.mpr single)
    obtain ⟨first, rest, shape, here⟩ := lines_cons (Ne.symm other) cs
    rw [ih later] at shape
    cases shape
    exact here

/-- The lines of two texts with a line feed between them are those of both. -/
theorem lines_lineFeed (a b : List Char) : lines (a ++ '\n' :: b) = lines a ++ lines b := by
  induction a with
  | nil => simp [lines]
  | cons c cs ih =>
    by_cases feed : c = '\n'
    · simp [lines, feed, ih]
    · obtain ⟨first, rest, shape, here⟩ := lines_cons feed cs
      rw [shape] at ih
      simp [lines, feed, ih, shape]

/-- No line holds a line feed. -/
theorem oneLine_of_mem_lines {cs : List Char} (member : l ∈ lines cs) : '\n' ∉ l := by
  induction cs generalizing l with
  | nil =>
    rw [List.mem_singleton.mp member]
    exact List.not_mem_nil
  | cons c cs ih =>
    by_cases feed : c = '\n'
    · simp only [lines, feed, if_true, List.mem_cons] at member
      rcases member with rfl | later
      · exact List.not_mem_nil
      · exact ih later
    · obtain ⟨first, rest, shape, here⟩ := lines_cons feed cs
      rw [here] at member
      rw [shape] at ih
      rcases List.mem_cons.mp member with rfl | later
      · exact mt List.mem_cons.mp (not_or.mpr ⟨Ne.symm feed, ih List.mem_cons_self⟩)
      · exact ih (List.mem_cons_of_mem first later)

theorem unlines_lines (cs : List Char) : unlines (lines cs) = cs := by
  induction cs with
  | nil => rfl
  | cons c cs ih =>
    by_cases feed : c = '\n'
    · obtain ⟨first, rest, shape⟩ := List.exists_cons_of_ne_nil (lines_ne_nil cs)
      simp only [lines, feed, if_true]
      rw [shape] at ih ⊢
      rw [unlines, ih, List.nil_append]
      exact List.cons_ne_nil first rest
    · obtain ⟨first, rest, shape, here⟩ := lines_cons feed cs
      rw [here]
      rw [shape] at ih
      cases rest with
      | nil => simpa [unlines] using ih
      | cons next rest => simpa [unlines] using ih

/-- Lines without line feeds in them are the lines of their text. -/
theorem lines_unlines {ls : List (List Char)} (some : ls ≠ []) (single : ∀ l ∈ ls, '\n' ∉ l) :
    lines (unlines ls) = ls := by
  induction ls with
  | nil => exact absurd rfl some
  | cons l ls ih =>
    obtain ⟨here, later⟩ := List.forall_mem_cons.mp single
    cases ls with
    | nil => exact lines_of_oneLine here
    | cons next ls =>
      rw [unlines, lines_lineFeed, lines_of_oneLine here, ih (List.cons_ne_nil next ls) later,
        List.singleton_append]
      exact List.cons_ne_nil next ls

/-! ## Texts next to each other -/

/-- A text without a line feed in front of another one starts its first line. -/
theorem lines_append_of_oneLine (single : '\n' ∉ a) (b : List Char) :
    ∃ first, lines b = first :: (lines b).tail ∧
      lines (a ++ b) = (a ++ first) :: (lines b).tail := by
  obtain ⟨first, rest, shape⟩ := List.exists_cons_of_ne_nil (lines_ne_nil b)
  refine ⟨first, by rw [shape]; rfl, ?_⟩
  rw [shape, List.tail_cons]
  induction a with
  | nil => exact shape
  | cons c a ih =>
    obtain ⟨other, later⟩ := not_or.mp (mt List.mem_cons.mpr single)
    rw [List.cons_append, lines, if_neg (Ne.symm other), ih later]
    rfl

/-- The last line of one text and the first line of the next one become one line. -/
theorem lines_append (a b : List Char) :
    ∃ front last first rest, lines a = front ++ [last] ∧ lines b = first :: rest ∧
      lines (a ++ b) = front ++ (last ++ first) :: rest := by
  obtain ⟨first, rest, shape⟩ := List.exists_cons_of_ne_nil (lines_ne_nil b)
  suffices joined : ∃ front last, lines a = front ++ [last] ∧
      lines (a ++ b) = front ++ (last ++ first) :: rest by
    obtain ⟨front, last, before, whole⟩ := joined
    exact ⟨front, last, first, rest, before, shape, whole⟩
  induction a with
  | nil => exact ⟨[], [], rfl, shape⟩
  | cons c a ih =>
    obtain ⟨front, last, before, whole⟩ := ih
    by_cases feed : c = '\n'
    · exact ⟨[] :: front, last, by simp [lines, feed, before], by simp [lines, feed, whole]⟩
    · cases front with
      | nil => exact ⟨[], c :: last, by simp [lines, feed, before], by simp [lines, feed, whole]⟩
      | cons l front =>
        exact ⟨(c :: l) :: front, last, by simp [lines, feed, before],
          by simp [lines, feed, whole]⟩

theorem unlines_cons_cons (l next : List Char) (ls : List (List Char)) :
    unlines (l :: next :: ls) = l ++ '\n' :: unlines (next :: ls) := by
  rw [unlines]
  exact List.cons_ne_nil next ls

theorem unlines_append {ls more : List (List Char)} (some : ls ≠ []) (others : more ≠ []) :
    unlines (ls ++ more) = unlines ls ++ '\n' :: unlines more := by
  induction ls with
  | nil => exact absurd rfl some
  | cons l ls ih =>
    cases ls with
    | nil =>
      obtain ⟨next, more, rfl⟩ := List.exists_cons_of_ne_nil others
      rfl
    | cons next ls =>
      have rest := ih (List.cons_ne_nil next ls)
      rw [List.cons_append] at rest
      rw [List.cons_append, List.cons_append, unlines_cons_cons, rest, unlines_cons_cons,
        List.append_assoc, List.cons_append]

/-- The text of lines is in that of more lines around them. -/
theorem unlines_isInfix {ls : List (List Char)} (some : ls ≠ []) (front back : List (List Char)) :
    unlines ls <:+: unlines (front ++ (ls ++ back)) := by
  have ended : unlines ls <:+: unlines (ls ++ back) := by
    cases back with
    | nil => exact (List.append_nil ls).symm ▸ List.infix_rfl
    | cons next back =>
      rw [unlines_append some (List.cons_ne_nil next back)]
      exact (List.prefix_append _ _).isInfix
  cases front with
  | nil => exact ended
  | cons first front =>
    rw [unlines_append (List.cons_ne_nil first front) (by simp [some])]
    exact ended.trans ((List.suffix_cons _ _).trans (List.suffix_append _ _)).isInfix

/-! ## Ended lines -/

/-- The text of lines that are each ended by a line feed. -/
def endedLines (ls : List (List Char)) : List Char :=
  ls.flatMap fun l => l ++ ['\n']

theorem lines_endedLines {ls : List (List Char)} (single : ∀ l ∈ ls, '\n' ∉ l) :
    lines (endedLines ls) = ls ++ [[]] := by
  induction ls with
  | nil => rfl
  | cons l ls ih =>
    obtain ⟨here, later⟩ := List.forall_mem_cons.mp single
    have split : endedLines (l :: ls) = l ++ '\n' :: endedLines ls := by
      simp [endedLines]
    rw [split, lines_lineFeed, lines_of_oneLine here, ih later, List.singleton_append,
      List.cons_append]

/-- Ended lines behind a text that does not break off within a line are lines of their own. -/
theorem lines_append_endedLines {old : List Char} (ended : old = [] ∨ ∃ a, old = a ++ ['\n'])
    {ls : List (List Char)} (single : ∀ l ∈ ls, '\n' ∉ l) :
    lines (old ++ endedLines ls) = (lines old).dropLast ++ ls ++ [[]] := by
  rcases ended with rfl | ⟨a, rfl⟩
  · simpa [lines] using lines_endedLines single
  · have last : lines (a ++ ['\n']) = lines a ++ [[]] := lines_lineFeed a []
    rw [List.append_assoc, List.singleton_append, lines_lineFeed, lines_endedLines single, last,
      List.dropLast_concat, List.append_assoc]

/-- The lines of texts with line feeds between them are those of the texts in turn. -/
theorem lines_intercalate {parts : List String} (some : parts ≠ []) :
    lines ("\n".intercalate parts).toList = parts.flatMap fun part => lines part.toList := by
  induction parts with
  | nil => exact absurd rfl some
  | cons part rest ih =>
    cases rest with
    | nil => simp
    | cons next rest =>
      have feed : "\n".toList = ['\n'] := rfl
      rw [String.intercalate_cons_cons, String.toList_append, String.toList_append, feed,
        List.append_assoc, List.singleton_append, lines_lineFeed, ih (List.cons_ne_nil next rest)]
      rfl

theorem flatMap_lines {parts : List String} (single : ∀ part ∈ parts, OneLine part) :
    (parts.flatMap fun part => lines part.toList) = parts.map String.toList := by
  induction parts with
  | nil => rfl
  | cons part rest ih =>
    obtain ⟨here, later⟩ := List.forall_mem_cons.mp single
    rw [List.flatMap_cons, lines_of_oneLine here, ih later, List.singleton_append, List.map_cons]

/-! ## Blank lines -/

/-- The line holds something else than spaces and tabs. -/
def IsSolid (l : List Char) : Prop :=
  ∃ c ∈ l, c ≠ ' ' ∧ c ≠ '\t'

theorem clearLine_of_solid (solid : IsSolid l) : clearLine l = l := by
  obtain ⟨c, member, space, tab⟩ := solid
  have other : ¬ (l.all fun c => decide (c = ' ') || decide (c = '\t')) = true := by
    intro blank
    have both := List.all_eq_true.mp blank c member
    simp [space, tab] at both
  rw [clearLine, if_neg other]

theorem IsSolid.ne_nil (solid : IsSolid l) : l ≠ [] := by
  rintro rfl
  obtain ⟨c, member, _⟩ := solid
  cases member

theorem IsSolid.append_right (solid : IsSolid b) (a : List Char) : IsSolid (a ++ b) := by
  obtain ⟨c, member, other⟩ := solid
  exact ⟨c, List.mem_append_right a member, other⟩

theorem IsSolid.append_left (solid : IsSolid a) (b : List Char) : IsSolid (a ++ b) := by
  obtain ⟨c, member, other⟩ := solid
  exact ⟨c, List.mem_append_left b member, other⟩

theorem clearLine_nil : clearLine [] = [] := rfl

/-- Every line is empty or holds something else than spaces and tabs. -/
def Settled (ls : List (List Char)) : Prop :=
  ∀ l ∈ ls, l = [] ∨ IsSolid l

theorem settled_nil : Settled [] := by
  simp [Settled]

theorem Settled.empty {ls : List (List Char)} (settled : Settled ls) : Settled ([] :: ls) :=
  List.forall_mem_cons.mpr ⟨Or.inl rfl, settled⟩

theorem Settled.cons {ls : List (List Char)} (solid : IsSolid l) (settled : Settled ls) :
    Settled (l :: ls) :=
  List.forall_mem_cons.mpr ⟨Or.inr solid, settled⟩

theorem Settled.append {ls more : List (List Char)} (first : Settled ls) (second : Settled more) :
    Settled (ls ++ more) :=
  List.forall_mem_append.mpr ⟨first, second⟩

/-- Settled lines stay as they are. -/
theorem map_clearLine {ls : List (List Char)} (settled : Settled ls) :
    ls.map clearLine = ls := by
  refine (List.map_congr_left fun l member => ?_).trans (List.map_id' ls)
  rcases settled l member with rfl | solid
  · exact clearLine_nil
  · exact clearLine_of_solid solid

theorem oneLine_clearLine (single : '\n' ∉ l) : '\n' ∉ clearLine l := by
  unfold clearLine
  split
  · exact List.not_mem_nil
  · exact single

/-- Emptying the blank lines of a text acts on each line alone. -/
theorem lines_clearBlankLines (s : String) :
    lines (clearBlankLines s).toList = (lines s.toList).map clearLine := by
  rw [clearBlankLines, String.toList_ofList]
  refine lines_unlines (by simp [lines_ne_nil]) fun l member => ?_
  obtain ⟨line, inside, rfl⟩ := List.mem_map.mp member
  exact oneLine_clearLine (oneLine_of_mem_lines inside)

end CrashDiff.Text
