import CrashDiff.Proofs.Text.Lines
import CrashDiff.Text.Dedent

/-!
# A text that is not indented

One line at the left edge is enough to keep a text where it is: whatever the other lines are, they
share no indentation with it. What is left of the move to the left is that blank lines are emptied.

Results:
1. `margin_isPrefix`: what all lines share is in front of each of them that is not empty.
2. `dedent_of_edge`, `dedent_intercalate`: a text with a line at the left edge keeps all lines but
   the blank ones.
-/

namespace CrashDiff.Text

variable {l : List Char} {ls : List (List Char)}

/-! ## What texts share -/

theorem sharedStart_isPrefix_left (a b : List Char) : sharedStart a b <+: a := by
  fun_induction sharedStart a b with
  | case1 c as bs ih => exact List.cons_prefix_cons.mpr ⟨rfl, ih⟩
  | case2 => exact List.nil_prefix
  | case3 => exact List.nil_prefix

theorem sharedStart_isPrefix_right (a b : List Char) : sharedStart a b <+: b := by
  fun_induction sharedStart a b with
  | case1 c as bs ih => exact List.cons_prefix_cons.mpr ⟨rfl, ih⟩
  | case2 => exact List.nil_prefix
  | case3 => exact List.nil_prefix

/-- What is shared with all of some texts is in front of the first one and of each other. -/
theorem foldl_sharedStart_isPrefix (first : List Char) (rest : List (List Char)) :
    ∀ a ∈ first :: rest, rest.foldl sharedStart first <+: a := by
  induction rest generalizing first with
  | nil => simp
  | cons b rest ih =>
    obtain ⟨shared, others⟩ := List.forall_mem_cons.mp (ih (sharedStart first b))
    refine List.forall_mem_cons.mpr ⟨shared.trans (sharedStart_isPrefix_left first b), ?_⟩
    exact List.forall_mem_cons.mpr ⟨shared.trans (sharedStart_isPrefix_right first b), others⟩

/-- The margin is in front of each line that is not empty. -/
theorem margin_isPrefix (member : l ∈ ls) (filled : l ≠ []) : margin ls <+: indentOf l := by
  have counted : indentOf l ∈ (ls.filter fun l => l ≠ []).map indentOf :=
    List.mem_map_of_mem (List.mem_filter.mpr ⟨member, by simpa using filled⟩)
  unfold margin
  split
  · exact List.nil_prefix
  · rename_i first rest shape
    rw [shape] at counted
    exact foldl_sharedStart_isPrefix first rest _ counted

/-! ## Lines at the left edge -/

/-- The line starts at the left edge. -/
def AtEdge (l : List Char) : Prop :=
  ∃ c rest, l = c :: rest ∧ c ≠ ' ' ∧ c ≠ '\t'

theorem AtEdge.isSolid (edge : AtEdge l) : IsSolid l := by
  obtain ⟨c, rest, rfl, other⟩ := edge
  exact ⟨c, List.mem_cons_self, other⟩

theorem indentOf_of_edge (edge : AtEdge l) : indentOf l = [] := by
  obtain ⟨c, rest, rfl, space, tab⟩ := edge
  rw [indentOf, List.takeWhile_cons_of_neg (by simp [space, tab])]

/-- Lines share no indentation with one at the left edge. -/
theorem margin_of_edge (edge : AtEdge l) (member : l ∈ ls) : margin ls = [] := by
  have shared := margin_isPrefix member edge.isSolid.ne_nil
  rw [indentOf_of_edge edge] at shared
  exact List.prefix_nil.mp shared

theorem dropMargin_nil (l : List Char) : dropMargin [] l = l := by
  simp [dropMargin]

/-- A text with a line at the left edge only has its blank lines emptied. -/
theorem dedent_of_edge {s : String} (edge : AtEdge l) (member : l ∈ lines s.toList) :
    dedent s = clearBlankLines s := by
  have kept : l ∈ (lines s.toList).map clearLine :=
    List.mem_map.mpr ⟨l, member, clearLine_of_solid edge.isSolid⟩
  have still : dropMargin [] = id := funext dropMargin_nil
  rw [dedent, margin_of_edge edge kept, still, List.map_id, clearBlankLines]

/-- So do texts with line feeds between them, if one of them is a line at the left edge. -/
theorem dedent_intercalate {parts : List String} {part : String} (edge : AtEdge part.toList)
    (single : OneLine part) (member : part ∈ parts) :
    dedent ("\n".intercalate parts) = clearBlankLines ("\n".intercalate parts) := by
  refine dedent_of_edge edge ?_
  rw [lines_intercalate (List.ne_nil_of_mem member)]
  refine List.mem_flatMap.mpr ⟨part, member, ?_⟩
  rw [lines_of_oneLine single]
  exact List.mem_singleton_self _

end CrashDiff.Text
