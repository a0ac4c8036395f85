import CrashDiff.Proofs.Json.Layout
import CrashDiff.Proofs.Number.Range
import CrashDiff.Run.Stats
import CrashDiff.Run.Summary

/-!
# Reading a summary

The summary of a run can be read back: the reason that it gives, if this is a single line, stands
behind its label, and the counters of the run are the JSON text below their title.

Results:
1. `lookup_counter`: where the counter of a verdict stands.
2. `solid_indented`: no line of an object is blank.
3. `lines_render`: the lines of a summary.
4. `isInfix_render`: a summary holds the reason.
5. `reason?_render`, `counters?_render`: what a summary is read as.
-/

namespace CrashDiff

open Text Json

/-! ## Counters -/

/-- The name of the counter of the cases with a verdict. -/
def Verdict.counter : Verdict → String
  | .uninteresting => "uninteresting"
  | .baselineOnly => "baseline_only_crashes"
  | .candidateOnly => "candidate_only_crashes"
  | .bothCrashed => "both_crashed"
  | .unexpectedExit => "unexpected_exits"

theorem Stats.lookup_counter (s : Stats) (v : Verdict) :
    lookup? v.counter s.fields = some (.int (s.count v)) := by
  cases v <;> rfl

/-- The fields are whole numbers under names. -/
def AreCounts (fields : List (String × Json)) : Prop :=
  ∀ f ∈ fields, ∃ n, f.2 = .int n

theorem Stats.areCounts_fields (s : Stats) : AreCounts s.fields := by
  simp [AreCounts, Stats.fields]

theorem fieldsWhole_of_areCounts {fields : List (String × Json)} (counts : AreCounts fields) :
    fieldsWhole fields = true := by
  induction fields with
  | nil => rfl
  | cons f rest ih =>
    obtain ⟨k, v⟩ := f
    obtain ⟨⟨n, rfl⟩, later⟩ := List.forall_mem_cons.mp counts
    exact ih later

/-- No line of an object is blank. -/
theorem solid_indented (fields : List (String × Json)) :
    ∀ line ∈ lines (Json.obj fields).indented.toList, IsSolid line :=
  fun line member => (isInner_indented fields line member).isSolid

/-! ## Sorted entries -/

theorem Json.sortKeys_perm (fields : List (String × Json)) : (sortKeys fields).Perm fields :=
  List.mergeSort_perm _ _

theorem Json.pairwise_sortKeys (fields : List (String × Json)) :
    (sortKeys fields).Pairwise fun a b => a.1 ≤ b.1 := by
  have sorted : (sortKeys fields).Pairwise fun a b => decide (a.1 ≤ b.1) = true :=
    List.pairwise_mergeSort (by simpa using fun a b c => String.le_trans)
      (by simpa using fun a b => String.le_total a b) fields
  exact sorted.imp of_decide_eq_true

/-- Sorted counts are counts. -/
theorem areCounts_sortKeys {fields : List (String × Json)} (counts : AreCounts fields) :
    AreCounts (sortKeys fields) :=
  fun f member => counts f ((sortKeys_perm fields).mem_iff.mp member)

/-! ## The lines of a summary -/

namespace Summary

variable {reason text : String} {duration : Double} {stats events : List (String × Json)}

/-- The lines of a summary above the counters, for a reason on one line. -/
def headLines (reason : String) (duration perSecond : Double) : List String :=
  ["", Header.rule '=', "FUZZING RUN SUMMARY", Header.rule '=',
    "- Termination:       " ++ reason, "- Total Duration:    " ++ duration.fixed 1 ++ "s",
    "- Cases per Second:  " ++ perSecond.fixed 2, "", "--- Run Stats ---"]

/-- The texts that a summary is made of, with line feeds between them. -/
def parts (reason : String) (duration perSecond : Double) (stats events : List (String × Json)) :
    List String :=
  headLines reason duration perSecond ++ [(Json.obj stats).indented, "", "--- Events ---",
    (Json.obj (sortKeys events)).indented, Header.rule '=', ""]

theorem assembled_eq {perSecond : Double} (rated : rate (executed stats) duration = .ok perSecond) :
    assembled reason duration stats events =
      .ok ("\n".intercalate (parts reason duration perSecond stats events)) := by
  have title : "\nFUZZING RUN SUMMARY\n" = "\n" ++ ("FUZZING RUN SUMMARY" ++ "\n") := by decide
  have termination : "\n- Termination:       " = "\n" ++ "- Termination:       " := by decide
  have time : "\n- Total Duration:    " = "\n" ++ "- Total Duration:    " := by decide
  have cases : "\n- Cases per Second:  " = "\n" ++ "- Cases per Second:  " := by decide
  have counters : "\n\n--- Run Stats ---\n" =
      "\n" ++ ("" ++ ("\n" ++ ("--- Run Stats ---" ++ "\n"))) := by decide
  have happened : "\n\n--- Events ---\n" =
      "\n" ++ ("" ++ ("\n" ++ ("--- Events ---" ++ "\n"))) := by decide
  rw [assembled, rated]
  simp only [parts, headLines, List.cons_append, List.nil_append, String.intercalate_cons_cons,
    String.intercalate_singleton, String.append_assoc, title, termination, time, cases, counters,
    happened, String.empty_append, String.append_empty]
  rfl

/-- The rate can be told of fewer cases than two to the power of 1023, whatever the duration. -/
theorem exists_rate {n : Int} (few : n.natAbs < Number.twoTo 1023) (duration : Double) :
    ∃ perSecond, rate n duration = .ok perSecond := by
  obtain ⟨x, nearest⟩ := Double.exists_ofInt? few
  unfold rate
  rw [nearest]
  split
  · exact ⟨_, rfl⟩
  · exact ⟨_, rfl⟩

/-- A summary can be made if the rate of the cases can be told. -/
theorem exists_render {perSecond : Double}
    (rated : rate (executed stats) duration = .ok perSecond) (reason : String)
    (events : List (String × Json)) : ∃ text, render reason duration stats events = .ok text :=
  ⟨_, by rw [render, assembled_eq rated]; rfl⟩

theorem atEdge_rule : AtEdge (Header.rule '=').toList :=
  ⟨'=', List.replicate 79 '=', by decide, by decide⟩

theorem isSolid_rule : IsSolid (Header.rule '=').toList :=
  atEdge_rule.isSolid

/-- A summary has a rule at the left edge, so its blank lines are emptied and the rest is kept. -/
theorem dedent_parts (reason : String) (duration perSecond : Double)
    (stats events : List (String × Json)) :
    dedent ("\n".intercalate (parts reason duration perSecond stats events)) =
      clearBlankLines ("\n".intercalate (parts reason duration perSecond stats events)) := by
  have rule : OneLine (Header.rule '=') := oneLine_pushn (by decide) (by decide) 80
  exact dedent_intercalate atEdge_rule rule (by simp [parts, headLines])

theorem oneLine_headLines (single : OneLine reason) (duration perSecond : Double) :
    ∀ line ∈ headLines reason duration perSecond, OneLine line := by
  have rule : OneLine (Header.rule '=') := oneLine_pushn (by decide) (by decide) 80
  have time := Double.oneLine_fixed 1 duration
  have cases := Double.oneLine_fixed 2 perSecond
  simp only [headLines, List.forall_mem_cons, oneLine_append]
  exact ⟨by decide, rule, by decide, rule, ⟨by decide, single⟩, ⟨⟨by decide, time⟩, by decide⟩,
    ⟨by decide, cases⟩, by decide, by decide, by simp⟩

theorem isSolid_append {label : String} (solid : IsSolid label.toList) (rest : String) :
    IsSolid (label ++ rest).toList := by
  rw [String.toList_append]
  exact solid.append_left _

theorem settled_headLines (reason : String) (duration perSecond : Double) :
    Settled ((headLines reason duration perSecond).map String.toList) := by
  have title : IsSolid "FUZZING RUN SUMMARY".toList := ⟨'F', by decide, by decide⟩
  have termination : IsSolid "- Termination:       ".toList := ⟨'-', by decide, by decide⟩
  have time : IsSolid "- Total Duration:    ".toList := ⟨'-', by decide, by decide⟩
  have cases : IsSolid "- Cases per Second:  ".toList := ⟨'-', by decide, by decide⟩
  have counters : IsSolid "--- Run Stats ---".toList := ⟨'-', by decide, by decide⟩
  exact .empty (.cons isSolid_rule (.cons title (.cons isSolid_rule
    (.cons (isSolid_append termination _) (.cons (isSolid_append (isSolid_append time _) _)
      (.cons (isSolid_append cases _) (.empty (.cons counters settled_nil))))))))

theorem eq_of_render (rendered : render reason duration stats events = .ok text) :
    ∃ perSecond, rate (executed stats) duration = .ok perSecond ∧ text =
      clearBlankLines ("\n".intercalate (parts reason duration perSecond stats events)) := by
  cases rated : rate (executed stats) duration with
  | error e =>
    have failed : render reason duration stats events = .error e := by
      rw [render, assembled, rated]
      rfl
    rw [failed] at rendered
    cases rendered
  | ok perSecond =>
    rw [render, assembled_eq rated] at rendered
    exact ⟨perSecond, rfl, (Except.ok.inj rendered).symm.trans (dedent_parts ..)⟩

/-- Putting the summary in its place empties the blank lines and keeps all others. -/
theorem lines_of_assembled (rendered : render reason duration stats events = .ok text) :
    ∃ whole, assembled reason duration stats events = .ok whole ∧
      lines text.toList = (lines whole.toList).map clearLine := by
  obtain ⟨perSecond, rated, rfl⟩ := eq_of_render rendered
  exact ⟨_, assembled_eq rated, lines_clearBlankLines _⟩

/-- The lines of a summary. Those above the counters depend on how many lines the reason has. -/
theorem lines_render (rendered : render reason duration stats events = .ok text) :
    ∃ perSecond, lines text.toList =
      ((headLines reason duration perSecond).flatMap fun part => lines part.toList).map clearLine ++
        (lines (Json.obj stats).indented.toList ++ [] :: "--- Events ---".toList ::
          (lines (Json.obj (sortKeys events)).indented.toList ++
            [(Header.rule '=').toList, []])) := by
  obtain ⟨perSecond, _, rfl⟩ := eq_of_render rendered
  refine ⟨perSecond, ?_⟩
  have rule : lines (Header.rule '=').toList = [(Header.rule '=').toList] :=
    lines_of_oneLine (oneLine_pushn (by decide) (by decide) 80)
  have below : lines "--- Events ---".toList = ["--- Events ---".toList] :=
    lines_of_oneLine (by decide)
  have empty : lines "".toList = [[]] := rfl
  rw [lines_clearBlankLines, lines_intercalate (by simp [parts, headLines]), parts,
    List.flatMap_append, List.map_append]
  simp only [List.flatMap_cons, List.flatMap_nil, rule, below, empty]
  have title : IsSolid "--- Events ---".toList := ⟨'-', by decide, by decide⟩
  have counters : Settled (lines (Json.obj stats).indented.toList) :=
    fun line member => Or.inr (solid_indented stats line member)
  have happened : Settled (lines (Json.obj (sortKeys events)).indented.toList) :=
    fun line member => Or.inr (solid_indented (sortKeys events) line member)
  exact congrArg _ (map_clearLine (counters.append
    (.empty (.cons title (happened.append (.cons isSolid_rule (.empty settled_nil)))))))

/-- The lines of a summary whose reason is on one line. -/
theorem lines_render_of_oneLine (single : OneLine reason)
    (rendered : render reason duration stats events = .ok text) :
    ∃ perSecond, lines text.toList = (headLines reason duration perSecond).map String.toList ++
      (lines (Json.obj stats).indented.toList ++ [] :: "--- Events ---".toList ::
        (lines (Json.obj (sortKeys events)).indented.toList ++
          [(Header.rule '=').toList, []])) := by
  obtain ⟨perSecond, shape⟩ := lines_render rendered
  rw [flatMap_lines (oneLine_headLines single duration perSecond),
    map_clearLine (settled_headLines reason duration perSecond)] at shape
  exact ⟨perSecond, shape⟩

/-- The reason is in the summary, whatever its first line is, if no other line of it is blank. -/
theorem isInfix_render (settled : Settled (lines reason.toList).tail)
    (rendered : render reason duration stats events = .ok text) :
    reason.toList <:+: text.toList := by
  obtain ⟨perSecond, _, rfl⟩ := eq_of_render rendered
  have label : IsSolid "- Termination:       ".toList := ⟨'-', by decide, by decide⟩
  obtain ⟨first, _, shape⟩ := lines_append_of_oneLine
    (show '\n' ∉ "- Termination:       ".toList by decide) reason.toList
  have kept : (lines ("- Termination:       " ++ reason).toList).map clearLine =
      lines ("- Termination:       " ++ reason).toList := by
    rw [String.toList_append, shape]
    exact map_clearLine (.cons (label.append_left first) settled)
  obtain ⟨front, back, split⟩ : ∃ front back, parts reason duration perSecond stats events =
      front ++ (("- Termination:       " ++ reason) :: back) :=
    ⟨["", Header.rule '=', "FUZZING RUN SUMMARY", Header.rule '='], _, rfl⟩
  have own : ("- Termination:       " ++ reason).toList <:+:
      (clearBlankLines ("\n".intercalate
        (parts reason duration perSecond stats events))).toList := by
    rw [clearBlankLines, String.toList_ofList, lines_intercalate (by simp [parts, headLines]),
      split, List.flatMap_append, List.flatMap_cons, List.map_append, List.map_append, kept]
    have within := unlines_isInfix (lines_ne_nil ("- Termination:       " ++ reason).toList)
      ((front.flatMap fun part => lines part.toList).map clearLine)
      ((back.flatMap fun part => lines part.toList).map clearLine)
    rwa [unlines_lines] at within
  rw [String.toList_append] at own
  exact (List.suffix_append _ _).isInfix.trans own

/-! ## Reading -/

/-- What stands behind a label, in the first line that starts with it. -/
def behind? (label text : String) : Option String :=
  ((lines text.toList).find? fun l => label.toList.isPrefixOf l).map fun l =>
    String.ofList (l.drop label.toList.length)

/-- The lines below a title, up to the next empty line. -/
def below (title text : String) : List (List Char) :=
  (((lines text.toList).dropWhile fun l => l ≠ title.toList).drop 1).takeWhile fun l => l ≠ []

theorem behind?_of_lines {label : String} {front rest : List (List Char)} {value : List Char}
    (others : ∀ l ∈ front, label.toList.isPrefixOf l = false)
    (shape : lines text.toList = front ++ (label.toList ++ value) :: rest) :
    behind? label text = some (String.ofList value) := by
  have here : label.toList.isPrefixOf (label.toList ++ value) = true :=
    List.isPrefixOf_iff_prefix.mpr (List.prefix_append _ _)
  have skipped : front.find? (fun l => label.toList.isPrefixOf l) = none :=
    List.find?_eq_none.mpr fun l member => by simp [others l member]
  rw [behind?, shape, List.find?_append, skipped, Option.none_or, List.find?_cons, here]
  simp

theorem below_of_lines {title : String} {front body rest : List (List Char)}
    (others : ∀ l ∈ front, l ≠ title.toList) (solid : ∀ l ∈ body, IsSolid l)
    (shape : lines text.toList = front ++ title.toList :: (body ++ [] :: rest)) :
    below title text = body := by
  have skipped : ∀ l ∈ front, decide (l ≠ title.toList) = true := by simpa using others
  have filled : ∀ l ∈ body, decide (l ≠ []) = true := by
    simpa using fun l member => (solid l member).ne_nil
  rw [below, shape, List.dropWhile_append_of_pos skipped, List.dropWhile_cons_of_neg (by simp),
    List.drop_one, List.tail_cons, List.takeWhile_append_of_pos filled]
  simp

/-- The reason that a summary gives for the end of the run. -/
def reason? (text : String) : Option String :=
  behind? "- Termination:       " text

/-- The counters of the run in a summary. -/
def counters? (text : String) : Option Json :=
  ofChars? (unlines (below "--- Run Stats ---" text))

/-- The reason is read back. -/
theorem reason?_render (single : OneLine reason)
    (rendered : render reason duration stats events = .ok text) :
    reason? text = some reason := by
  obtain ⟨perSecond, shape⟩ := lines_render_of_oneLine single rendered
  simp only [headLines, List.map_cons, String.toList_append] at shape
  have others : ∀ l ∈ ["".toList, (Header.rule '=').toList, "FUZZING RUN SUMMARY".toList,
      (Header.rule '=').toList], "- Termination:       ".toList.isPrefixOf l = false := by
    decide
  have found := behind?_of_lines others shape
  rwa [String.ofList_toList] at found

/-- The counters are read back. -/
theorem counters?_render (single : OneLine reason) (statCounts : AreCounts stats)
    (rendered : render reason duration stats events = .ok text) :
    counters? text = some (.obj stats) := by
  obtain ⟨perSecond, shape⟩ := lines_render_of_oneLine single rendered
  have others : ∀ l ∈ ((headLines reason duration perSecond).map String.toList).dropLast,
      l ≠ "--- Run Stats ---".toList := by
    have labelled (l : List Char) (blank : l[1]? = some ' ') : l ≠ "--- Run Stats ---".toList := by
      rintro rfl
      revert blank
      decide
    simp only [headLines, List.map_cons, List.map_nil, List.dropLast, List.forall_mem_cons]
    refine ⟨by decide, by decide, by decide, by decide, labelled _ ?_, labelled _ ?_, labelled _ ?_,
      by decide, by simp⟩ <;>
    · simp only [String.toList_append]
      rfl
  have body := below_of_lines others (solid_indented stats) shape
  have whole : ofChars? (Json.obj stats).indented.toList = some (.obj stats) :=
    parse?_indented (fieldsWhole_of_areCounts statCounts)
  rw [counters?, body, unlines_lines, whole]

end Summary

end CrashDiff
