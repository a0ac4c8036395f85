import CrashDiff.Proofs.Run.Account
import CrashDiff.Run.Metadata

/-!
# The data in a header and in a summary

A header shows the configuration of the run, and a summary the counters and the events, each as an
indented JSON value below a title. The texts above a title can be anything: with lines that look
like titles or like the ends of sections, with blank lines and with indented ones. What is below the
last line that is the title is still the value, for no line of an indented object is a title or
blank, and the move to the left leaves all lines but the blank ones alone.

Results:
1. `belowLast?_of_lines`: what is below the last title.
2. `between?_of_lines`, `below?_of_lines`: how the value there is read.
3. `Header.between?_configuration`: a header holds the configuration.
4. `Summary.below?_stats`, `Summary.below?_events`: a summary holds the counters and the events.
5. `data_undamaged`: what both hold, whatever stands above.
-/

namespace CrashDiff

open Text

/-! ## Reading below a title -/

/-- The lines below the last one that is the title; none if no line is. -/
def Text.belowLast? (title text : String) : Option (List (List Char)) :=
  if title.toList ∈ lines text.toList then
    some ((lines text.toList).reverse.takeWhile fun l => l ≠ title.toList).reverse
  else none

theorem decide_ne_of_not_mem {line : List Char} {ls : List (List Char)} (absent : line ∉ ls) :
    ∀ l ∈ ls, decide (l ≠ line) = true :=
  fun _ member => decide_eq_true fun same => absent (same ▸ member)

/-- What follows the last line that is a title is below it. -/
theorem Text.belowLast?_of_lines {title text : String} {front below : List (List Char)}
    (shape : lines text.toList = front ++ title.toList :: below) (last : title.toList ∉ below) :
    belowLast? title text = some below := by
  have member : title.toList ∈ lines text.toList := by
    simp [shape]
  have others : ∀ l ∈ below.reverse, decide (l ≠ title.toList) = true :=
    decide_ne_of_not_mem (List.mem_reverse.not.mpr last)
  rw [belowLast?, if_pos member, shape]
  simp only [List.reverse_append, List.reverse_cons, List.append_assoc]
  rw [List.takeWhile_append_of_pos others, List.singleton_append,
    List.takeWhile_cons_of_neg (by simp), List.append_nil, List.reverse_reverse]

namespace Json

/-- The value that the lines between the last title and the next line that is `stop` are the text
of. -/
def between? (title stop text : String) : Option Json :=
  match belowLast? title text with
  | none => none
  | some below =>
    if stop.toList ∈ below then ofChars? (unlines (below.takeWhile fun l => l ≠ stop.toList))
    else none

/-- The value that the text below the last title begins with. -/
def below? (title text : String) : Option Json :=
  match belowLast? title text with
  | none => none
  | some below => (readValue ((unlines below).length + 1) (unlines below)).map Prod.fst

variable {title stop text : String} {front below : List (List Char)}
  {fields : List (String × Json)}

/-- No line of an object is a text that starts with something else than a blank or a bracket. -/
theorem not_mem_lines_indented {c : Char} {cs : List Char} (other : c ∉ [' ', '{', '}', ']'])
    (fields : List (String × Json)) : c :: cs ∉ lines (Json.obj fields).indented.toList := by
  intro member
  rcases isInner_indented fields _ member with ⟨rest, same, _⟩ | ⟨d, rest, same, bracket⟩
  · cases same
    exact other (by decide)
  · cases same
    exact other (List.mem_cons_of_mem ' ' bracket)

/-- An object between two lines that no line of it can be is read back. -/
theorem between?_of_lines (whole : fieldsWhole fields = true)
    (shape : lines text.toList = front ++ title.toList ::
      (lines (Json.obj fields).indented.toList ++ stop.toList :: below))
    (last : title.toList ∉ lines (Json.obj fields).indented.toList ++ stop.toList :: below)
    (inside : stop.toList ∉ lines (Json.obj fields).indented.toList) :
    between? title stop text = some (.obj fields) := by
  have others : ∀ l ∈ lines (Json.obj fields).indented.toList,
      decide (l ≠ stop.toList) = true := decide_ne_of_not_mem inside
  have read : ofChars? (Json.obj fields).indented.toList = some (.obj fields) :=
    parse?_indented whole
  rw [between?, belowLast?_of_lines shape last]
  dsimp only
  rw [if_pos (by simp), List.takeWhile_append_of_pos others, List.takeWhile_cons_of_neg (by simp),
    List.append_nil, unlines_lines, read]

/-- An object below a title that no later line is, is read back. -/
theorem below?_of_lines (whole : fieldsWhole fields = true) (some : below ≠ [])
    (shape : lines text.toList = front ++ title.toList ::
      (lines (Json.obj fields).indented.toList ++ below))
    (last : title.toList ∉ lines (Json.obj fields).indented.toList ++ below) :
    below? title text = .some (.obj fields) := by
  have ends : EndsNumber ('\n' :: unlines below) := endsNumber_cons (by decide) _
  have json : (Json.obj fields).indented.toList = write .indented 0 (.obj fields) :=
    String.toList_ofList
  have enough : (write .indented 0 (.obj fields)).length <
      (write .indented 0 (.obj fields) ++ '\n' :: unlines below).length + 1 := by
    rw [List.length_append]
    omega
  have read := readValue_write Layout.loose_indented 0 (.obj fields) whole _ enough ends
  rw [below?, belowLast?_of_lines shape last]
  dsimp only
  rw [unlines_append (lines_ne_nil _) some, unlines_lines, json, read]
  rfl

end Json

/-! ## The header -/

namespace Metadata

variable {s : RunSettings} {facts : HostFacts}

/-- The metadata of a run whose variants have the given versions. -/
def ofVersions (s : RunSettings) (facts : HostFacts) (version : Variant → String) : Json :=
  .obj [("environment", environment facts), ("hardware", hardware facts),
    ("toolchains", .obj (s.execution.variants.map fun v => (v.name, toolchain v (version v)))),
    ("configuration", .obj (configuration s))]

/-- Collected metadata tell a version of each variant. -/
theorem exists_version_of_collect {endings : VersionEndings} {metadata : Json}
    {messages : List Message} (collected : collect s facts endings = (.ok metadata, messages)) :
    ∃ version, metadata = ofVersions s facts version := by
  have distinct : s.execution.candidate.name ≠ s.execution.baseline.name :=
    s.execution_valid.names_distinct.symm
  unfold collect at collected
  simp only [ExecutionSettings.variants, toolchains] at collected
  rcases first : Version.ofEnding s.execution.baseline (endings s.execution.baseline) with
    ⟨f | one, logged⟩
  · rw [first] at collected
    cases collected
  rcases second : Version.ofEnding s.execution.candidate (endings s.execution.candidate) with
    ⟨f | two, more⟩
  · rw [first, second] at collected
    cases collected
  rw [first, second] at collected
  cases collected
  refine ⟨fun v => if v.name = s.execution.baseline.name then one else two, ?_⟩
  simp [ofVersions, ExecutionSettings.variants, distinct]

theorem fieldsWhole_configuration (s : RunSettings) :
    Json.fieldsWhole (configuration s) = true := by
  have args (texts : List String) : Json.areWhole (texts.map .str) = true := by
    induction texts with
    | nil => rfl
    | cons t texts ih => exact ih
  have seed : (optionalInt s.seed).isWhole = true := by
    cases s.seed <;> rfl
  simp [configuration, Json.fieldsWhole, Json.isWhole, args, seed]

theorem isWritable_optionalInt (n : Option Int) :
    (optionalInt n).isWritable = n.all Text.isShort := by
  cases n <;> rfl

theorem isWritable_configuration (s : RunSettings) : (Json.obj (configuration s)).isWritable =
    (Text.isShort s.workers && s.seed.all Text.isShort) := by
  have args (texts : List String) : Json.areWritable (texts.map .str) = true := by
    induction texts with
    | nil => rfl
    | cons t texts ih => exact ih
  simp [configuration, Json.fieldsWritable, Json.isWritable, args, isWritable_optionalInt]

theorem isWritable_hardware (facts : HostFacts) : (hardware facts).isWritable =
    (facts.logicalCores.all Text.isShort && facts.physicalCores.all Text.isShort) := by
  simp [hardware, Json.fieldsWritable, Json.isWritable, isWritable_optionalInt]

end Metadata

namespace Header

/-- The texts that a header is made of below some front, with line feeds between them. -/
def parts (front : String) (s : RunSettings) (facts : HostFacts) : List String :=
  [front, "Configuration:", (Json.obj (Metadata.configuration s)).indented, "Hardware:",
    (Metadata.hardware facts).indented, rule '=', ""]

/-- The header ends with the configuration and the hardware, whatever stands above. -/
theorem exists_assembled (command : List String) (logFile : Option Path) (s : RunSettings)
    (facts : HostFacts) (version : Variant → String) :
    ∃ front, assembled false command logFile (Metadata.ofVersions s facts version) =
      .ok ("\n".intercalate (parts front s facts)) := by
  have title : "\nConfiguration:\n" = "\n" ++ ("Configuration:" ++ "\n") := by decide
  have below : "\nHardware:\n" = "\n" ++ ("Hardware:" ++ "\n") := by decide
  suffices shape : ∃ front, assembled false command logFile (Metadata.ofVersions s facts version) =
      .ok (front ++ "\nConfiguration:\n" ++ (Json.obj (Metadata.configuration s)).indented ++
        "\nHardware:\n" ++ (Metadata.hardware facts).indented ++ "\n" ++ rule '=' ++ "\n") by
    obtain ⟨front, whole⟩ := shape
    refine ⟨front, whole.trans (congrArg _ ?_)⟩
    simp only [parts, String.intercalate_cons_cons, String.intercalate_singleton,
      String.append_assoc, title, below, String.append_empty]
  exact ⟨_, rfl⟩

/-- The lines of a header, from the title of the configuration on, are those of its parts. -/
theorem lines_parts (front : String) (s : RunSettings) (facts : HostFacts) :
    lines (clearBlankLines ("\n".intercalate (parts front s facts))).toList =
      (lines front.toList).map clearLine ++ "Configuration:".toList ::
        (lines (Json.obj (Metadata.configuration s)).indented.toList ++ "Hardware:".toList ::
          (lines (Metadata.hardware facts).indented.toList ++ [(rule '=').toList, []])) := by
  have first : lines "Configuration:".toList = ["Configuration:".toList] :=
    lines_of_oneLine (by decide)
  have second : lines "Hardware:".toList = ["Hardware:".toList] := lines_of_oneLine (by decide)
  have rule : lines (rule '=').toList = [(rule '=').toList] :=
    lines_of_oneLine (oneLine_pushn (by decide) (by decide) 80)
  have empty : lines "".toList = [[]] := rfl
  have settled (fields : List (String × Json)) :
      Settled (lines (Json.obj fields).indented.toList) :=
    fun line member => Or.inr (solid_indented fields line member)
  have hardware : Settled (lines (Metadata.hardware facts).indented.toList) := settled _
  have above : IsSolid "Configuration:".toList := ⟨'C', by decide, by decide⟩
  have between : IsSolid "Hardware:".toList := ⟨'H', by decide, by decide⟩
  rw [lines_clearBlankLines, lines_intercalate (by simp [parts]), parts, List.flatMap_cons,
    List.map_append]
  simp only [List.flatMap_cons, List.flatMap_nil, first, second, rule, empty,
    List.singleton_append, List.append_nil]
  rw [map_clearLine (.cons above ((settled _).append (.cons between (hardware.append
    (.cons Summary.isSolid_rule (.empty settled_nil))))))]

/-- There is a header, with the lines that it was put together from, the blank ones emptied. -/
theorem exists_render (command : List String) (logFile : Option Path) (s : RunSettings)
    (facts : HostFacts) (version : Variant → String) :
    ∃ front, assembled false command logFile (Metadata.ofVersions s facts version) =
        .ok ("\n".intercalate (parts front s facts)) ∧
      render command logFile (Metadata.ofVersions s facts version) =
        .ok (clearBlankLines ("\n".intercalate (parts front s facts))) := by
  obtain ⟨front, whole⟩ := exists_assembled command logFile s facts version
  have edge : AtEdge "Configuration:".toList := ⟨'C', "onfiguration:".toList, by decide⟩
  have still := dedent_intercalate edge (by decide) (show _ ∈ parts front s facts by simp [parts])
  exact ⟨front, whole, by rw [render, whole, ← still]; rfl⟩

/-- Collected metadata make a header. -/
theorem render_of_collect {s : RunSettings} {facts : HostFacts} {endings : VersionEndings}
    {metadata : Json} {messages : List Message}
    (collected : Metadata.collect s facts endings = (.ok metadata, messages))
    (command : List String) (logFile : Option Path) :
    ∃ header, render command logFile metadata = .ok header := by
  obtain ⟨version, rfl⟩ := Metadata.exists_version_of_collect collected
  obtain ⟨front, _, rendered⟩ := exists_render command logFile s facts version
  exact ⟨_, rendered⟩

/-- All numbers in a header can be written. -/
def isShort (s : RunSettings) (facts : HostFacts) : Bool :=
  Text.isShort facts.processId && Text.isShort s.workers && s.seed.all Text.isShort &&
    facts.logicalCores.all Text.isShort && facts.physicalCores.all Text.isShort

theorem written_true (write : Json → String) (v : Json) :
    written true write v = if v.isWritable then .ok (write v) else .error .tooLong := by
  cases writable : v.isWritable <;> simp [written, writable]

/-- A header is written out as it is put together, if its numbers are short enough. -/
theorem assembled_true (command : List String) (logFile : Option Path) (s : RunSettings)
    (facts : HostFacts) (version : Variant → String) :
    assembled true command logFile (Metadata.ofVersions s facts version) =
      if isShort s facts then assembled false command logFile (Metadata.ofVersions s facts version)
      else .error .tooLong := by
  obtain ⟨text, limited, free⟩ : ∃ text : String → String → String → String,
      assembled true command logFile (Metadata.ofVersions s facts version) = (do
        let processId ← written true Json.text (.int facts.processId)
        let configuration ← written true Json.indented (.obj (Metadata.configuration s))
        let hardware ← written true Json.indented (Metadata.hardware facts)
        return text processId configuration hardware) ∧
      assembled false command logFile (Metadata.ofVersions s facts version) =
        .ok (text (Json.int facts.processId).text (Json.obj (Metadata.configuration s)).indented
          (Metadata.hardware facts).indented) :=
    ⟨_, rfl, rfl⟩
  have writable : isShort s facts = ((Json.int facts.processId).isWritable &&
      (Json.obj (Metadata.configuration s)).isWritable &&
      (Metadata.hardware facts).isWritable) := by
    rw [Metadata.isWritable_configuration, Metadata.isWritable_hardware, isShort, Json.isWritable]
    simp only [Bool.and_assoc]
  rw [limited, free, written_true, written_true, written_true, writable]
  cases (Json.int facts.processId).isWritable with
  | false => rfl
  | true =>
    cases (Json.obj (Metadata.configuration s)).isWritable with
    | false => rfl
    | true => cases (Metadata.hardware facts).isWritable <;> rfl

/-- The lines between the last one that is the title of the configuration and the next title are the
text of the configuration. -/
theorem between?_configuration {text : String} {front : List (List Char)} {s : RunSettings}
    {facts : HostFacts} (shape : lines text.toList = front ++ "Configuration:".toList ::
      (lines (Json.obj (Metadata.configuration s)).indented.toList ++ "Hardware:".toList ::
        (lines (Metadata.hardware facts).indented.toList ++ [(rule '=').toList, []]))) :
    Json.between? "Configuration:" "Hardware:" text = some (.obj (Metadata.configuration s)) := by
  have title (fields : List (String × Json)) :
      "Configuration:".toList ∉ lines (Json.obj fields).indented.toList :=
    Json.not_mem_lines_indented (by decide) fields
  have inside : "Hardware:".toList ∉
      lines (Json.obj (Metadata.configuration s)).indented.toList :=
    Json.not_mem_lines_indented (by decide) _
  have hardware : "Configuration:".toList ∉ lines (Metadata.hardware facts).indented.toList :=
    title _
  refine Json.between?_of_lines (Metadata.fieldsWhole_configuration s) shape ?_ inside
  simp only [List.mem_append, List.mem_cons, not_or]
  exact ⟨title _, by decide, hardware, by decide, by decide, List.not_mem_nil⟩

end Header

/-! ## The summary -/

namespace Summary

variable {reason text : String} {duration : Double} {stats events : List (String × Json)}

/-- The counters of the run are below their title. -/
theorem below?_stats (counts : AreCounts stats)
    (rendered : render reason duration stats events = .ok text) :
    Json.below? "--- Run Stats ---" text = some (.obj stats) := by
  obtain ⟨perSecond, shape⟩ := lines_render rendered
  have title : lines "--- Run Stats ---".toList = ["--- Run Stats ---".toList] :=
    lines_of_oneLine (by decide)
  have solid : clearLine "--- Run Stats ---".toList = "--- Run Stats ---".toList := by decide
  have other (fields : List (String × Json)) :
      "--- Run Stats ---".toList ∉ lines (Json.obj fields).indented.toList :=
    Json.not_mem_lines_indented (by decide) fields
  obtain ⟨above, split⟩ : ∃ above, headLines reason duration perSecond =
      above ++ ["--- Run Stats ---"] := ⟨[_, _, _, _, _, _, _, _], rfl⟩
  rw [split, List.flatMap_append, List.flatMap_singleton, title, List.map_append,
    List.append_assoc, List.map_singleton, solid, List.singleton_append] at shape
  refine Json.below?_of_lines (fieldsWhole_of_areCounts counts) (List.cons_ne_nil _ _) shape ?_
  simp only [List.mem_append, List.mem_cons, not_or]
  exact ⟨other _, by decide, by decide, other _, by decide, by decide, List.not_mem_nil⟩

/-- The events are below theirs, in the order of their keys. -/
theorem below?_events (counts : AreCounts events)
    (rendered : render reason duration stats events = .ok text) :
    Json.below? "--- Events ---" text = some (.obj (Json.sortKeys events)) := by
  obtain ⟨perSecond, shape⟩ := lines_render rendered
  have other : "--- Events ---".toList ∉
      lines (Json.obj (Json.sortKeys events)).indented.toList :=
    Json.not_mem_lines_indented (by decide) _
  rw [← List.append_assoc, List.append_cons] at shape
  refine Json.below?_of_lines (fieldsWhole_of_areCounts (areCounts_sortKeys counts))
    (List.cons_ne_nil _ _) shape ?_
  simp only [List.mem_append, List.mem_cons, not_or]
  exact ⟨other, by decide, by decide, List.not_mem_nil⟩

/-- A summary is written out as it is rendered, if it is. -/
theorem render_of_compose (composed : compose reason duration stats events = .ok text) :
    render reason duration stats events = .ok text := by
  unfold compose at composed
  split at composed
  · cases composed
  · rename_i rendered
    split at composed
    · rw [rendered, composed]
    · cases composed

theorem render_of_no_rate (timed : duration.isPositive = true)
    (none : Double.ofInt? (executed stats) = none) :
    render reason duration stats events = .error .tooManyCases := by
  rw [render, assembled, rate, if_pos timed, none]
  rfl

/-- When there is a summary. -/
theorem exists_compose_iff : (∃ text, compose reason duration stats events = .ok text) ↔
    (duration.isPositive = true → (Double.ofInt? (executed stats)).isSome = true) ∧
      Json.fieldsWritable stats = true ∧ Json.fieldsWritable events = true := by
  rw [← Bool.and_eq_true]
  by_cases rated : ∃ perSecond, rate (executed stats) duration = .ok perSecond
  · obtain ⟨perSecond, rated⟩ := rated
    obtain ⟨text, rendered⟩ := exists_render rated reason events
    have told : duration.isPositive = true → (Double.ofInt? (executed stats)).isSome = true := by
      intro timed
      rw [rate, if_pos timed] at rated
      split at rated
      · rename_i found
        rw [found, Option.isSome_some]
      · cases rated
    rw [compose, rendered]
    dsimp only
    split
    · rename_i writable
      exact ⟨fun _ => ⟨told, writable⟩, fun _ => ⟨text, rfl⟩⟩
    · rename_i long
      refine ⟨fun ⟨_, composed⟩ => ?_, fun short => absurd short.2 long⟩
      cases composed
  · have untold : ¬ (duration.isPositive = true →
        (Double.ofInt? (executed stats)).isSome = true) := by
      intro told
      refine rated ?_
      unfold rate
      split
      · rename_i timed
        obtain ⟨n, found⟩ := Option.isSome_iff_exists.mp (told timed)
        rw [found]
        exact ⟨_, rfl⟩
      · exact ⟨_, rfl⟩
    refine ⟨fun ⟨text, composed⟩ => ?_, fun some => absurd some.1 untold⟩
    obtain ⟨perSecond, found, -⟩ := eq_of_render (render_of_compose composed)
    exact absurd ⟨perSecond, found⟩ rated

end Summary

/-! ## Both -/

/-- Headers and summaries carry their data undamaged, whatever the texts are that stand above them.

* There is a header of each run whose numbers have few enough digits. The seven entries of the
  configuration are read back.
* There is a summary of any counts with few enough digits, unless there is a rate to be told and the
  count of executed cases is out of the range of its numbers. The counts are read back, and the
  events in the order of their keys.
* Both have the lines that they were put together from, those made of spaces and tabs alone
  emptied. -/
theorem data_undamaged (s : RunSettings) (facts : HostFacts) (version : Variant → String)
    (command : List String) (logFile : Option Path) (reason : String) (duration : Double)
    {stats events : List (String × Json)} (statCounts : AreCounts stats)
    (eventCounts : AreCounts events) :
    (Header.isShort s facts = true → ∃ whole text,
      Header.assembled true command logFile (Metadata.ofVersions s facts version) = .ok whole ∧
      Header.compose command logFile (Metadata.ofVersions s facts version) = .ok text ∧
      lines text.toList = (lines whole.toList).map clearLine ∧
      Json.between? "Configuration:" "Hardware:" text = some (.obj [
        ("compiler", .str s.execution.compiler),
        ("fixed_args", .arr (s.execution.fixedArgs.map .str)),
        ("scratch_dir", .str s.execution.scratchDir.toText),
        ("workers", .int s.workers),
        ("seed", s.seed.elim .null .int),
        ("parallel_variants", .bool s.execution.parallel),
        ("halt_on_candidate_crash", .bool s.haltOnCandidate)])) ∧
    (Header.isShort s facts = false →
      Header.compose command logFile (Metadata.ofVersions s facts version) = .error .tooLong) ∧
    ((∃ text, Summary.compose reason duration stats events = .ok text) ↔
      (duration.isPositive = true → (Double.ofInt? (Summary.executed stats)).isSome = true) ∧
        Json.fieldsWritable stats = true ∧ Json.fieldsWritable events = true) ∧
    ∀ text, Summary.compose reason duration stats events = .ok text →
      (∃ whole, Summary.assembled reason duration stats events = .ok whole ∧
        lines text.toList = (lines whole.toList).map clearLine) ∧
      Json.below? "--- Run Stats ---" text = some (.obj stats) ∧
      ∃ sorted, Json.below? "--- Events ---" text = some (.obj sorted) ∧ sorted.Perm events ∧
        sorted.Pairwise fun a b => a.1 ≤ b.1 := by
  refine ⟨fun short => ?_, fun long => ?_, Summary.exists_compose_iff, fun text composed => ?_⟩
  · obtain ⟨front, assembled, rendered⟩ := Header.exists_render command logFile s facts version
    have whole := Header.assembled_true command logFile s facts version
    rw [if_pos short] at whole
    refine ⟨_, _, whole.trans assembled, ?_, lines_clearBlankLines _, ?_⟩
    · rw [Header.compose, whole]
      exact rendered
    · rw [Header.between?_configuration (Header.lines_parts front s facts), Metadata.configuration]
      cases s.seed <;> rfl
  · have none := Header.assembled_true command logFile s facts version
    rw [long, if_neg Bool.false_ne_true] at none
    rw [Header.compose, none]
    rfl
  · have rendered := Summary.render_of_compose composed
    exact ⟨Summary.lines_of_assembled rendered, Summary.below?_stats statCounts rendered, _,
      Summary.below?_events eventCounts rendered, Json.sortKeys_perm events,
      Json.pairwise_sortKeys events⟩

/-- A text with lines that look like the titles and the data of a header and of a summary, and with
blank and indented ones. -/
def lookalike : String :=
  "\n\n  Configuration:\nConfiguration:\n\x7b\x7d\nHardware:\n \t\n" ++
    "--- Run Stats ---\n\x7b\x7d\n\n--- Events ---\n\t"

/-- A host with such a name, whose compilers have such versions, in a run that ends for such a
reason. -/
theorem lookalike_undamaged :
    let facts : HostFacts := ⟨lookalike, "Linux", 7, "3.11", "/", some 8, none, 0⟩
    let events : List (String × Json) := [("b", .int 2), ("a", .int (-1))]
    AreCounts ({} : Stats).fields ∧ AreCounts events ∧
      (∃ text, Header.compose [] none (Metadata.ofVersions {} facts fun _ => lookalike) = .ok text ∧
        Json.between? "Configuration:" "Hardware:" text = some (.obj [
          ("compiler", .str "rustc"), ("fixed_args", .arr [.str "--crate-type=lib"]),
          ("scratch_dir", .str "/tmp"), ("workers", .int 10), ("seed", .null),
          ("parallel_variants", .bool false), ("halt_on_candidate_crash", .bool false)])) ∧
      ∃ text, Summary.compose lookalike .zero ({} : Stats).fields events = .ok text ∧
        Json.below? "--- Run Stats ---" text = some (.obj ({} : Stats).fields) := by
  intro facts events
  have counts : AreCounts events := by
    simp [AreCounts, events]
  obtain ⟨header, -, summarized, read⟩ :=
    data_undamaged {} facts (fun _ => lookalike) [] none lookalike .zero
      (Stats.areCounts_fields {}) counts
  obtain ⟨_, text, _, made, _, configuration⟩ := header (by decide)
  obtain ⟨summary, rendered⟩ := summarized.mpr ⟨by decide, by decide, by decide⟩
  exact ⟨Stats.areCounts_fields {}, counts, ⟨text, made, configuration⟩, summary, rendered,
    (read summary rendered).2.1⟩

/-- A count of cases out of the range of the numbers that a rate is told with, and a seed of too
many digits. -/
theorem no_text_of_long_numbers :
    let facts : HostFacts := ⟨"host", "Linux", 7, "3.11", "/", none, none, 0⟩
    Summary.compose "Completed" (.finite false 1 0)
        [("cases_executed", .int (Number.tenTo 400))] [] = .error .tooManyCases ∧
      Header.compose [] none
        (Metadata.ofVersions { seed := some (Number.tenTo Text.maxNumeralDigits) } facts fun _ =>
          "unknown") = .error .tooLong := by
  intro facts
  have untold {n : Int} (large : Double.ofInt? n = none) : Summary.compose "Completed"
      (.finite false 1 0) [("cases_executed", .int n)] [] = .error .tooManyCases := by
    have executed : Double.ofInt? (Summary.executed [("cases_executed", .int n)]) = none := large
    have timed : (Double.finite false 1 0).isPositive = true := by decide
    rw [Summary.compose, Summary.render_of_no_rate timed executed]
  refine ⟨untold (by decide +kernel), ?_⟩
  have whole := Header.assembled_true [] none
    { seed := some (Number.tenTo Text.maxNumeralDigits) } facts fun _ => "unknown"
  have long : Header.isShort { seed := some (Number.tenTo Text.maxNumeralDigits) } facts =
      false := by
    rw [Header.isShort, Option.all_some, Text.isShort_tenTo, Bool.and_false, Bool.false_and,
      Bool.false_and]
  rw [long, if_neg Bool.false_ne_true] at whole
  rw [Header.compose, whole]
  rfl

end CrashDiff
