import CrashDiff.Proofs.Files.Changes
import CrashDiff.Proofs.Json.Values
import CrashDiff.Proofs.Run.Recording
import CrashDiff.Proofs.Text.Lines
import Mathlib.Data.List.Basic

/-!
# The trail of events

The event log can be read back, as long as nobody else writes to it. Each event is one line of
visible characters behind what was there before, and the line is the JSON text of what the event
tells: its time, its category and name, and the values that it was entered with. So the counts of
the events can be made again from the lines alone.

Results:
1. `append_of_textAt?`: what an addition to an open file leaves in it.
2. `mem_addAll_iff`: the counts of a list of keys.
3. `enter_of_textAt?`, `enterAll_of_textAt?`: one event, and a run of events.
4. `trail_enterAll`: the trail that a run of events leaves, and what it is read as.
-/

namespace CrashDiff

open FileSystem

/-! ## Open files -/

namespace FileSystem

variable {p : Path} {fs : FileSystem} {old : String}

/-- The text behind which an addition at a path is put; empty if the file is yet to be made, and
nothing if it cannot be opened. -/
def textAt? (p : Path) (fs : FileSystem) : Option String :=
  if hasNull p then none
  else
    match fs.locateFile p with
    | .error _ => none
    | .ok l => some ((fs.contents? l).getD "")

theorem textAt?_eq_some : textAt? p fs = some old ↔
    hasNull p = false ∧ ∃ l, fs.locateFile p = .ok l ∧ (fs.contents? l).getD "" = old := by
  unfold textAt?
  cases null : hasNull p with
  | true => simp
  | false =>
    cases located : fs.locateFile p with
    | error e => simp
    | ok l => simp

/-- An addition to a file that can be opened succeeds, and the file can be opened again. -/
theorem append_of_textAt? (opens : textAt? p fs = some old) (text : String) :
    ∃ fs', append p text fs = (.ok (), fs') ∧ textAt? p fs' = some (old ++ text) := by
  obtain ⟨noNull, l, located, rfl⟩ := textAt?_eq_some.mp opens
  obtain ⟨place, other⟩ := locateFile_eq_ok.mp located
  generalize whole : (fs.contents? l).getD "" ++ text = after
  have entry : (fs.put l (.file after)).lookup l = some (.file after) :=
    lookup_put_self (ne_nil_of_not_directory other)
  have again : (fs.put l (.file after)).locateFile p = .ok l :=
    locateFile_eq_ok.mpr ⟨(SameTree.put_file other after).isPlace place, by simp [entry]⟩
  refine ⟨fs.put l (.file after), by simp [append, noNull, located, whole], ?_⟩
  refine textAt?_eq_some.mpr ⟨noNull, l, again, ?_⟩
  rw [contents?_eq_some.mpr entry, Option.getD_some]

end FileSystem

/-! ## Counts of keys -/

namespace EventCounts

variable {counts : EventCounts}

/-- Counts events one after the other, by their keys. -/
def addAll (keys : List String) (counts : EventCounts) : EventCounts :=
  keys.foldl (fun counts key => counts.add key) counts

/-- Every key stands once, with a count that is not zero. -/
structure IsTally (counts : EventCounts) : Prop where
  distinct : (counts.map Prod.fst).Nodup
  positive : ∀ e ∈ counts, 0 < e.2

theorem keys_add (key : String) (counts : EventCounts) : (counts.add key).map Prod.fst =
    if key ∈ counts.map Prod.fst then counts.map Prod.fst
    else counts.map Prod.fst ++ [key] := by
  induction counts with
  | nil => rfl
  | cons e rest ih =>
    obtain ⟨k, n⟩ := e
    by_cases here : k = key
    · simp [add, here]
    · have other : key ≠ k := Ne.symm here
      by_cases later : key ∈ rest.map Prod.fst
      · rw [if_pos later] at ih
        simp only [add, here, if_false, List.map_cons, ih, List.mem_cons, other, false_or, later,
          if_true]
      · rw [if_neg later] at ih
        simp only [add, here, if_false, List.map_cons, ih, List.mem_cons, other, false_or, later,
          List.cons_append]

theorem IsTally.add (tally : counts.IsTally) (key : String) : (counts.add key).IsTally where
  distinct := by
    rw [keys_add]
    split
    · exact tally.distinct
    · rename_i fresh
      exact List.nodup_append.mpr ⟨tally.distinct, by simp,
        fun k before k' last => by
          rw [List.mem_singleton.mp last]
          rintro rfl
          exact fresh before⟩
  positive := by
    have all := tally.positive
    clear tally
    induction counts with
    | nil => simp [EventCounts.add]
    | cons e rest ih =>
      obtain ⟨k, n⟩ := e
      obtain ⟨first, later⟩ := List.forall_mem_cons.mp all
      unfold EventCounts.add
      split
      · exact List.forall_mem_cons.mpr ⟨Nat.succ_pos n, later⟩
      · exact List.forall_mem_cons.mpr ⟨first, ih later⟩

/-- What stands in counts is what they count. -/
theorem IsTally.mem_iff (tally : counts.IsTally) (key : String) (n : Nat) :
    (key, n) ∈ counts ↔ 0 < n ∧ counts.count key = n := by
  induction counts with
  | nil =>
    simp only [List.not_mem_nil, count, false_iff, not_and]
    omega
  | cons e rest ih =>
    obtain ⟨k, m⟩ := e
    obtain ⟨fresh, distinct⟩ := List.nodup_cons.mp tally.distinct
    obtain ⟨first, positive⟩ := List.forall_mem_cons.mp tally.positive
    by_cases here : k = key
    · subst here
      have single : ∀ n, (k, n) ∉ rest := fun n member =>
        fresh (List.mem_map.mpr ⟨(k, n), member, rfl⟩)
      simp only [List.mem_cons, Prod.mk.injEq, true_and, single, or_false, count, if_true]
      constructor
      · rintro rfl
        exact ⟨first, rfl⟩
      · rintro ⟨_, rfl⟩
        rfl
    · simp only [List.mem_cons, Prod.mk.injEq, Ne.symm here, false_and, false_or, count, here,
        if_false]
      exact ih ⟨distinct, positive⟩

theorem IsTally.addAll (tally : counts.IsTally) (keys : List String) :
    (counts.addAll keys).IsTally := by
  induction keys generalizing counts with
  | nil => exact tally
  | cons key keys ih => exact ih (tally.add key)

theorem count_addAll (keys : List String) (key : String) (counts : EventCounts) :
    (counts.addAll keys).count key = counts.count key + keys.count key := by
  induction keys generalizing counts with
  | nil => rfl
  | cons first keys ih =>
    have step : counts.addAll (first :: keys) = (counts.add first).addAll keys := rfl
    rw [step, ih, count_add, List.count_cons, Nat.add_assoc, Nat.add_comm (keys.count key)]
    simp

theorem isTally_nil : IsTally [] :=
  ⟨List.nodup_nil, by simp⟩

/-- A key stands in the counts of keys with the number of its occurrences, if it occurs. -/
theorem mem_addAll_iff (keys : List String) (key : String) (n : Nat) :
    (key, n) ∈ addAll keys [] ↔ 0 < n ∧ keys.count key = n := by
  rw [(isTally_nil.addAll keys).mem_iff, count_addAll]
  simp [count]

end EventCounts

/-! ## Events -/

namespace Event

/-- What the record of an event is read as: the time, the category and the name, and the values that
the event was entered with. Events of other kinds are left out. -/
def told (time : String) : Event → Option (List (String × Json))
  | .oneSidedCrash variant identifier path =>
    some [("ts", .str time), ("cat", .str "finding"), ("event", .str "one_sided_crash"),
      ("variant", .str variant), ("case_id", .int identifier), ("path", .str path.toText)]
  | .bothCrashed identifier path =>
    some [("ts", .str time), ("cat", .str "finding"), ("event", .str "both_crashed"),
      ("case_id", .int identifier), ("path", .str path.toText)]
  | .unexpectedExit variant (some code) identifier path =>
    some [("ts", .str time), ("cat", .str "execution"), ("event", .str "unexpected_exit"),
      ("variant", .str variant), ("returncode", .int code), ("case_id", .int identifier),
      ("path", .str path.toText)]
  | .unexpectedExit variant none identifier path =>
    some [("ts", .str time), ("cat", .str "execution"), ("event", .str "unexpected_exit"),
      ("variant", .str variant), ("returncode", .null), ("case_id", .int identifier),
      ("path", .str path.toText)]
  | .infrastructureError worker error =>
    some [("ts", .str time), ("cat", .str "execution"), ("event", .str "infrastructure_error"),
      ("worker_id", .int worker), ("error", .str error)]
  | .other .. => none

/-- All whole numbers of the event can be written. -/
def isShort : Event → Bool
  | .oneSidedCrash _ identifier _ | .bothCrashed identifier _ => Text.isShort identifier
  | .unexpectedExit _ none identifier _ => Text.isShort identifier
  | .unexpectedExit _ (some code) identifier _ => Text.isShort code && Text.isShort identifier
  | .infrastructureError worker _ => Text.isShort worker
  | .other _ _ fields => Json.fieldsWritable fields

/-- The key under which a record that was read is counted. -/
def keyOf? (record : Json) : Option String :=
  match record.get? "cat", record.get? "event" with
  | some (.str category), some (.str name) => some (category ++ "." ++ name)
  | _, _ => none

variable {e : Event} {time : String} {fields : List (String × Json)}

/-- No value of an event takes the place of the time, the category or the name. -/
theorem record_of_told (tells : e.told time = some fields) : e.record time = .obj fields := by
  cases e with
  | other => cases tells
  | unexpectedExit variant code identifier path =>
    cases code <;> · cases tells; rfl
  | oneSidedCrash | bothCrashed | infrastructureError =>
    cases tells
    rfl

theorem keyOf?_of_told (tells : e.told time = some fields) : keyOf? (.obj fields) = some e.key := by
  cases e with
  | other => cases tells
  | unexpectedExit variant code identifier path =>
    cases code <;> · cases tells; rfl
  | oneSidedCrash | bothCrashed | infrastructureError =>
    cases tells
    rfl

theorem isWhole_of_told (tells : e.told time = some fields) :
    (Json.obj fields).isWhole = true := by
  cases e with
  | other => cases tells
  | unexpectedExit variant code identifier path =>
    cases code <;> · cases tells; rfl
  | oneSidedCrash | bothCrashed | infrastructureError =>
    cases tells
    rfl

/-- The record of an event can be written if the numbers of the event can. -/
theorem isWritable_of_told (tells : e.told time = some fields) :
    (Json.obj fields).isWritable = e.isShort := by
  cases e with
  | other => cases tells
  | unexpectedExit variant code identifier path =>
    cases code <;> · cases tells; simp [Json.isWritable, Json.fieldsWritable, isShort]
  | oneSidedCrash | bothCrashed | infrastructureError =>
    cases tells
    simp [Json.isWritable, Json.fieldsWritable, isShort]

/-- The line of an event is read as what the event tells. -/
theorem parse?_record (tells : e.told time = some fields) :
    Json.parse? (e.record time).compact = some (.obj fields) := by
  rw [record_of_told tells, Json.parse?_compact (isWhole_of_told tells)]

end Event

/-! ## Runs of events -/

/-- An event, the time it is entered at, and what happens to the files before that. -/
structure Recording where
  event : Event
  time : String
  since : FileSystem → FileSystem

namespace Recording

/-- The text of the line of a recording. -/
def text (r : Recording) : String :=
  (r.event.record r.time).compact

/-- What the line of a recording is read as. -/
def told (r : Recording) : Option (List (String × Json)) :=
  r.event.told r.time

end Recording

namespace EventLog

variable {path : Path} {log : EventLog} {fs : FileSystem} {old time : String}

/-- Enters events one after the other; a failure does not keep the next one from being entered. -/
def enterAll : List Recording → EventLog → FileSystem →
    List (Except Failure Unit) × EventLog × FileSystem
  | [], log, fs => ([], log, fs)
  | r :: rs, log, fs =>
    let (answer, log, fs) := log.enter r.time r.event (r.since fs)
    let (answers, log, fs) := enterAll rs log fs
    (answer :: answers, log, fs)

/-- What happens between the recordings leaves the text of a file as it is, and leaves it open to
additions. -/
def Undisturbed (path : Path) : List Recording → EventLog → FileSystem → Prop
  | [], _, _ => True
  | r :: rs, log, fs =>
    textAt? path (r.since fs) = textAt? path fs ∧
      Undisturbed path rs (log.enter r.time r.event (r.since fs)).2.1
        (log.enter r.time r.event (r.since fs)).2.2

/-- An event goes behind the text of the log, and is counted. -/
theorem enter_of_textAt? (logs : log.path = some path) (opens : textAt? path fs = some old)
    {e : Event} (writable : (e.record time).isWritable = true) :
    ∃ fs', log.enter time e fs = (.ok (), { log with counts := log.counts.add e.key }, fs') ∧
      textAt? path fs' = some (old ++ e.line time) := by
  obtain ⟨fs', appended, text⟩ := append_of_textAt? opens (e.line time)
  exact ⟨fs', by simp [enter, record, writeLine, logs, writable, appended], text⟩

/-- An event with a number that is too long is lost, although the log has been opened. -/
theorem enter_of_not_writable (logs : log.path = some path) (opens : textAt? path fs = some old)
    {e : Event} (long : (e.record time).isWritable = false) :
    ∃ fs', log.enter time e fs = (.error .tooLong, log, fs') ∧ textAt? path fs' = some old := by
  obtain ⟨fs', appended, text⟩ := append_of_textAt? opens ""
  exact ⟨fs', by simp [enter, logs, long, appended], by rw [text, String.append_empty]⟩

/-- A run of events puts their lines behind the text of the log, one for each, and counts them. -/
theorem enterAll_of_textAt? {rs : List Recording} (logs : log.path = some path)
    (opens : textAt? path fs = some old) (undisturbed : Undisturbed path rs log fs)
    (writable : ∀ r ∈ rs, (r.event.record r.time).isWritable = true) :
    ∃ fs', enterAll rs log fs = (rs.map fun _ => .ok (),
        { log with counts := log.counts.addAll (rs.map fun r => r.event.key) }, fs') ∧
      textAt? path fs' = some (old ++ String.join (rs.map fun r => r.text ++ "\n")) := by
  induction rs generalizing log fs old with
  | nil => exact ⟨fs, rfl, by simpa using opens⟩
  | cons r rs ih =>
    obtain ⟨calm, later⟩ := undisturbed
    obtain ⟨fs₁, first, text⟩ :=
      enter_of_textAt? logs (calm.trans opens) (writable r List.mem_cons_self)
    rw [first] at later
    have counted : ({ log with counts := log.counts.add r.event.key } : EventLog).path =
        some path := logs
    obtain ⟨fs₂, rest, whole⟩ :=
      ih counted text later fun s member => writable s (List.mem_cons_of_mem r member)
    refine ⟨fs₂, ?_, ?_⟩
    · simp only [enterAll, first, rest]
      rfl
    · rw [whole, List.map_cons, String.join_cons, String.append_assoc]
      rfl

/-- The trail that recordings leave behind an old text: the lines, and what they are read as. -/
structure IsTrail (old : String) (rs : List Recording) (log : EventLog) (text : String)
    (lines : List String) : Prop where
  /-- The lines stand behind the old text, each ended by a line feed. -/
  behind : text = old ++ String.join (lines.map fun line => line ++ "\n")
  /-- They are lines of their own in the whole text. -/
  framed : Text.lines text.toList =
    (Text.lines old.toList).dropLast ++ lines.map String.toList ++ [[]]
  /-- They are made of visible characters. -/
  visible : ∀ line ∈ lines, Json.AllVisible line.toList
  /-- The lines are read as what the recordings tell, in their order. -/
  decoded : lines.map Json.parse? = rs.map fun r => r.told.map Json.obj
  /-- A key is counted once. -/
  distinct : (log.counts.map Prod.fst).Nodup
  /-- The counts are those of the keys that are read. -/
  counted : ∀ key n, (key, n) ∈ log.counts ↔ 0 < n ∧
    (lines.filterMap fun line => (Json.parse? line).bind Event.keyOf?).count key = n

theorem toList_join_ended (lines : List String) :
    (String.join (lines.map fun line => line ++ "\n")).toList =
      Text.endedLines (lines.map String.toList) := by
  simp [Text.endedLines, String.toList_join, List.flatMap_map]

/-- Events that are entered one after the other, on a log that can be opened and whose text does
not break off within a line, are all taken, if they are of the four kinds and their numbers have few
enough digits. Their trail stands behind the old text, and is read as what they tell. -/
theorem trail_enterAll {rs : List Recording} (opens : textAt? path fs = some old)
    (ended : old = "" ∨ ∃ before, old = before ++ "\n")
    (undisturbed : Undisturbed path rs { path := some path } fs)
    (tells : ∀ r ∈ rs, r.told.isSome = true) (short : ∀ r ∈ rs, r.event.isShort = true) :
    ∃ log fs' text lines,
      enterAll rs { path := some path } fs = (rs.map fun _ => .ok (), log, fs') ∧
        textAt? path fs' = some text ∧ IsTrail old rs log text lines := by
  have writable : ∀ r ∈ rs, (r.event.record r.time).isWritable = true := by
    intro r inside
    obtain ⟨fields, told⟩ := Option.isSome_iff_exists.mp (tells r inside)
    rw [Event.record_of_told told, Event.isWritable_of_told told, short r inside]
  obtain ⟨fs', entered, text⟩ := enterAll_of_textAt? rfl opens undisturbed writable
  refine ⟨_, fs', _, rs.map Recording.text, entered, text, ?_⟩
  have read : ∀ r ∈ rs, Json.parse? r.text = r.told.map Json.obj := by
    intro r inside
    obtain ⟨fields, told⟩ := Option.isSome_iff_exists.mp (tells r inside)
    rw [Recording.text, Event.parse?_record told, told, Option.map_some]
  have visible : ∀ line ∈ rs.map Recording.text, Json.AllVisible line.toList := by
    intro line member
    obtain ⟨r, inside, rfl⟩ := List.mem_map.mp member
    obtain ⟨fields, told⟩ := Option.isSome_iff_exists.mp (tells r inside)
    rw [Recording.text, Event.record_of_told told]
    exact Json.allVisible_compact (Event.isWhole_of_told told)
  have keys : ((rs.map Recording.text).filterMap fun line => (Json.parse? line).bind Event.keyOf?) =
      rs.map fun r => r.event.key := by
    rw [List.filterMap_map, ← List.filterMap_eq_map]
    refine List.filterMap_congr fun r inside => ?_
    obtain ⟨fields, told⟩ := Option.isSome_iff_exists.mp (tells r inside)
    simp only [Function.comp_apply, read r inside, told, Option.map_some, Option.bind_some,
      Event.keyOf?_of_told told]
  have feedless : ∀ l ∈ (rs.map Recording.text).map String.toList, '\n' ∉ l := by
    intro l member
    obtain ⟨line, inside, rfl⟩ := List.mem_map.mp member
    exact Json.lineFeed_not_mem_of_allVisible (visible line inside)
  exact {
    behind := by rw [List.map_map]; rfl
    framed := by
      have ends : old.toList = [] ∨ ∃ a, old.toList = a ++ ['\n'] := by
        rcases ended with rfl | ⟨before, rfl⟩
        · exact Or.inl rfl
        · exact Or.inr ⟨before.toList, String.toList_append⟩
      have whole := toList_join_ended (rs.map Recording.text)
      rw [List.map_map] at whole
      rw [String.toList_append]
      exact (congrArg (fun added => Text.lines (old.toList ++ added)) whole).trans
        (Text.lines_append_endedLines ends feedless)
    visible := visible
    decoded := by rw [List.map_map]; exact List.map_congr_left read
    distinct := (EventCounts.isTally_nil.addAll _).distinct
    counted := fun key n => by
      rw [keys]
      exact EventCounts.mem_addAll_iff _ key n }

/-- Another file is made before the first of two events; their texts hold a quotation mark, a line
feed and a character behind the basic plane. -/
theorem trail_of_two_events :
    ∃ log fs' text lines,
      enterAll
          [⟨.unexpectedExit "a\"b" none (-7) ⟨.root, ["\n.rs"]⟩, "t",
              fun fs => fs.put ["other"] (.file "")⟩,
            ⟨.infrastructureError 0 "𝄞", "u", id⟩]
          { path := some ⟨.root, ["log"]⟩ } ⟨[(["log"], .file "old\n")], []⟩ =
        ([.ok (), .ok ()], log, fs') ∧
      textAt? ⟨.root, ["log"]⟩ fs' = some text ∧
      IsTrail "old\n"
        [⟨.unexpectedExit "a\"b" none (-7) ⟨.root, ["\n.rs"]⟩, "t",
            fun fs => fs.put ["other"] (.file "")⟩,
          ⟨.infrastructureError 0 "𝄞", "u", id⟩] log text lines :=
  trail_enterAll (by decide) (Or.inr ⟨"old", by decide⟩) ⟨by decide, rfl, trivial⟩ (by decide)
    (by decide)

/-- Somebody removes the log between two events. It can be opened both times, and both are counted,
but only the line of the second one is left. And an event with an identifier of too many digits is
lost. -/
theorem untold_of_removed_log :
    (∃ log fs',
      enterAll
          [⟨.bothCrashed 0 ⟨.root, []⟩, "t", id⟩,
            ⟨.bothCrashed 1 ⟨.root, []⟩, "u", fun fs => fs.erase ["log"]⟩]
          { path := some ⟨.root, ["log"]⟩ } ⟨[], []⟩ = ([.ok (), .ok ()], log, fs') ∧
        log.counts = [("finding.both_crashed", 2)] ∧
        textAt? ⟨.root, ["log"]⟩ fs' = some ((Event.bothCrashed 1 ⟨.root, []⟩).line "u")) ∧
      ∃ fs', enter "t" (.bothCrashed (Number.tenTo Text.maxNumeralDigits) ⟨.root, []⟩)
          { path := some ⟨.root, ["log"]⟩ } ⟨[], []⟩ =
        (.error .tooLong, { path := some ⟨.root, ["log"]⟩ }, fs') := by
  refine ⟨⟨_, _, rfl, rfl, by decide +kernel⟩, ?_⟩
  have long {n : Int} (long : Text.isShort n = false) :
      ((Event.bothCrashed n ⟨.root, []⟩).record "t").isWritable = false := by
    have told : (Event.bothCrashed n ⟨.root, []⟩).told "t" = some _ := rfl
    rw [Event.record_of_told told, Event.isWritable_of_told told]
    exact long
  have logs : ({ path := some ⟨.root, ["log"]⟩ } : EventLog).path = some ⟨.root, ["log"]⟩ := rfl
  have opens : textAt? ⟨.root, ["log"]⟩ ⟨[], []⟩ = some "" := by decide
  obtain ⟨fs', entered, -⟩ := enter_of_not_writable logs opens (long Text.isShort_tenTo)
  exact ⟨fs', entered⟩

end EventLog

end CrashDiff
