import CrashDiff.Proofs.Run.Output
import CrashDiff.Proofs.Run.Schedule

/-!
# Findings

The file of a case is there after its call if the case was worth a look or could not be judged. No
other call of the pool touches it. But the cases of every pool are numbered from zero, so a pool
overwrites what another one has left in the same scratch directory.

Results:
1. `Iteration.lookup_after`: what a call leaves at the place of its file.
2. `files_of_clear`: in a scratch directory without files of cases, a schedule leaves exactly the
   files of the cases that are worth a look or could not be judged.
3. `contents_play_iff`: when a file that was there before survives a schedule.
-/

namespace CrashDiff

open FileSystem

/-- Whether the case is worth a look, or could not be judged. -/
def Fate.retains : Fate → Bool
  | .unstaged _ => false
  | .unrun _ => true
  | .judged result => result.verdict ≠ .uninteresting

namespace Iteration

variable {σ : Type} [DrawSource σ]

/-- Whether no child of the call removes the file of the case. -/
def undisturbed (i : Iteration σ) : Bool :=
  i.launches.all fun s => !(i.turn.children i.case s.variant).removesSource

/-- Whether the call leaves the file of its case. -/
def keeps (i : Iteration σ) : Bool :=
  i.undisturbed && i.fate.retains

theorem retains_of_worthy (i : Iteration σ) {result : DualResult}
    (judged : i.fate = .judged result) (worthy : result.verdict ≠ .uninteresting) :
    i.fate.retains = true := by
  rw [judged]
  simpa [Fate.retains] using worthy

theorem retains_of_dull (i : Iteration σ) {result : DualResult}
    (judged : i.fate = .judged result) (dull : result.verdict = .uninteresting) :
    i.fate.retains = false := by
  rw [judged]
  simpa [Fate.retains] using dull

variable {i : Iteration σ} {l : Location}

/-! ## The file of the case during its call -/

/-- The files after both variants have run: that of the case has been written, and removed again if
some child removes it. -/
theorem files_executed (noNull : hasNull i.case.path = false)
    (place : i.before.host.files.IsPlace i.case.path l)
    (other : i.before.host.files.lookup l ≠ some .directory) :
    (i.before.executed i.turn.children i.turn.worker).host.files =
      if i.undisturbed then i.before.host.files.put l (.file i.case.source)
      else i.before.host.files.erase l := by
  obtain ⟨stages, staged⟩ :=
    Pool.staged_of_isPlace i.turn.children noNull place other
  have written : (i.before.staged i.turn.worker).host.files =
      i.before.host.files.put l (.file i.case.source) := congrArg Host.files staged
  have executed : i.before.executed i.turn.children i.turn.worker =
    ((i.before.staged i.turn.worker).execute i.turn.children i.case).2 := rfl
  rw [executed, undisturbed, launches_of_staged stages]
  split
  · rename_i all
    have keeps := fun s started => by simpa using List.all_eq_true.mp all s started
    rw [Pool.files_execute_of_keeping keeps, written]
  · rename_i notAll
    have removes : ∃ s ∈ (i.before.staged i.turn.worker).launches i.turn.children i.case,
        (i.turn.children i.case s.variant).removesSource = true := by
      simpa using notAll
    have place' : (i.before.staged i.turn.worker).host.files.IsPlace i.case.path l :=
      (Pool.confined_staged _ _).isPlace_iff.mpr place
    have file : (i.before.staged i.turn.worker).host.files.lookup l =
        some (.file i.case.source) := by
      rw [written]
      exact lookup_put_self (ne_nil_of_not_directory other)
    rw [Pool.files_execute_of_removing noNull place' file removes, written, erase_put]

/-- What a call leaves at the place of its file. -/
theorem lookup_after (sound : i.before.Sound) (noNull : hasNull i.case.path = false)
    (place : i.before.host.files.IsPlace i.case.path l)
    (other : i.before.host.files.lookup l ≠ some .directory)
    (noTranscript : ¬ i.before.host.LogsAt l) (noLog : ¬ i.before.RecordsAt l) :
    i.after.host.files.lookup l = if i.keeps then some (.file i.case.source) else none := by
  have below := ne_nil_of_not_directory other
  have executed : (i.before.executed i.turn.children i.turn.worker).host.files.lookup l =
      if i.undisturbed then some (.file i.case.source) else none := by
    rw [files_executed noNull place other]
    split
    · exact lookup_put_self below
    · exact lookup_erase_self below
  have stages := (Pool.staged_of_isPlace i.turn.children noNull place other).1
  have counted (result : DualResult) :=
    Pool.confined_counted i.turn.children i.turn.worker result i.before
  have silent {q : Pool σ} (before : Pool.Confined (fun _ => True) i.before q) (n : Notice) :
      (q.notify n).host.files.lookup l = q.host.files.lookup l :=
    (Pool.confined_notify n (before.sound sound)).elsewhere l fun logs =>
      noTranscript (before.transcript l logs)
  have discarded (result : DualResult) :
      (i.before.discarded i.turn.children i.turn.worker result).2.host.files.lookup l = none :=
    Pool.lookup_removeFile noNull ((counted result).isPlace_iff.mpr place)
      fun directory => other (((counted result).tree.directory_iff l).mp directory)
  have recorded (result : DualResult) :
      (i.before.recorded i.turn.children i.turn.worker result).2.host.files.lookup l =
        if i.undisturbed then some (.file i.case.source) else none := by
    rw [← executed]
    exact (Pool.confined_recordEvents _ _).elsewhere l fun records =>
      noLog ((counted result).recordsAt_iff.mp records)
  obtain ⟨answer, q, outcome, ends⟩ := Pool.exists_ends i.turn.children i.turn.worker i.before
  have after : i.after = q := congrArg Prod.snd outcome
  rw [after, keeps]
  clear outcome after
  -- What the runs of the children leave stays as it is, unless the case is dull.
  induction ends with
  | unstaged fate => exact absurd fate (stages _)
  | unrun fate =>
    have retained : i.fate.retains = true := congrArg Fate.retains fate
    rw [executed, retained, Bool.and_true]
  | undeleted fate dull _ =>
    have lost := i.retains_of_dull fate dull
    rw [discarded, lost, Bool.and_false]
    rfl
  | discarded fate dull _ =>
    have lost := i.retains_of_dull fate dull
    rw [silent ((Pool.confined_discarded _ _ _ _).mono fun _ _ => trivial), discarded, lost,
      Bool.and_false]
    rfl
  | unrecorded fate worthy _ =>
    have retained := i.retains_of_worthy fate worthy
    rw [recorded, retained, Bool.and_true]
  | reported fate report _ =>
    have worthy := Verdict.ne_uninteresting_of_action (by rw [report]; decide)
    have retained := i.retains_of_worthy fate worthy
    rw [silent ((Pool.confined_recorded _ _ _ _).mono fun _ _ => trivial), recorded, retained,
      Bool.and_true]
  | halted fate halt _ =>
    have worthy := Verdict.ne_uninteresting_of_action (by rw [halt]; decide)
    have retained := i.retains_of_worthy fate worthy
    refine (silent ((Pool.confined_recorded _ _ _ _).mono fun _ _ => trivial) _).trans ?_
    rw [recorded, retained, Bool.and_true]

/-- A call on a dull case leaves the files as it found them, but for the point in the transcript. -/
theorem files_after_of_dull (sound : i.before.Sound) {result : DualResult}
    (judged : i.fate = .judged result) (dull : result.verdict = .uninteresting)
    (undisturbed : i.undisturbed = true) (place : i.before.host.files.IsPlace i.case.path l)
    (noNull : hasNull i.case.path = false) (absent : i.before.host.files.lookup l = none) :
    (∀ l', ¬ i.before.host.LogsAt l' →
        i.after.host.files.lookup l' = i.before.host.files.lookup l') ∧
      ((∀ l', ¬ i.before.host.LogsAt l') → i.after.host.files = i.before.host.files) := by
  have other : i.before.host.files.lookup l ≠ some .directory := by simp [absent]
  have counted := Pool.confined_counted i.turn.children i.turn.worker result i.before
  have executed : (i.before.counted i.turn.children i.turn.worker result).host.files =
      i.before.host.files.put l (.file i.case.source) := by
    have files := files_executed noNull place other
    rw [undisturbed] at files
    exact files
  have file : (i.before.counted i.turn.children i.turn.worker result).host.files.lookup l =
      some (.file i.case.source) := by
    rw [executed]
    exact lookup_put_self (ne_nil_of_not_directory other)
  have removal := Pool.removeFile_of_file noNull (counted.isPlace_iff.mpr place) file
  have restored : (i.before.discarded i.turn.children i.turn.worker result).2.host.files =
      i.before.host.files := by
    refine (congrArg (·.2.host.files) removal).trans ?_
    dsimp only
    rw [executed, erase_put, erase_of_lookup_eq_none absent]
  have confined := Pool.confined_discarded i.turn.children i.turn.worker result i.before
  have after : i.after =
      (i.before.discarded i.turn.children i.turn.worker result).2.notify .point :=
    congrArg Prod.snd (Pool.runOnce_of_dull judged dull (congrArg Prod.fst removal))
  rw [after]
  constructor
  · intro l' noTranscript
    rw [← restored]
    refine (Pool.confined_notify .point (confined.sound sound)).elsewhere l' fun logs => ?_
    exact noTranscript (confined.transcript l' logs)
  · intro noFile
    rw [Pool.files_notify_of_no_file _ fun l' logs => noFile l' (confined.transcript l' logs)]
    exact restored

end Iteration

namespace Pool

variable {σ : Type} {settings : RunSettings} {substitute : Bool} {sources : Nat → σ}
  {host h : Host} {p : Pool σ} {l : Location} {text : String}

/-! ## Pools that have just been started -/

/-- What a pool is like when it has been started. -/
theorem start_eq_ok (started : start settings substitute sources host = (.ok p, h)) :
    hasNull settings.execution.scratchDir = false ∧ p.settings = settings ∧ p.counter = {} ∧
      Grows host.files p.host.files ∧ p.host.transcript = host.transcript := by
  obtain ⟨files, made, rfl, rfl⟩ := start_cases started
  have grows := grows_makeDirectory true settings.execution.scratchDir host.files
  rw [made] at grows
  refine ⟨?_, rfl, rfl, grows, rfl⟩
  cases null : hasNull settings.execution.scratchDir with
  | false => rfl
  | true => simp [makeDirectory, null] at made

theorem hasNull_fileName {path : Path} (noNull : hasNull path = false) (n : Int) :
    hasNull (path.child (Source.fileName n)) = false := by
  have letters : ∀ c ∈ (Source.fileName n).toList, ¬ c.toNat = 0 := by
    intro c member zero
    have null : c = Char.ofNat 0 := by
      rw [← zero, Char.ofNat_toNat]
    rw [null] at member
    exact Source.not_mem_fileName (by decide) (by decide) (by decide) (by decide) n member
  simp only [hasNull, Path.child, List.any_append, List.any_cons, List.any_nil, Bool.or_false,
    Bool.or_eq_false_iff] at noNull ⊢
  refine ⟨noNull, ?_⟩
  simpa using letters

variable [DrawSource σ] {turns : List Turn} {i : Iteration σ}

/-- What a schedule of a pool that has just been started leaves at the place of the file of a
case. -/
theorem lookup_play (started : start settings substitute sources host = (.ok p, h))
    (sound : p.Sound) (member : i ∈ iterations turns p)
    (place : p.host.files.IsPlace i.case.path l) (other : p.host.files.lookup l ≠ some .directory)
    (noTranscript : ¬ p.host.LogsAt l) (noLog : ¬ p.RecordsAt l) :
    (play turns p).host.files.lookup l = if i.keeps then some (.file i.case.source) else none := by
  obtain ⟨noNull, sameSettings, _⟩ := start_eq_ok started
  have before := confined_before sound member
  have noNull' : hasNull i.case.path = false := by
    rw [path_of_mem sound member, sameSettings]
    exact hasNull_fileName noNull _
  rw [(lookup_own sound member place noTranscript noLog).2]
  refine i.lookup_after (before.sound sound) noNull' (before.isPlace_iff.mpr place) ?_ ?_ ?_
  · exact fun directory => other ((before.tree.directory_iff l).mp directory)
  · exact fun logs => noTranscript (before.transcript l logs)
  · exact fun records => noLog (before.recordsAt_iff.mp records)

/-! ## Files that were there before -/

/-- A file that was there when the pool was started, and that is no transcript, fares as follows in
a schedule.

* If it is not the event log, it survives if and only if every call whose path leads to it keeps the
  file of its case and has the text of the file as its source.
* If no path of a call leads to it, its text stays, and only events are put behind it. -/
theorem contents_play_iff (started : start settings substitute sources host = (.ok p, h))
    (sound : p.Sound) (file : host.files.contents? l = some text)
    (noTranscript : ¬ host.LogsAt l) (turns : List Turn) :
    (¬ p.RecordsAt l →
      ((play turns p).host.files.contents? l = some text ↔
        ∀ i ∈ iterations turns p, p.host.files.resolve i.case.path = .ok l →
          i.keeps = true ∧ i.case.source = text)) ∧
    ((∀ i ∈ iterations turns p, p.host.files.resolve i.case.path ≠ .ok l) →
      ∃ added, (play turns p).host.files.contents? l = some (text ++ added)) := by
  obtain ⟨_, _, _, grows, sameTranscript⟩ := start_eq_ok started
  have noTranscript' : ¬ p.host.LogsAt l := fun logs =>
    noTranscript ((Host.logsAt_congr sameTranscript l).mp logs)
  have file' : p.host.files.lookup l = some (.file text) := by
    rw [contents?_eq_some] at file
    rcases grows l with same | ⟨absent, _⟩
    · rw [same, file]
    · rw [absent] at file
      cases file
  -- There is something at the location, so paths lead to it just if it is their place.
  have leads {i : Iteration σ} (member : i ∈ iterations turns p) :
      p.host.files.resolve i.case.path = .ok l ↔ p.host.files.IsPlace i.case.path l := by
    rw [path_of_mem sound member, resolve_child_iff (Source.fileName_ne_parent _)]
    simp [file']
  refine ⟨fun noLog => ?_, fun untouched => ?_⟩
  · have left {i : Iteration σ} (member : i ∈ iterations turns p)
        (place : p.host.files.IsPlace i.case.path l) :=
      lookup_play started sound member place (lookup_ne_directory_of_file file') noTranscript' noLog
    rw [contents?_eq_some]
    constructor
    · intro survives i member found
      rw [left member ((leads member).mp found)] at survives
      split at survives
      · rename_i keeps
        simp only [Option.some.injEq, Entry.file.injEq] at survives
        exact ⟨keeps, survives⟩
      · cases survives
    · intro harmless
      by_cases touched : ∃ i ∈ iterations turns p, p.host.files.IsPlace i.case.path l
      · obtain ⟨i, member, place⟩ := touched
        obtain ⟨keeps, same⟩ := harmless i member ((leads member).mpr place)
        rw [left member place, keeps, same]
        rfl
      · rw [← file']
        refine (confined_play turns sound).elsewhere l ?_
        rintro (own | logs | records)
        · exact touched own
        · exact noTranscript' logs
        · exact noLog records
  · have notOwn : ∀ i ∈ iterations turns p, ¬ p.host.files.IsPlace i.case.path l :=
      fun i member place => untouched i member ((leads member).mpr place)
    exact extends_play turns sound notOwn noTranscript' text (contents?_eq_some.mpr file')

theorem start_small (entries : List (Location × Entry)) :
    start (.small (.ofText "/sbx")) false (fun _ => Zeros.mk) (small "/sbx" entries).host =
      (.ok (small "/sbx" entries), (small "/sbx" entries).host) := rfl

theorem not_logsAt_small (scratch : String) (entries : List (Location × Entry)) (l : Location) :
    ¬ (small scratch entries).host.LogsAt l := by
  rintro ⟨_, none, _⟩
  cases none

theorem not_recordsAt_small (scratch : String) (entries : List (Location × Entry)) (l : Location) :
    ¬ (small scratch entries).RecordsAt l := by
  rintro ⟨_, none, _⟩
  cases none

/-- A pool in `/sbx` that has been started where another one has left a finding. -/
def withFinding (name : String) : Pool Zeros :=
  small "/sbx" [([name, "sbx"], .file "kept")]

/-- A finding with a number that is not reached survives the next pool. -/
theorem survives_of_distant_number :
    (play [⟨0, .exiting 1 1⟩] (withFinding "fuzz7.rs")).host.files.contents? ["fuzz7.rs", "sbx"] =
      some "kept" := by
  have sound : (withFinding "fuzz7.rs").Sound := fun l logs =>
    absurd logs (not_logsAt_small _ _ l)
  have survives := (contents_play_iff (start_small [(["fuzz7.rs", "sbx"], .file "kept")]) sound
    rfl (not_logsAt_small _ _ ["fuzz7.rs", "sbx"]) [⟨0, .exiting 1 1⟩]).1
    (not_recordsAt_small _ _ _)
  refine survives.mpr fun i member found => ?_
  rw [List.mem_singleton.mp member] at found
  have elsewhere : (withFinding "fuzz7.rs").host.files.resolve ⟨.root, ["sbx", "fuzz0.rs"]⟩ =
    .error .notFound := rfl
  exact absurd (elsewhere.symm.trans found) (by simp)

/-- A finding with a number that is reached is lost: a dull case takes its place and is removed, and
a case that is worth a look replaces its text. -/
theorem lost_to_same_number :
    (withFinding "fuzz0.rs").host.files.contents? ["fuzz0.rs", "sbx"] = some "kept" ∧
      start (.small (.ofText "/sbx")) false (fun _ => Zeros.mk) (withFinding "fuzz0.rs").host =
        (.ok (withFinding "fuzz0.rs"), (withFinding "fuzz0.rs").host) ∧
      (play [⟨0, .exiting 1 1⟩] (withFinding "fuzz0.rs")).host.files.contents?
        ["fuzz0.rs", "sbx"] = none ∧
      (play [⟨0, .exiting 1 101⟩] (withFinding "fuzz0.rs")).host.files.contents?
        ["fuzz0.rs", "sbx"] ≠ some "kept" :=
  ⟨rfl, rfl, rfl, by decide +kernel⟩

/-! ## Files of cases -/

/-- Nothing stood at the places of the files of cases, and no log is written there. -/
def Clear (files : FileSystem) (p : Pool σ) : Prop :=
  ∀ (n : Nat) l,
    p.host.files.IsPlace (p.settings.execution.scratchDir.child (Source.fileName n)) l →
      files.lookup l = none ∧ ¬ p.host.LogsAt l ∧ ¬ p.RecordsAt l

/-- Before a case is staged there is nothing at the place of its file. -/
theorem exists_place (started : start settings substitute sources host = (.ok p, h))
    (sound : p.Sound) (clear : p.Clear host.files) (member : i ∈ iterations turns p)
    (stages : ∀ f, i.fate ≠ .unstaged f) :
    ∃ l, p.host.files.IsPlace i.case.path l ∧ p.host.files.lookup l = none ∧
      ¬ p.host.LogsAt l ∧ ¬ p.RecordsAt l := by
  obtain ⟨_, _, sameCounter, grows, _⟩ := start_eq_ok started
  have before := confined_before sound member
  obtain ⟨n, number⟩ := identifier_of_mem member
  have path : i.case.path = p.settings.execution.scratchDir.child (Source.fileName n) := by
    rw [path_of_mem sound member, number, sameCounter]
    simp
  rcases staged_cases i.turn.children i.turn.worker i.before with
    ⟨f, unstaged, _⟩ | ⟨l, _, place, other, _, _⟩
  · exact absurd unstaged (stages f)
  · have place' : p.host.files.IsPlace i.case.path l := before.isPlace_iff.mp place
    obtain ⟨absent, noLogs⟩ := clear n l (path ▸ place')
    refine ⟨l, place', ?_, noLogs⟩
    -- Making the scratch directory may have put a directory there, but then staging has failed.
    rcases grows l with same | ⟨_, made⟩
    · rw [same, absent]
    · exact absurd ((before.tree.directory_iff l).mpr made) other

theorem undisturbed_of_mem
    (alone : ∀ t ∈ turns, ∀ case v, (t.children case v).removesSource = false)
    (member : i ∈ iterations turns p) : i.undisturbed = true := by
  obtain ⟨earlier, later, rfl, _⟩ := exists_split_of_mem member
  refine List.all_eq_true.mpr fun s _ => ?_
  rw [alone i.turn (List.mem_append_right _ List.mem_cons_self)]
  rfl

/-- If the children leave the files alone, only the verdict decides whether a file stays. -/
theorem lookup_play_of_alone (started : start settings substitute sources host = (.ok p, h))
    (sound : p.Sound) (alone : ∀ t ∈ turns, ∀ case v, (t.children case v).removesSource = false)
    (member : i ∈ iterations turns p) (place : p.host.files.IsPlace i.case.path l)
    (absent : p.host.files.lookup l = none) (noTranscript : ¬ p.host.LogsAt l)
    (noLog : ¬ p.RecordsAt l) :
    (play turns p).host.files.lookup l =
      if i.fate.retains then some (.file i.case.source) else none := by
  have kept : i.keeps = i.fate.retains := by
    rw [Iteration.keeps, undisturbed_of_mem alone member, Bool.true_and]
  rw [← kept]
  exact lookup_play started sound member place (by simp [absent]) noTranscript noLog

theorem resolve_play_iff (sound : p.Sound) (member : i ∈ iterations turns p) :
    (play turns p).host.files.resolve i.case.path = .ok l ↔
      p.host.files.IsPlace i.case.path l ∧ ((play turns p).host.files.lookup l).isSome := by
  rw [path_of_mem sound member, resolve_child_iff (Source.fileName_ne_parent _),
    (confined_play turns sound).isPlace_iff]

theorem contents_of_retains (started : start settings substitute sources host = (.ok p, h))
    (sound : p.Sound) (clear : p.Clear host.files)
    (alone : ∀ t ∈ turns, ∀ case v, (t.children case v).removesSource = false)
    (member : i ∈ iterations turns p) (retains : i.fate.retains = true) :
    ∃ l, (play turns p).host.files.resolve i.case.path = .ok l ∧
      (play turns p).host.files.contents? l = some i.case.source := by
  have stages : ∀ f, i.fate ≠ .unstaged f := fun f unstaged => by
    rw [unstaged] at retains
    cases retains
  obtain ⟨l, place, absent, noTranscript, noLog⟩ := exists_place started sound clear member stages
  have file := lookup_play_of_alone started sound alone member place absent noTranscript noLog
  rw [retains] at file
  refine ⟨l, (resolve_play_iff sound member).mpr ⟨place, by simp [file]⟩, ?_⟩
  exact contents?_eq_some.mpr file

theorem lookup_play_of_elsewhere (started : start settings substitute sources host = (.ok p, h))
    (sound : p.Sound) (clear : p.Clear host.files)
    (alone : ∀ t ∈ turns, ∀ case v, (t.children case v).removesSource = false)
    (noTranscript : ¬ p.host.LogsAt l) (noLog : ¬ p.RecordsAt l)
    (elsewhere : ∀ i ∈ iterations turns p, i.fate.retains = true →
      (play turns p).host.files.resolve i.case.path ≠ .ok l) :
    (play turns p).host.files.lookup l = p.host.files.lookup l := by
  by_cases touched : ∃ i ∈ iterations turns p, p.host.files.IsPlace i.case.path l
  · obtain ⟨i, member, place⟩ := touched
    rcases staged_cases i.turn.children i.turn.worker i.before with
      ⟨f, unstaged, same⟩ | ⟨_, _, _, _, stages, _⟩
    · -- The call stops at once, so it leaves the files as they were at the start.
      obtain ⟨before, after⟩ := lookup_own sound member place noTranscript noLog
      have stopped : i.after.host.files = i.before.host.files := by
        rw [Iteration.after, runOnce_eq, unstaged]
        exact congrArg Host.files same
      rw [after, stopped, before]
    · obtain ⟨l', place', absent, _⟩ := exists_place started sound clear member stages
      obtain rfl := place.unique place'
      have left := lookup_play_of_alone started sound alone member place absent noTranscript noLog
      cases retains : i.fate.retains with
      | false => rw [left, retains, absent]; rfl
      | true =>
        rw [retains] at left
        have found := (resolve_play_iff sound member).mpr ⟨place, by simp [left]⟩
        exact absurd found (elsewhere i member retains)
  · refine (confined_play turns sound).elsewhere l ?_
    rintro (own | logs | records)
    · exact touched own
    · exact noTranscript logs
    · exact noLog records

theorem files_of_dull (started : start settings substitute sources host = (.ok p, h))
    (sound : p.Sound) (clear : p.Clear host.files)
    (alone : ∀ t ∈ turns, ∀ case v, (t.children case v).removesSource = false)
    (member : i ∈ iterations turns p) {result : DualResult} (judged : i.fate = .judged result)
    (dull : result.verdict = .uninteresting) :
    (∀ l, ¬ p.host.LogsAt l → i.after.host.files.lookup l = i.before.host.files.lookup l) ∧
      (host.transcript = none → i.after.host.files = i.before.host.files) := by
  obtain ⟨noNull, sameSettings, _, _, sameTranscript⟩ := start_eq_ok started
  have stages : ∀ f, i.fate ≠ .unstaged f := by simp [judged]
  obtain ⟨l, place, absent, noTranscript, noLog⟩ := exists_place started sound clear member stages
  have before := confined_before sound member
  have noNull' : hasNull i.case.path = false := by
    rw [path_of_mem sound member, sameSettings]
    exact hasNull_fileName noNull _
  have absent' : i.before.host.files.lookup l = none :=
    (lookup_own sound member place noTranscript noLog).1.trans absent
  obtain ⟨others, all⟩ := Iteration.files_after_of_dull (before.sound sound) judged dull
    (undisturbed_of_mem alone member) (before.isPlace_iff.mpr place) noNull' absent'
  refine ⟨fun l' noFile => others l' fun logs => noFile (before.transcript l' logs), fun none => ?_⟩
  refine all fun l' logs => ?_
  obtain ⟨t, transcript, _⟩ := before.transcript l' logs
  rw [sameTranscript, none] at transcript
  cases transcript

theorem out_after (i : Iteration σ) :
    i.after.host.out = i.before.host.out ∨ i.after.host.out = i.before.host.out ++ "." ∨
      ∃ result, i.fate = .judged result ∧ i.fate.retains = true ∧
        i.after.host.out = i.before.host.out ++ ("\n" ++
          Report.lineOf result.verdict i.case.identifier i.case.path result ++ "\n") := by
  rcases out_runOnce i.turn.children i.turn.worker i.before with
    silent | point | ⟨result, judged, worthy, line⟩
  · exact Or.inl silent
  · exact Or.inr (Or.inl point)
  · exact Or.inr (Or.inr ⟨result, judged, i.retains_of_worthy judged worthy, line⟩)

/-- In a scratch directory without files of cases, and with children that leave the files alone,
a schedule of a pool that has just been started does the following, whatever the order of its calls
and whatever the children do otherwise.

* Starting the pool has made directories at most.
* The cases are numbered from zero, and no two of them have the same path.
* The file of each case that is worth a look, or whose child could not be run, is there in the end
  and holds the source of the case.
* All other entries but those of the logs are what they were at the start.
* A call on a dull case leaves the files as it found them, but for the file of a transcript.
* A call prints nothing or a point, or it reports a case whose file is there in the end. -/
theorem files_of_clear (started : start settings substitute sources host = (.ok p, h))
    (sound : p.Sound) (clear : p.Clear host.files) (turns : List Turn)
    (alone : ∀ t ∈ turns, ∀ case v, (t.children case v).removesSource = false) :
    Grows host.files p.host.files ∧
      (iterations turns p).map (·.case.identifier) =
        (List.range turns.length).map (fun n : Nat => (n : Int)) ∧
      ((iterations turns p).map (·.case.path)).Nodup ∧
      (∀ i ∈ iterations turns p, i.fate.retains = true →
        ∃ l, (play turns p).host.files.resolve i.case.path = .ok l ∧
          (play turns p).host.files.contents? l = some i.case.source) ∧
      (∀ l, ¬ p.host.LogsAt l → ¬ p.RecordsAt l →
        (∀ i ∈ iterations turns p, i.fate.retains = true →
          (play turns p).host.files.resolve i.case.path ≠ .ok l) →
        (play turns p).host.files.lookup l = p.host.files.lookup l) ∧
      (∀ i ∈ iterations turns p, ∀ result, i.fate = .judged result →
        result.verdict = .uninteresting →
        (∀ l, ¬ p.host.LogsAt l →
            i.after.host.files.lookup l = i.before.host.files.lookup l) ∧
          (host.transcript = none → i.after.host.files = i.before.host.files)) ∧
      (∀ i ∈ iterations turns p,
        i.after.host.out = i.before.host.out ∨ i.after.host.out = i.before.host.out ++ "." ∨
        ∃ result, i.fate = .judged result ∧ i.fate.retains = true ∧
          i.after.host.out = i.before.host.out ++ ("\n" ++
            Report.lineOf result.verdict i.case.identifier i.case.path result ++ "\n")) := by
  obtain ⟨_, _, sameCounter, grows, _⟩ := start_eq_ok started
  refine ⟨grows, ?_, nodup_paths turns sound, ?_, ?_, ?_, ?_⟩
  · rw [identifiers_iterations, sameCounter]
    simp
  · exact fun i member => contents_of_retains started sound clear alone member
  · exact fun l => lookup_play_of_elsewhere started sound clear alone
  · exact fun i member result => files_of_dull started sound clear alone member
  · exact fun i _ => out_after i

/-- In an empty directory, a case that only the candidate crashes on is the second of two cases, and
its file stays. -/
theorem second_of_two_kept :
    (iterations [⟨0, .exiting 1 1⟩, ⟨4, .exiting 1 101⟩] (small "/sbx" [])).map
        (·.case.identifier) = [0, 1] ∧
      ∀ i ∈ iterations [⟨0, .exiting 1 1⟩, ⟨4, .exiting 1 101⟩] (small "/sbx" []),
        i.fate.retains = true →
        ∃ l, (play [⟨0, .exiting 1 1⟩, ⟨4, .exiting 1 101⟩] (small "/sbx" [])).host.files.resolve
            i.case.path = .ok l ∧
          (play [⟨0, .exiting 1 1⟩, ⟨4, .exiting 1 101⟩] (small "/sbx" [])).host.files.contents? l =
            some i.case.source := by
  have sound : (small "/sbx" []).Sound := fun l logs => absurd logs (not_logsAt_small _ _ l)
  have clear : (small "/sbx" []).Clear (small "/sbx" []).host.files := by
    intro n l place
    refine ⟨?_, not_logsAt_small _ _ l, not_recordsAt_small _ _ l⟩
    obtain ⟨here, rfl, found, _⟩ := place.exists_parent
    have root : (small "/sbx" []).host.files.resolve
      (small "/sbx" []).settings.execution.scratchDir = .ok ["sbx"] := rfl
    rw [root] at found
    cases found
    simp [lookup, small]
  obtain ⟨_, numbers, _, files, _⟩ := files_of_clear (start_small []) sound clear
    [⟨0, .exiting 1 1⟩, ⟨4, .exiting 1 101⟩] (by simp [Children.exiting])
  exact ⟨numbers, files⟩

end Pool

end CrashDiff
