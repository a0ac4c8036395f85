import CrashDiff.Proofs.Files.Changes
import CrashDiff.Proofs.Run.Iteration

/-!
# Footprints

Which files a step of a pool may touch. A step is confined to a set of locations if it leaves the
entries at all others, the directories, the settings and the path of the event log as they are.

* Staging, running and discarding a case are confined to the place of its file.
* Recording an event is confined to the place of the event log.
* The progress stream is confined to the file of the transcript.

Results:
1. `confined_stage`, `confined_runVariant`, `confined_removeFile`, `confined_recordEvents`,
   `confined_notify`: the footprint of each part of a call.
2. `confined_execute`: it holds at the start of every child, too.
3. `extends_recordEvents`: recording events adds to a file and takes nothing away.
-/

namespace CrashDiff

open FileSystem

namespace Host

/-- The location is that of the file of the transcript. -/
def LogsAt (h : Host) (l : Location) : Prop :=
  ∃ t, h.transcript = some t ∧ t.location = some l

@[simp] theorem files_log (m : Message) (h : Host) : (h.log m).files = h.files := by
  simp only [log]
  split <;> rfl

@[simp] theorem transcript_log (m : Message) (h : Host) :
    (h.log m).transcript = h.transcript := by
  simp only [log]
  split <;> rfl

@[simp] theorem out_log (m : Message) (h : Host) : (h.log m).out = h.out := by
  simp only [log]
  split <;> rfl

theorem logsAt_congr {h h' : Host} (same : h'.transcript = h.transcript) (l : Location) :
    h'.LogsAt l ↔ h.LogsAt l := by
  simp [LogsAt, same]

theorem remove_cases (p : Path) (h : Host) :
    (∃ f, h.remove p = (.error f, h)) ∨
      ∃ l text, h.files.IsPlace p l ∧ h.files.lookup l = some (.file text) ∧
        h.remove p = (.ok (), { h with
          files := h.files.erase l
          transcript := h.transcript.map (·.forget l) }) := by
  unfold remove
  rcases FileSystem.remove_cases p h.files with ⟨f, failed⟩ | ⟨l, text, place, file, removed⟩
  · exact Or.inl ⟨f, by rw [failed]⟩
  · exact Or.inr ⟨l, text, place, file, by rw [removed]⟩

theorem logsAt_of_forget {h h' : Host} {removed l : Location}
    (forgot : h'.transcript = h.transcript.map (·.forget removed)) (logs : h'.LogsAt l) :
    h.LogsAt l := by
  obtain ⟨t, here, location⟩ := logs
  rw [forgot] at here
  obtain ⟨t', before, rfl⟩ := Option.map_eq_some_iff.mp here
  refine ⟨t', before, ?_⟩
  unfold Transcript.forget at location
  split at location
  · cases location
  · exact location

/-- Writing to the output stream leaves the files alone or writes the file of the transcript. -/
theorem writeOut_cases (text : String) (h : Host) :
    (h.writeOut text).files = h.files ∧ (∀ l, (h.writeOut text).LogsAt l ↔ h.LogsAt l) ∨
      ∃ l new, h.LogsAt l ∧ (h.writeOut text).files = h.files.put l (.file new) ∧
        ∀ l', (h.writeOut text).LogsAt l' ↔ h.LogsAt l' := by
  unfold writeOut
  cases transcript : h.transcript with
  | none => exact Or.inl ⟨rfl, fun l => by simp [LogsAt, transcript]⟩
  | some t =>
    cases location : t.location with
    | none =>
      refine Or.inl ⟨?_, fun l => ?_⟩
      · simp only [Transcript.write, location]
        split <;> rfl
      · simp only [LogsAt, Transcript.write, location, transcript]
        split <;> simp [location]
    | some l =>
      by_cases closed : t.closed = true
      · refine Or.inl ⟨by simp [Transcript.write, closed], fun l' => ?_⟩
        simp [LogsAt, Transcript.write, closed, transcript]
      · refine Or.inr ⟨l, overwrite ((h.files.contents? l).getD "") t.offset text,
          ⟨t, transcript, location⟩, ?_, fun l' => ?_⟩
        · simp only [Transcript.write, closed, location, writeAt]
          rfl
        · simp [LogsAt, Transcript.write, closed, location, transcript]

end Host

namespace EventLog

theorem record_files (time : String) (e : Event) (log : EventLog) (fs : FileSystem) :
    (log.record time e fs).2.2 = (log.writeLine (e.line time) fs).2 := by
  unfold record
  split <;> simp [*]

theorem record_path (time : String) (e : Event) (log : EventLog) (fs : FileSystem) :
    (log.record time e fs).2.1.path = log.path := by
  unfold record
  split <;> rfl

/-- Writing a line leaves the files alone or adds it at the place of the log. -/
theorem writeLine_cases (log : EventLog) (line : String) (fs : FileSystem) :
    (log.writeLine line fs).2 = fs ∨
      ∃ path l, log.path = some path ∧ fs.IsPlace path l ∧ fs.lookup l ≠ some .directory ∧
        (log.writeLine line fs).2 = fs.put l (.file ((fs.contents? l).getD "" ++ line)) := by
  unfold writeLine
  cases log.path with
  | none => exact Or.inl rfl
  | some path =>
    dsimp only
    rcases append_cases path line fs with ⟨f, failed⟩ | ⟨l, place, other, added⟩
    · rw [failed]
      refine Or.inl ?_
      dsimp only
      split <;> rfl
    · rw [added]
      exact Or.inr ⟨path, l, rfl, place, other, rfl⟩

end EventLog

namespace Pool

variable {σ : Type} {p q r : Pool σ} {touched touched' : Location → Prop} {l : Location}

/-! ## Confined steps -/

/-- The location is the place of the event log. -/
def RecordsAt (p : Pool σ) (l : Location) : Prop :=
  ∃ path, p.events.path = some path ∧ p.host.files.IsPlace path l

/-- The file of a transcript is no directory. -/
def Sound (p : Pool σ) : Prop :=
  ∀ l, p.host.LogsAt l → p.host.files.lookup l ≠ some .directory

/-- The second pool comes from the first one by changes of no entry but the touched ones. -/
structure Confined (touched : Location → Prop) (p q : Pool σ) : Prop where
  settings : q.settings = p.settings
  substitute : q.substitute = p.substitute
  logPath : q.events.path = p.events.path
  tree : SameTree p.host.files q.host.files
  elsewhere : ∀ l, ¬ touched l → q.host.files.lookup l = p.host.files.lookup l
  transcript : ∀ l, q.host.LogsAt l → p.host.LogsAt l

namespace Confined

theorem refl (touched : Location → Prop) (p : Pool σ) : Confined touched p p :=
  ⟨rfl, rfl, rfl, .refl _, fun _ _ => rfl, fun _ logs => logs⟩

theorem trans (first : Confined touched p q) (second : Confined touched q r) :
    Confined touched p r where
  settings := second.settings.trans first.settings
  substitute := second.substitute.trans first.substitute
  logPath := second.logPath.trans first.logPath
  tree := first.tree.trans second.tree
  elsewhere l other := (second.elsewhere l other).trans (first.elsewhere l other)
  transcript l logs := first.transcript l (second.transcript l logs)

theorem mono (step : Confined touched p q) (wider : ∀ l, touched l → touched' l) :
    Confined touched' p q where
  settings := step.settings
  substitute := step.substitute
  logPath := step.logPath
  tree := step.tree
  elsewhere l other := step.elsewhere l fun here => other (wider l here)
  transcript := step.transcript

/-- A step that leaves files, transcript, settings and event log alone is confined to nothing. -/
theorem of_eq (settings : q.settings = p.settings) (substitute : q.substitute = p.substitute)
    (logPath : q.events.path = p.events.path) (files : q.host.files = p.host.files)
    (transcript : q.host.transcript = p.host.transcript) : Confined touched p q where
  settings := settings
  substitute := substitute
  logPath := logPath
  tree := by
    rw [files]
    exact .refl _
  elsewhere _ _ := by rw [files]
  transcript l logs := (Host.logsAt_congr transcript l).mp logs

theorem isPlace_iff (step : Confined touched p q) {path : Path} :
    q.host.files.IsPlace path l ↔ p.host.files.IsPlace path l :=
  step.tree.isPlace_iff

theorem recordsAt_iff (step : Confined touched p q) : q.RecordsAt l ↔ p.RecordsAt l := by
  simp only [RecordsAt, step.logPath, step.isPlace_iff]

theorem sound (step : Confined touched p q) (sound : p.Sound) : q.Sound := by
  intro l logs directory
  exact sound l (step.transcript l logs) ((step.tree.directory_iff l).mp directory)

end Confined

/-! ## Parts of a call -/

theorem confined_put (settings : q.settings = p.settings) (substitute : q.substitute = p.substitute)
    (logPath : q.events.path = p.events.path) {text : String}
    (other : p.host.files.lookup l ≠ some .directory)
    (files : q.host.files = p.host.files.put l (.file text))
    (transcript : ∀ l, q.host.LogsAt l → p.host.LogsAt l) : Confined (· = l) p q where
  settings := settings
  substitute := substitute
  logPath := logPath
  tree := by
    rw [files]
    exact .put_file other text
  elsewhere l' different := by rw [files, lookup_put_of_ne different]
  transcript := transcript

theorem confined_stage (case : TestCase) (p : Pool σ) :
    Confined (p.host.files.IsPlace case.path) p (p.stage case).2 := by
  unfold stage
  rcases write_cases case.path case.source p.host.files with
    ⟨f, failed⟩ | ⟨l, _, place, other, wrote⟩
  · rw [failed]
    exact .refl _ p
  · rw [wrote]
    have step : Confined (· = l) p
        { p with host := { p.host with files := p.host.files.put l (.file case.source) } } :=
      confined_put rfl rfl rfl other rfl fun _ logs => logs
    refine step.mono ?_
    rintro l' rfl
    exact place

theorem confined_removeFile (path : Path) (p : Pool σ) :
    Confined (p.host.files.IsPlace path) p (p.removeFile path).2 := by
  unfold removeFile
  rcases Host.remove_cases path p.host with ⟨f, failed⟩ | ⟨l, text, place, file, removed⟩
  · rw [failed]
    exact .refl _ p
  · rw [removed]
    refine ⟨rfl, rfl, rfl, .erase (lookup_ne_directory_of_file file), fun l' other => ?_, ?_⟩
    · refine lookup_erase_of_ne ?_
      rintro rfl
      exact other place
    · intro l' logs
      exact Host.logsAt_of_forget rfl logs

theorem confined_recordEvent (e : Event) (p : Pool σ) :
    Confined p.RecordsAt p (p.recordEvent e).2 := by
  have files : (p.recordEvent e).2.host.files =
      (p.events.writeLine (e.line p.host.time) p.host.files).2 :=
    EventLog.record_files p.host.time e p.events p.host.files
  have logPath : (p.recordEvent e).2.events.path = p.events.path :=
    EventLog.record_path p.host.time e p.events p.host.files
  rcases EventLog.writeLine_cases p.events (e.line p.host.time) p.host.files with
    same | ⟨path, l, log, place, other, added⟩
  · exact .of_eq rfl rfl logPath (files.trans same) rfl
  · rw [added] at files
    have step : Confined (· = l) p (p.recordEvent e).2 :=
      confined_put rfl rfl logPath other files fun _ logs => logs
    refine step.mono ?_
    rintro l' rfl
    exact ⟨path, log, place⟩

theorem confined_recordEvents (events : List Event) (p : Pool σ) :
    Confined p.RecordsAt p (p.recordEvents events).2 := by
  refine recordEvents_induction events (.refl _ p) fun e q before => ?_
  refine before.trans ((confined_recordEvent e q).mono fun l records => ?_)
  exact before.recordsAt_iff.mp records

theorem confined_notify (n : Notice) (sound : p.Sound) :
    Confined p.host.LogsAt p (p.notify n) := by
  -- An empty text is not written at all.
  by_cases silent : (p.progress.written n).isEmpty
  · have host : (p.notify n).host = p.host := by simp [notify, silent]
    exact .of_eq rfl rfl rfl (by rw [host]) (by rw [host])
  · have host : (p.notify n).host = p.host.writeOut (p.progress.written n) := by
      simp [notify, silent]
    rcases Host.writeOut_cases (p.progress.written n) p.host with
      ⟨files, logs⟩ | ⟨l, new, here, files, logs⟩
    · refine ⟨rfl, rfl, rfl, ?_, fun l _ => ?_, fun l => ?_⟩
      · rw [host, files]
        exact .refl _
      · rw [host, files]
      · rw [host]
        exact (logs l).mp
    · have step : Confined (· = l) p (p.notify n) := by
        refine confined_put rfl rfl rfl (sound l here) (host ▸ files) fun l' => ?_
        rw [host]
        exact (logs l').mp
      refine step.mono ?_
      rintro l' rfl
      exact here

/-- If no transcript has a file, notices change no files. -/
theorem files_notify_of_no_file (n : Notice) (noFile : ∀ l, ¬ p.host.LogsAt l) :
    (p.notify n).host.files = p.host.files := by
  unfold notify
  dsimp only
  split
  · rfl
  · rcases Host.writeOut_cases (p.progress.written n) p.host with ⟨files, _⟩ | ⟨l, _, logs, _⟩
    · exact files
    · exact absurd logs (noFile l)

theorem Confined.notify (before : Confined touched p q)
    (sound : p.Sound) (transcript : ∀ l, p.host.LogsAt l → touched l) (n : Notice) :
    Confined touched p (q.notify n) :=
  before.trans ((confined_notify n (before.sound sound)).mono fun l logs =>
    transcript l (before.transcript l logs))

/-- Stopping the pool prints nothing. -/
@[simp] theorem host_stop (p : Pool σ) : p.stop.host = p.host := by
  have silent (progress : Progress) : progress.written .close = "" := by
    unfold Progress.written
    split <;> rfl
  simp [stop, notify, silent]

theorem host_stop_if (stops : Bool) (p : Pool σ) :
    (if stops then p.stop else p).host = p.host := by
  split
  · exact host_stop p
  · rfl

theorem confined_launch (case : TestCase) (v : Variant) (child : Child) (p : Pool σ) :
    Confined (p.host.files.IsPlace case.path) p (p.launch case v child).2 := by
  unfold launch
  dsimp only
  -- Neither the words of the call nor the halt flag matter here.
  generalize (if p.substitute then ExecutionSettings.substituteCall v case.path
    else p.settings.execution.call v case.path) = call
  have noted : Confined (p.host.files.IsPlace case.path) p
      { p with calls := p.calls ++ [call] } := .of_eq rfl rfl rfl rfl rfl
  have stopped : Confined (p.host.files.IsPlace case.path) p
      (if child.stopsRun then Pool.stop { p with calls := p.calls ++ [call] }
        else { p with calls := p.calls ++ [call] }) := by
    split
    · exact .of_eq rfl rfl rfl (by simp) (by simp)
    · exact noted
  split
  · refine stopped.trans ((confined_removeFile case.path _).mono fun l place => ?_)
    exact stopped.isPlace_iff.mp place
  · exact stopped

/-- After its start a variant at most logs a message. -/
theorem runVariant_snd (children : Children) (case : TestCase) (v : Variant) (p : Pool σ) :
    (p.runVariant children case v).2 = (p.launch case v (children case v)).2 ∨
      ∃ m, (p.runVariant children case v).2 =
        { (p.launch case v (children case v)).2 with
          host := (p.launch case v (children case v)).2.host.log m } := by
  unfold runVariant
  dsimp only
  obtain ⟨result, q⟩ := p.launch case v (children case v)
  cases result with
  | error f => exact Or.inl rfl
  | ok u =>
    dsimp only
    split
    · exact Or.inl rfl
    · split
      · exact Or.inl rfl
      · exact Or.inr ⟨_, rfl⟩

theorem confined_runVariant (children : Children) (case : TestCase) (v : Variant) (p : Pool σ) :
    Confined (p.host.files.IsPlace case.path) p (p.runVariant children case v).2 := by
  have launched := confined_launch case v (children case v) p
  rcases runVariant_snd children case v p with same | ⟨m, logged⟩
  · rw [same]
    exact launched
  · rw [logged]
    exact launched.trans (.of_eq rfl rfl rfl (by simp) (by simp))

theorem confined_execute (children : Children) (case : TestCase) (p : Pool σ) :
    (∀ s ∈ p.launches children case, Confined (p.host.files.IsPlace case.path) p s.pool) ∧
      Confined (p.host.files.IsPlace case.path) p (p.execute children case).2 := by
  refine execute_induction (.refl _ p) fun v q before => ?_
  refine before.trans ((confined_runVariant children case v q).mono fun l place => ?_)
  exact before.isPlace_iff.mp place

theorem confined_nextCase [DrawSource σ] (worker : Nat) (p : Pool σ) :
    Confined touched p (p.nextCase worker).2 :=
  .of_eq rfl rfl rfl rfl rfl

/-! ## What logs add -/

/-- The text of a file at the location is still there, perhaps with something behind it. -/
def Extends (l : Location) (p q : Pool σ) : Prop :=
  ∀ text, p.host.files.contents? l = some text →
    ∃ added, q.host.files.contents? l = some (text ++ added)

theorem Extends.trans (first : Extends l p q) (second : Extends l q r) :
    Extends l p r := by
  intro text file
  obtain ⟨added, file'⟩ := first text file
  obtain ⟨more, file''⟩ := second _ file'
  exact ⟨added ++ more, by rw [file'', String.append_assoc]⟩

theorem Extends.of_lookup_eq (same : q.host.files.lookup l = p.host.files.lookup l) :
    Extends l p q := by
  intro text file
  rw [contents?_eq_some] at file
  refine ⟨"", ?_⟩
  rw [contents?_eq_some, same, file, String.append_empty]

theorem Confined.extends (step : Confined touched p q)
    (other : ¬ touched l) : Extends l p q :=
  .of_lookup_eq (step.elsewhere l other)

theorem extends_recordEvent (e : Event) (l : Location) (p : Pool σ) :
    Extends l p (p.recordEvent e).2 := by
  have files : (p.recordEvent e).2.host.files =
      (p.events.writeLine (e.line p.host.time) p.host.files).2 :=
    EventLog.record_files p.host.time e p.events p.host.files
  rcases EventLog.writeLine_cases p.events (e.line p.host.time) p.host.files with
    same | ⟨path, there, _, _, other, added⟩
  · exact .of_lookup_eq (by rw [files, same])
  · rw [added] at files
    by_cases here : l = there
    · subst here
      intro text file
      refine ⟨e.line p.host.time, ?_⟩
      rw [contents?_eq_some, files, lookup_put_self (ne_nil_of_not_directory other), file]
      rfl
    · exact .of_lookup_eq (by rw [files, lookup_put_of_ne here])

theorem extends_recordEvents (events : List Event) (l : Location) (p : Pool σ) :
    Extends l p (p.recordEvents events).2 :=
  recordEvents_induction events (.of_lookup_eq rfl) fun e q before =>
    before.trans (extends_recordEvent e l q)

end Pool

end CrashDiff
