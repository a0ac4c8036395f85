import CrashDiff.Proofs.Files.Lookalike
import CrashDiff.Proofs.Run.Lockstep

/-!
# The event log as a bystander

Two pools that keep different event logs, or of which only one keeps any. The second one is the
first one with the other log and with other files, and the files look alike. What a call does with
the files depends on the way of the scratch directory and on the file of its case, and before it
looks at that file it has written it. So both pools do the same, and only the logs tell them apart.

Results:
1. `Alike.recordEvent`: recording an event changes nothing but the log.
2. `Alike.staged_cases`: a case is staged in both pools or in none, and then its file is the same.
3. `kept_alike`, `keptByCalls_alike`: pools that are alike stay so.
4. `bystander_performAll`: runs with different event logs.
-/

namespace CrashDiff

open FileSystem JournalEntry

/-! ## Output and files -/

namespace Host

/-- Writing to the output stream leaves the files alone or writes into the file of the transcript at
a place that does not depend on the files; all else does not depend on the files either. -/
theorem writeOut_files (text : String) (h : Host) :
    (∀ fs, { h with files := fs }.writeOut text = { h.writeOut text with files := fs }) ∨
      ∃ l offset, h.LogsAt l ∧ ∀ fs, { h with files := fs }.writeOut text =
        { h.writeOut text with files := fs.writeAt l offset text } := by
  unfold writeOut
  cases transcript : h.transcript with
  | none => exact .inl fun fs => rfl
  | some t =>
    dsimp only
    unfold Transcript.write
    dsimp only
    split
    · exact .inl fun fs => rfl
    · cases location : t.location with
      | none => exact .inl fun fs => rfl
      | some l => exact .inr ⟨l, t.offset, ⟨t, transcript, location⟩, fun fs => rfl⟩

end Host

namespace EventLog

/-- Writing a line into a log in the margin changes nothing that matters. -/
theorem lookalike_writeLine {home : Location} {scratch : Path} {m : Margin home scratch}
    {log : EventLog} {fs fs' : FileSystem}
    (covered : ∀ path ∈ log.path, m.Covers (path.spot home)) (alike : Lookalike m fs fs')
    (line : String) : Lookalike m fs (log.writeLine line fs').2 := by
  unfold writeLine
  cases given : log.path with
  | none => exact alike
  | some path =>
    have added := alike.append_right (covered path given) line
    dsimp only
    rcases written : append path line fs' with ⟨result, gs⟩
    rw [written] at added
    cases result with
    | error f =>
      dsimp only
      split <;> exact added
    | ok u => exact added

end EventLog

namespace Pool

variable {σ : Type} {home : Location} {scratch : Path} {m : Margin home scratch}
  {log log' : Option Path} {p q : Pool σ} {children : Children} {case : TestCase} {worker : Nat}

/-- The pool with another event log and with other files. -/
def relogged (log : Option Path) (files : FileSystem) (p : Pool σ) : Pool σ :=
  { p with
    settings := { p.settings with healthLog := log }
    events := { p.events with path := log }
    host := { p.host with files := files } }

/-- Two pools with the event logs `log` and `log'`, and with files that look alike, that do not
differ otherwise. No transcript has its file on the way of the scratch directory. -/
structure Alike (m : Margin home scratch) (log log' : Option Path) (p q : Pool σ) : Prop where
  same : q = p.relogged log' q.host.files
  files : Lookalike m p.host.files q.host.files
  path : p.events.path = log
  scratchDir : p.settings.execution.scratchDir = scratch
  transcript : ∀ l, p.host.LogsAt l → l ∉ scratch.way home

namespace Alike

theorem eq_relogged (alike : Alike m log log' p q) :
    ∃ files, q = p.relogged log' files ∧ Lookalike m p.host.files files :=
  ⟨_, alike.same, alike.files⟩

/-- What has nothing to do with the event log and the files is the same in both. -/
theorem map {α : Type} (alike : Alike m log log' p q) (f : Pool σ → α)
    (same : ∀ r files, f (r.relogged log' files) = f r) : f q = f p := by
  rw [alike.same, same]

/-- Pools that come from two that are alike, by the same change but for the files. -/
theorem next (alike : Alike m log log' p q) {n : Margin home scratch} {p' q' : Pool σ}
    {files : FileSystem} (same : q' = p'.relogged log' files)
    (lookalike : Lookalike n p'.host.files files) (settings : p'.settings = p.settings)
    (path : p'.events.path = p.events.path)
    (transcript : ∀ l, p'.host.LogsAt l → p.host.LogsAt l) : Alike n log log' p' q' := by
  subst same
  exact ⟨rfl, lookalike, path.trans alike.path, settings ▸ alike.scratchDir,
    fun l logs => alike.transcript l (transcript l logs)⟩

/-- A change that has nothing to do with the files and the event log. -/
theorem update (alike : Alike m log log' p q) {f : Pool σ → Pool σ}
    (same : ∀ r files, f (r.relogged log' files) = (f r).relogged log' files)
    (settings : (f p).settings = p.settings) (path : (f p).events.path = p.events.path)
    (files : (f p).host.files = p.host.files)
    (transcript : (f p).host.transcript = p.host.transcript) :
    Alike m log log' (f p) (f q) := by
  obtain ⟨files', rfl, lookalike⟩ := alike.eq_relogged
  exact alike.next (same p files') (files ▸ lookalike) settings path fun l =>
    (Host.logsAt_congr transcript l).mp

/-! ## Output -/

theorem writeOut (alike : Alike m log log' p q) (text : String) :
    Alike m log log' { p with host := p.host.writeOut text }
      { q with host := q.host.writeOut text } := by
  obtain ⟨files, rfl, lookalike⟩ := alike.eq_relogged
  have logs (l : Location) (here : (p.host.writeOut text).LogsAt l) : p.host.LogsAt l := by
    rcases Host.writeOut_cases text p.host with ⟨_, same⟩ | ⟨_, _, _, _, same⟩
    · exact (same l).mp here
    · exact (same l).mp here
  rcases Host.writeOut_files text p.host with written | ⟨l, offset, here, written⟩
  · have own : (p.host.writeOut text).files = p.host.files := by
      have whole := congrArg Host.files (written p.host.files)
      exact whole
    refine alike.next (congrArg (fun host => { p.relogged log' files with host := host })
      (written files)) ?_ rfl rfl logs
    show Lookalike m (p.host.writeOut text).files files
    rw [own]
    exact lookalike
  · have own : (p.host.writeOut text).files = p.host.files.writeAt l offset text :=
      congrArg Host.files (written p.host.files)
    refine alike.next (congrArg (fun host => { p.relogged log' files with host := host })
      (written files)) ?_ rfl rfl logs
    show Lookalike m (p.host.writeOut text).files (files.writeAt l offset text)
    rw [own]
    exact lookalike.writeAt (alike.transcript l here) offset text

theorem notify (alike : Alike m log log' p q) (n : Notice) :
    Alike m log log' (p.notify n) (q.notify n) := by
  have progress := alike.map progress fun _ _ => rfl
  unfold Pool.notify
  rw [progress]
  dsimp only
  split
  · exact alike.update (f := fun r => { r with progress := p.progress.after n })
      (fun _ _ => rfl) rfl rfl rfl rfl
  · exact (alike.writeOut (p.progress.written n)).update
      (f := fun r => { r with progress := p.progress.after n }) (fun _ _ => rfl) rfl rfl rfl rfl

theorem writeErr (alike : Alike m log log' p q) (text : String) :
    Alike m log log' { p with host := p.host.writeErr text }
      { q with host := q.host.writeErr text } := by
  have same := alike.map (·.host.transcript) fun _ _ => rfl
  unfold Host.writeErr
  rw [same]
  cases p.host.transcript with
  | none =>
    exact alike.update (f := fun r => { r with host := r.host.writeConsoleErr text })
      (fun _ _ => rfl) rfl rfl rfl rfl
  | some t => exact alike.writeOut text

theorem logMessage (alike : Alike m log log' p q) (message : Message) :
    Alike m log log' { p with host := p.host.log message }
      { q with host := q.host.log message } := by
  refine alike.update (f := fun r => { r with host := r.host.log message }) (fun r files => ?_) rfl
    rfl (Host.files_log message p.host) (Host.transcript_log message p.host)
  have same : { r.host with files := files }.log message =
      { r.host.log message with files := files } := by
    have shows : { r.host with files := files }.shows message.level =
        r.host.shows message.level := rfl
    unfold Host.log
    show (if { r.host with files := files }.shows message.level then _ else _) =
      { (if r.host.shows message.level then _ else _ : Host) with files := files }
    rw [shows]
    split <;> rfl
  exact congrArg (fun host => { r.relogged log' files with host := host }) same

/-! ## Events -/

/-- Recording an event changes nothing but the log, and is refused in both pools or in none. -/
theorem recordEvent (covered : ∀ path, path ∈ log ∨ path ∈ log' → m.Covers (path.spot home))
    (accepts : EventLog.accepts { path := log' } = EventLog.accepts { path := log })
    (alike : Alike m log log' p q) (e : Event) :
    (q.recordEvent e).1 = (p.recordEvent e).1 ∧
      Alike m log log' (p.recordEvent e).2 (q.recordEvent e).2 := by
  have path : p.events.path = log := alike.path
  obtain ⟨files, rfl, lookalike⟩ := alike.eq_relogged
  have files_recordEvent (r : Pool σ) : (r.recordEvent e).2.host.files =
      (r.events.writeLine (e.line r.host.time) r.host.files).2 :=
    EventLog.record_files r.host.time e r.events r.host.files
  have written : Lookalike m (p.recordEvent e).2.host.files
      ((p.relogged log' files).recordEvent e).2.host.files := by
    rw [files_recordEvent, files_recordEvent]
    refine EventLog.lookalike_writeLine (fun path' member => covered path' (.inr member)) ?_ _
    refine (EventLog.lookalike_writeLine (fun path' member => ?_) lookalike.symm _).symm
    exact covered path' (.inl (path ▸ member))
  have taken : (p.relogged log' files).events.accepts = p.events.accepts :=
    accepts.trans (EventLog.accepts_congr path).symm
  have whole (r : Pool σ) : (r.recordEvent e).2 = { r with
      events := (r.recordEvent e).2.events
      host := { r.host with files := (r.recordEvent e).2.host.files } } := rfl
  have own := whole p
  have other := whole (p.relogged log' files)
  obtain ⟨answer, events⟩ := recordEvent_eq e p
  obtain ⟨answer', events'⟩ := recordEvent_eq e (p.relogged log' files)
  rw [events] at own
  rw [taken] at answer' events'
  rw [events'] at other
  refine ⟨answer'.trans answer.symm, alike.next (other.trans ?_) written rfl ?_ fun l logs => logs⟩
  · rw [own]
    rfl
  · rw [events]

/-! ## Files of cases -/

/-- The file of a case that is the same in both pools is removed from both or from none. -/
theorem removeFile (alike : Alike m log log' p q) (n : Int)
    (visible : ¬ m.logs (Source.fileName n :: scratch.spot home)) :
    (q.removeFile (scratch.child (Source.fileName n))).1 =
        (p.removeFile (scratch.child (Source.fileName n))).1 ∧
      Alike m log log' (p.removeFile (scratch.child (Source.fileName n))).2
        (q.removeFile (scratch.child (Source.fileName n))).2 := by
  obtain ⟨files, rfl, lookalike⟩ := alike.eq_relogged
  unfold Pool.removeFile Host.remove
  have host : (p.relogged log' files).host = { p.host with files := files } := rfl
  rw [host]
  dsimp only
  have same (l : Location)
      (place : p.host.files.IsPlace (scratch.child (Source.fileName n)) l) :
      files.lookup l = p.host.files.lookup l := by
    rw [lookalike.eq_spot_of_case place]
    exact lookalike.entry _ fun covered => covered.elim (m.cases_open n) visible
  rcases lookalike.remove_cases n same with
    ⟨f, failed, failed'⟩ | ⟨l, place, other, removed, removed'⟩
  · rw [failed, failed']
    exact ⟨rfl, alike⟩
  · rw [removed, removed']
    have spot := lookalike.eq_spot_of_case place
    refine ⟨rfl, alike.next rfl ((lookalike.erase l).widen fun _ log => ?_) rfl rfl
      fun l' logs => ?_⟩
    · rw [spot] at log
      exact visible log
    · exact Host.logsAt_of_forget rfl logs

/-! ## Runs of both variants -/

theorem stop (alike : Alike m log log' p q) : Alike m log log' p.stop q.stop :=
  (alike.update (f := fun r => { r with halted := true }) (fun _ _ => rfl) rfl rfl rfl rfl).notify
    .close

/-- The case of a call whose file is the same in both pools. -/
structure InSight (m : Margin home scratch) (case : TestCase) : Prop where
  path : case.path = scratch.child (Source.fileName case.identifier)
  visible : ¬ m.logs (Source.fileName case.identifier :: scratch.spot home)

theorem removeSource (alike : Alike m log log' p q) (inSight : InSight m case) :
    (q.removeFile case.path).1 = (p.removeFile case.path).1 ∧
      Alike m log log' (p.removeFile case.path).2 (q.removeFile case.path).2 := by
  rw [inSight.path]
  exact alike.removeFile case.identifier inSight.visible

theorem launch (alike : Alike m log log' p q) (inSight : InSight m case) (v : Variant)
    (child : Child) : (q.launch case v child).1 = (p.launch case v child).1 ∧
      Alike m log log' (p.launch case v child).2 (q.launch case v child).2 := by
  have call := alike.map (callOf case v) fun _ _ => rfl
  have noted : Alike m log log' { p with calls := p.calls ++ [p.callOf case v] }
      { q with calls := q.calls ++ [p.callOf case v] } :=
    alike.update (f := fun r => { r with calls := r.calls ++ [p.callOf case v] }) (fun _ _ => rfl)
      rfl rfl rfl rfl
  unfold callOf at call noted
  unfold Pool.launch
  dsimp only
  rw [call]
  cases child.stopsRun with
  | true =>
    cases child.removesSource with
    | true => exact noted.stop.removeSource inSight
    | false => exact ⟨rfl, noted.stop⟩
  | false =>
    cases child.removesSource with
    | true => exact noted.removeSource inSight
    | false => exact ⟨rfl, noted⟩

theorem runVariant (alike : Alike m log log' p q) (inSight : InSight m case)
    (children : Children) (v : Variant) :
    (q.runVariant children case v).1 = (p.runVariant children case v).1 ∧
      Alike m log log' (p.runVariant children case v).2 (q.runVariant children case v).2 := by
  obtain ⟨answer, launched⟩ := alike.launch inSight v (children case v)
  unfold Pool.runVariant
  dsimp only
  rcases first : p.launch case v (children case v) with ⟨result, p'⟩
  rcases second : q.launch case v (children case v) with ⟨result', q'⟩
  rw [first, second] at answer launched
  cases answer
  cases result with
  | error f => exact ⟨rfl, launched⟩
  | ok u =>
    dsimp only at launched ⊢
    cases (children case v).ending with
    | failed f => exact ⟨rfl, launched⟩
    | exited code =>
      have result := launched.map (resultOf · v (children case v) code) fun _ _ => rfl
      have substitute := launched.map (·.substitute) fun _ _ => rfl
      dsimp only
      rw [result]
      by_cases own : p'.substitute = true
      · rw [if_pos own, if_pos (substitute.trans own)]
        exact ⟨rfl, launched⟩
      · rw [if_neg own, if_neg fun other => own (substitute.symm.trans other)]
        exact ⟨rfl, launched.logMessage _⟩

theorem execute (alike : Alike m log log' p q) (inSight : InSight m case) (children : Children) :
    (q.execute children case).1 = (p.execute children case).1 ∧
      Alike m log log' (p.execute children case).2 (q.execute children case).2 := by
  have settings := alike.map (·.settings.execution) fun _ _ => rfl
  unfold Pool.execute
  rw [settings]
  exact p.settings.execution.runBoth_alike
    (fun v p q alike => alike.runVariant inSight children v) alike

/-! ## Calls -/

variable {l : Location}

theorem widen (alike : Alike (m.without l) log log' p q)
    (clear : l ∈ scratch.way home → ¬ m.logs l) : Alike m log log' p q :=
  { alike with files := alike.files.widen clear }

variable [DrawSource σ]

/-- A case is staged in both pools or in none. Once it is staged, its file is the same in both. -/
theorem staged_cases (alike : Alike m log log' p q) (worker : Nat) :
    (∃ f, ((p.nextCase worker).2.stage (p.caseOf worker)).1 = .error f ∧
      ((q.nextCase worker).2.stage (q.caseOf worker)).1 = .error f ∧
      Alike m log log' (p.staged worker) (q.staged worker)) ∨
    ∃ l, ((p.nextCase worker).2.stage (p.caseOf worker)).1 = .ok () ∧
      ((q.nextCase worker).2.stage (q.caseOf worker)).1 = .ok () ∧
      InSight (m.without l) (p.caseOf worker) ∧ (l ∈ scratch.way home → ¬ m.logs l) ∧
      Alike (m.without l) log log' (p.staged worker) (q.staged worker) := by
  have case := alike.map (caseOf worker) fun _ _ => rfl
  have drawn : Alike m log log' (p.nextCase worker).2 (q.nextCase worker).2 :=
    alike.update (f := fun r => (r.nextCase worker).2) (fun _ _ => rfl) rfl rfl rfl rfl
  have path : (p.caseOf worker).path =
      scratch.child (Source.fileName (p.caseOf worker).identifier) := by
    rw [caseOf_path, alike.scratchDir, caseOf_identifier]
  unfold staged
  rw [case]
  obtain ⟨files, same, lookalike⟩ := drawn.eq_relogged
  rw [same]
  unfold stage
  rw [path]
  dsimp only
  have host : ((p.nextCase worker).2.relogged log' files).host.files = files := rfl
  rw [host]
  rcases lookalike.write_cases (p.caseOf worker).identifier (p.caseOf worker).source with
    ⟨f, failed, failed'⟩ | ⟨l, place, other, wrote, wrote'⟩
  · rw [failed, failed']
    rw [same] at drawn
    exact .inl ⟨f, rfl, rfl, drawn⟩
  · rw [wrote, wrote']
    have spot := lookalike.eq_spot_of_case place
    refine .inr ⟨l, rfl, rfl, ⟨path, ?_⟩, fun passed log => other (lookalike.way l passed log),
      drawn.next rfl (lookalike.put l _) rfl rfl fun _ logs => logs⟩
    rw [← spot]
    exact fun log => log.2 rfl

/-- A call gets equally far in both pools. While the variants are run, the file of the case is the
same in both. -/
theorem fate_cases (alike : Alike m log log' p q) (children : Children) (worker : Nat) :
    (∃ f, p.fate children worker = .unstaged f ∧ q.fate children worker = .unstaged f ∧
      Alike m log log' (p.staged worker) (q.staged worker)) ∨
    ∃ l, q.fate children worker = p.fate children worker ∧
      InSight (m.without l) (p.caseOf worker) ∧ (l ∈ scratch.way home → ¬ m.logs l) ∧
      Alike (m.without l) log log' (p.staged worker) (q.staged worker) ∧
      Alike (m.without l) log log' (p.executed children worker) (q.executed children worker) := by
  have case := alike.map (caseOf worker) fun _ _ => rfl
  unfold fate executed
  rcases alike.staged_cases worker with ⟨f, failed, failed', staged⟩ |
    ⟨l, wrote, wrote', inSight, clear, staged⟩
  · rw [failed, failed']
    exact .inl ⟨f, rfl, rfl, staged⟩
  · obtain ⟨answer, executed⟩ := staged.execute inSight children
    rw [wrote, wrote', case]
    refine .inr ⟨l, ?_, inSight, clear, staged, executed⟩
    dsimp only
    rw [answer]

end Alike

/-! ## Calls and runs -/

section Run

variable (covered : ∀ path, path ∈ log ∨ path ∈ log' → m.Covers (path.spot home))
  (accepts : EventLog.accepts { path := log' } = EventLog.accepts { path := log })
include covered accepts

theorem kept_alike : Kept (Alike (σ := σ) m log log') where
  halted alike := alike.map halted fun _ _ => rfl
  halt alike := alike.update (f := fun r => { r with halted := true }) (fun _ _ => rfl) rfl rfl rfl
    rfl
  count change alike := alike.update (f := fun r => { r with stats := change r.stats })
    (fun _ _ => rfl) rfl rfl rfl rfl
  recordEvent e alike := alike.recordEvent covered accepts e
  notify n alike := alike.notify n
  writeErr text alike := alike.writeErr text
  trace alike := alike.map (fun r => r.host.trace) fun _ _ => rfl

/-- Every call keeps pools alike, whatever the children do. -/
theorem keptByCalls_alike [DrawSource σ] :
    KeptByCalls (fun _ : Iteration σ => True) (Alike m log log') := by
  intro i q _ alike
  obtain ⟨p, worker, children⟩ := i
  have kept := kept_alike (σ := σ) covered accepts
  have case := alike.map (caseOf worker) fun _ _ => rfl
  have halting := alike.map (·.settings.haltOnCandidate) fun _ _ => rfl
  have same : (q.runOnce children worker).1 = (p.runOnce children worker).1 ∧
      Alike m log log' (p.runOnce children worker).2 (q.runOnce children worker).2 := by
    rcases alike.fate_cases children worker with ⟨f, unstaged, unstaged', staged⟩ |
      ⟨l, fate, inSight, clear, staged, executed⟩
    · refine kept.runOnce case (unstaged'.trans unstaged.symm) (fun result judged => ?_) staged
        (fun stages => absurd unstaged (stages f)) fun result judged => ?_
      · rw [halting]
      · rw [unstaged] at judged
        cases judged
    · refine kept.runOnce case fate (fun result judged => ?_) (staged.widen clear)
        (fun stages => executed.widen clear) fun result judged dull => ?_
      · rw [halting]
      · have counted : Alike (m.without l) log log' (p.counted children worker result)
            (q.counted children worker result) :=
          executed.update (f := fun r => { r with stats := r.stats.record result.verdict })
            (fun _ _ => rfl) rfl rfl rfl rfl
        obtain ⟨removed, rest⟩ := counted.removeSource inSight
        unfold Pool.discarded
        rw [case]
        exact ⟨removed, rest.widen clear⟩
  exact ⟨trivial, rfl, alike, same.1, same.2⟩

end Run

/-! ## Runs with different event logs -/

/-- The same step, or two changes by somebody else after which files that look alike still do. -/
inductive Matched (m : Margin home scratch) : Move → Move → Prop
  | step (s : Step) : Matched m (.step s) (.step s)
  | disturb {change change' : FileSystem → FileSystem} :
      (∀ fs fs', Lookalike m fs fs' → Lookalike m (change fs) (change' fs')) →
      Matched m (.disturb change) (.disturb change')

theorem Matched.paired {move move' : Move} (matched : Matched m move move') :
    Move.Paired (Alike (σ := σ) m log log') move move' := by
  cases matched with
  | step s => exact .step s
  | @disturb change change' keeps =>
    refine .disturb fun p q alike => ?_
    obtain ⟨files, rfl, lookalike⟩ := alike.eq_relogged
    exact alike.next rfl (keeps _ _ lookalike) rfl rfl fun _ logs => logs

/-- Somebody else may do anything to what is hidden, in each of the runs in another way. -/
theorem matched_of_hidden {change change' : FileSystem → FileSystem}
    (stays : ∀ fs, (change fs).workingDirectory = fs.workingDirectory)
    (stays' : ∀ fs, (change' fs).workingDirectory = fs.workingDirectory)
    (visible : ∀ fs l, ¬ m.hidden l → (change fs).lookup l = fs.lookup l)
    (visible' : ∀ fs l, ¬ m.hidden l → (change' fs).lookup l = fs.lookup l) :
    Matched m (.disturb change) (.disturb change') := by
  refine .disturb fun fs fs' alike => ?_
  have second := alike.change_hidden (stays' fs') (visible' fs')
  exact (second.symm.change_hidden (stays fs) (visible fs)).symm

variable {settings : RunSettings} {substitute : Bool} {sources : Nat → σ} {host h : Host}

/-- Pools that have just been started with different event logs are alike. -/
theorem alike_of_start (started : start settings substitute sources host = (.ok p, h))
    (m : Margin h.files.workingDirectory settings.execution.scratchDir) (log' : Option Path)
    (transcript : ∀ l, h.LogsAt l →
      l ∉ settings.execution.scratchDir.way h.files.workingDirectory) :
    ∃ q, start { settings with healthLog := log' } substitute sources host = (.ok q, h) ∧
      Alike m settings.healthLog log' p q := by
  have other : start { settings with healthLog := log' } substitute sources host = _ :=
    start_of_started started rfl
  obtain ⟨files, made, rfl, rfl⟩ := start_cases started
  exact ⟨_, other, rfl, .of_paved rfl (paved_of_makeDirectory made), rfl, rfl, transcript⟩

variable [DrawSource σ]

/-- A run does not depend on its event log.

The second pool has been started with the log `log'` in place of that of the settings. Both logs
take events, or none of them does. Their places are in the margin, which holds what the files may
differ in: a log may lie anywhere, but if it lies on the way of the scratch directory, the directory
in its place stays there. The same steps are made in both pools, and between them somebody else may
change the files, in each of the runs in another way, as long as they look alike.

* The second pool can be started, too.
* Every call and every loop of a worker is answered in the same way. Before and after every call and
  at the end, the pools do not differ but in the path of the log and in what is in the margin.
* A log that takes events counts all of them, whether or not a line can be written. -/
theorem bystander_performAll (started : start settings substitute sources host = (.ok p, h))
    (log' : Option Path)
    (accepts : EventLog.accepts { path := log' } = EventLog.accepts { path := settings.healthLog })
    (m : Margin h.files.workingDirectory settings.execution.scratchDir)
    (covered : ∀ path, path ∈ settings.healthLog ∨ path ∈ log' →
      m.Covers (path.spot h.files.workingDirectory))
    (transcript : ∀ l, h.LogsAt l →
      l ∉ settings.execution.scratchDir.way h.files.workingDirectory)
    {moves moves' : List Move} (matched : List.Forall₂ (Matched m) moves moves') :
    (∃ q, start { settings with healthLog := log' } substitute sources host = (.ok q, h) ∧
      Move.answersOfAll moves' q = Move.answersOfAll moves p ∧
      List.Forall₂ (Iteration.Paired (fun _ => True) (Alike m settings.healthLog log'))
        (callsOf (Move.journalOfAll moves p)) (callsOf (Move.journalOfAll moves' q)) ∧
      Option.Rel (Alike m settings.healthLog log') (Move.performAll moves p)
        (Move.performAll moves' q)) ∧
    ∀ (log : EventLog), log.accepts = true → ∀ time e fs,
      (log.record time e fs).1 = .ok () ∧
        (log.record time e fs).2.1 = { log with counts := log.counts.add e.key } := by
  obtain ⟨q, other, alike⟩ := alike_of_start started m log' transcript
  obtain ⟨ends, calls, answers⟩ := (kept_alike covered accepts).performAll
    (keptByCalls_alike covered accepts) (matched.imp fun _ _ => Matched.paired) alike
    fun _ _ => trivial
  exact ⟨⟨q, other, answers, calls, ends⟩, fun log taken time e fs =>
    EventLog.record_of_accepts taken time e fs⟩

/-- A margin of a single log file in the directory `/sbx`, which somebody else may do anything
to. -/
def oneLog : Margin ["sbx"] (.ofText "/sbx") where
  hidden l := l = ["health.jsonl", "sbx"]
  logs _ := False
  way_open := by decide
  cases_open n same := by
    have front : 'h' ∉ (Source.fileName n).toList :=
      Source.not_mem_fileName (by decide) (by decide) (by decide) (by decide) n
    rw [(List.cons.inj same).1] at front
    exact front (by decide)

/-- A crash, and a worker that is stopped by a failure. In between `change` is done to the files. -/
def movesAround (change : FileSystem → FileSystem) : List Move :=
  [.step (.once ⟨0, .exiting 101 1⟩), .disturb change,
    .step (.run ⟨1, fun _ _ => { ending := .failed (.withText .os "no compiler") }⟩ 2)]

/-- A directory is put in place of a log after the first event. The run that keeps no log at all
comes to the same. -/
theorem bystander_of_replaced_log :
    ∃ q r r', start (σ := Zeros)
        { RunSettings.small (.ofText "/sbx") with healthLog := some (.ofText "/sbx/health.jsonl") }
        false (fun _ => {}) (small "/sbx" []).host = (.ok q, (small "/sbx" []).host) ∧
      Move.performAll (movesAround id) (small "/sbx" []) = some r ∧
      Move.performAll (movesAround fun fs => fs.put ["health.jsonl", "sbx"] .directory) q =
        some r' ∧
      r'.host.out = r.host.out ∧ r'.stats = r.stats ∧ r'.events.counts = r.events.counts ∧
      ∀ l, l ≠ ["health.jsonl", "sbx"] → r'.host.files.lookup l = r.host.files.lookup l := by
  have matched : List.Forall₂ (Matched oneLog) (movesAround id)
      (movesAround fun fs => fs.put ["health.jsonl", "sbx"] .directory) :=
    .cons (.step _) (.cons (matched_of_hidden (fun _ => rfl) (fun _ => rfl) (fun _ _ _ => rfl)
      fun _ _ visible => lookup_put_of_ne visible) (.cons (.step _) .nil))
  have covered (path : Path) (given : path ∈ (none : Option Path) ∨
      path ∈ some (Path.ofText "/sbx/health.jsonl")) : oneLog.Covers (path.spot ["sbx"]) := by
    rcases given with none | same
    · cases none
    · cases same
      have spot : Path.spot ["sbx"] (.ofText "/sbx/health.jsonl") = ["health.jsonl", "sbx"] := by
        decide
      exact .inl spot
  obtain ⟨⟨q, started, _, _, ends⟩, _⟩ := bystander_performAll (start_small [])
    (some (.ofText "/sbx/health.jsonl")) (by decide) oneLog covered
    (fun l logs => absurd logs (not_logsAt_small _ _ l)) matched
  obtain ⟨r, performed⟩ : ∃ r, Move.performAll (movesAround id) (small "/sbx" []) = some r :=
    ⟨_, rfl⟩
  rw [performed] at ends
  cases performed' : Move.performAll
      (movesAround fun fs => fs.put ["health.jsonl", "sbx"] .directory) q with
  | none =>
    rw [performed'] at ends
    cases ends
  | some r' =>
    rw [performed'] at ends
    cases ends with
    | some alike =>
      refine ⟨q, r, r', started, performed, performed', alike.map (·.host.out) fun _ _ => rfl,
        alike.map (·.stats) fun _ _ => rfl, alike.map (·.events.counts) fun _ _ => rfl,
        fun l other => alike.files.entry l fun hidden => ?_⟩
      exact hidden.elim other id

/-- A log in the place of the scratch directory, which is removed while the pool waits. The loop of
a worker fails, since there is no directory, and so does a call after that. But with the log the
failure of the loop has been written to a file in place of the directory, and the call fails in
another way. -/
theorem changed_by_log_in_scratch_place :
    let answers (p : Pool Zeros) (missing refused : Failure) : Prop :=
      ∃ p', (Move.disturbed (·.erase ["s", "sbx"]) p).runWorker (.exiting 1 101) 0 2 =
          some (.ok (.failed missing), p') ∧
        (p'.runOnce (.exiting 1 101) 0).1 = .error refused
    ∃ p q h, start (.small (.ofText "/sbx/s")) false (fun _ => {}) (small "/sbx/s" []).host =
        (.ok p, h) ∧
      start { RunSettings.small (.ofText "/sbx/s") with healthLog := some (.ofText "/sbx/s") } false
        (fun _ => {}) (small "/sbx/s" []).host = (.ok q, h) ∧
      answers p (SystemError.notFound.failure (.ofText "/sbx/s/fuzz0.rs"))
        (SystemError.notFound.failure (.ofText "/sbx/s/fuzz1.rs")) ∧
      answers q (SystemError.notFound.failure (.ofText "/sbx/s/fuzz0.rs"))
        (SystemError.notDirectory.failure (.ofText "/sbx/s/fuzz1.rs")) := by
  refine ⟨_, _, _, rfl, rfl, ⟨_, rfl, ?_⟩, ⟨_, rfl, ?_⟩⟩ <;>
    set_option maxRecDepth 2000 in rfl

end Pool

end CrashDiff
