import CrashDiff.Proofs.Run.Background
import CrashDiff.Proofs.Run.CutShort

/-!
# The mirror of the output

While a transcript is set up, its file mirrors the output stream: what has reached the stream since
the transcript was set up is the content of the file, and the transcript writes on at its end. A
step of a run keeps this up, whatever fails in it, unless it uses the place of the file for another
purpose, as that of the event log or of a case.

Results:
1. `Mirrors.writeOut`, `Mirrors.remove`: what writing and removing do to a mirror.
2. `mirrors_runOnce`: a call keeps up the mirror.
3. `follows_performAll`: steps keep it up, in any order and with any workers.
-/

namespace CrashDiff

open FileSystem

/-! ## Writing and removing -/

namespace Host

/-- Whatever has reached the output stream since it held `base` is in the file at the location, and
a transcript writes on at the end of it. -/
def Mirrors (l : Location) (base : String) (h : Host) : Prop :=
  ∃ text, h.out = base ++ text ∧ h.files.contents? l = some text ∧
    h.transcript = some ⟨some l, text.utf8ByteSize, false⟩

namespace Mirrors

variable {l : Location} {base : String} {h h' : Host}

theorem logsAt_iff (mirrors : h.Mirrors l base) {l' : Location} : h.LogsAt l' ↔ l' = l := by
  obtain ⟨text, _, _, transcript⟩ := mirrors
  simp [LogsAt, transcript, eq_comm]

/-- What leaves the stream, the transcript and its file alone keeps up the mirror. -/
theorem of_spared (mirrors : h.Mirrors l base) (out : h'.out = h.out)
    (entry : h'.files.lookup l = h.files.lookup l) (transcript : h'.transcript = h.transcript) :
    h'.Mirrors l base := by
  obtain ⟨text, reached, file, own⟩ := mirrors
  exact ⟨text, out.trans reached, by rwa [contents?_eq_some, entry, ← contents?_eq_some],
    transcript.trans own⟩

/-- What is written to the stream is added to the file. -/
theorem writeOut (mirrors : h.Mirrors l base) (text : String) :
    (h.writeOut text).Mirrors l base := by
  obtain ⟨before, reached, file, transcript⟩ := mirrors
  have entry := contents?_eq_some.mp file
  have below := ne_nil_of_not_directory (lookup_ne_directory_of_file entry)
  have written : overwrite before before.utf8ByteSize text = before ++ text := if_pos rfl
  refine ⟨before ++ text, ?_, ?_, ?_⟩
  · rw [out_writeOut, reached, String.append_assoc]
  · simp only [Host.writeOut, transcript, Transcript.write, Bool.false_eq_true, if_false, writeAt,
      file, Option.getD_some, written]
    rw [contents?_eq_some, lookup_put_self below]
  · simp only [Host.writeOut, transcript, Transcript.write, Bool.false_eq_true, if_false,
      String.utf8ByteSize_append]

/-- The error stream goes the same way. -/
theorem writeErr (mirrors : h.Mirrors l base) (text : String) :
    (h.writeErr text).Mirrors l base := by
  have written := mirrors.writeOut text
  obtain ⟨before, _, _, transcript⟩ := mirrors
  unfold Host.writeErr
  rw [transcript]
  exact written

theorem writeTrace (mirrors : h.Mirrors l base) (f : Failure) :
    (h.writeTrace f).Mirrors l base :=
  writeErrAll_induction mirrors (fun _ text mirrors => mirrors.writeErr text) (h.trace f)

theorem printErr (mirrors : h.Mirrors l base) (line : String) :
    (h.printErr line).Mirrors l base :=
  (mirrors.writeErr line).writeErr "\n"

/-- Messages go past the transcript. -/
theorem log (mirrors : h.Mirrors l base) (m : Message) : (h.log m).Mirrors l base :=
  mirrors.of_spared (out_log m h) (by rw [files_log]) (transcript_log m h)

/-- A file is removed from another place. -/
theorem remove (mirrors : h.Mirrors l base) {path : Path} (other : ¬ h.files.IsPlace path l) :
    (h.remove path).2.Mirrors l base := by
  rcases remove_cases path h with ⟨f, failed⟩ | ⟨l', text, place, _, removed⟩
  · rw [failed]
    exact mirrors
  · have different : l ≠ l' := by
      rintro rfl
      exact other place
    rw [removed]
    refine mirrors.of_spared rfl (lookup_erase_of_ne different) ?_
    obtain ⟨_, _, _, transcript⟩ := mirrors
    simp [transcript, Transcript.forget, different]

end Mirrors

end Host

/-- The last word of a start is a path whose place is the location. -/
def Call.StartsOn (call : Call) (fs : FileSystem) (l : Location) : Prop :=
  ∃ file : Path, call.words.getLast? = some file.toText ∧ fs.IsPlace file l

namespace Pool

open Host

variable {σ : Type} {l : Location} {base : String} {p q r : Pool σ} {children : Children}
  {case : TestCase} {worker : Nat}

/-! ## Parts of a call -/

theorem sound_of_mirrors (mirrors : p.host.Mirrors l base) : p.Sound := by
  intro l' logs
  rw [mirrors.logsAt_iff.mp logs]
  obtain ⟨text, _, file, _⟩ := mirrors
  exact lookup_ne_directory_of_file (contents?_eq_some.mp file)

theorem mirrors_stage (mirrors : p.host.Mirrors l base)
    (other : ¬ p.host.files.IsPlace case.path l) : (p.stage case).2.host.Mirrors l base :=
  mirrors.of_spared rfl ((confined_stage case p).elsewhere l other) rfl

theorem mirrors_launch (mirrors : p.host.Mirrors l base)
    (other : ¬ p.host.files.IsPlace case.path l) (v : Variant) (child : Child) :
    (p.launch case v child).2.host.Mirrors l base := by
  unfold launch
  dsimp only
  split
  · unfold removeFile
    dsimp only
    rw [host_stop_if]
    exact mirrors.remove other
  · rw [host_stop_if]
    exact mirrors

theorem mirrors_runVariant (mirrors : p.host.Mirrors l base)
    (other : ¬ p.host.files.IsPlace case.path l) (v : Variant) :
    (p.runVariant children case v).2.host.Mirrors l base := by
  have launched := mirrors_launch mirrors other v (children case v)
  rcases runVariant_snd children case v p with same | ⟨m, logged⟩
  · rw [same]
    exact launched
  · rw [logged]
    exact launched.log m

theorem mirrors_execute (mirrors : p.host.Mirrors l base)
    (other : ¬ p.host.files.IsPlace case.path l) :
    (p.execute children case).2.host.Mirrors l base := by
  refine (execute_induction (motive := fun q => q.host.Mirrors l base ∧
    ¬ q.host.files.IsPlace case.path l) ⟨mirrors, other⟩ fun v q before => ?_).2.1
  refine ⟨mirrors_runVariant before.1 before.2 v, ?_⟩
  rw [(confined_runVariant children case v q).isPlace_iff]
  exact before.2

theorem mirrors_recordEvents (mirrors : p.host.Mirrors l base) (apart : ¬ p.RecordsAt l)
    (events : List Event) : (p.recordEvents events).2.host.Mirrors l base := by
  refine (recordEvents_induction (motive := fun q => q.host.Mirrors l base ∧ ¬ q.RecordsAt l)
    events ⟨mirrors, apart⟩ fun e q before => ?_).1
  have recorded := confined_recordEvent e q
  refine ⟨before.1.of_spared rfl (recorded.elsewhere l before.2) rfl, ?_⟩
  rw [recorded.recordsAt_iff]
  exact before.2

theorem mirrors_notify (mirrors : p.host.Mirrors l base) (n : Notice) :
    (p.notify n).host.Mirrors l base := by
  unfold notify
  dsimp only
  split
  · exact mirrors
  · exact mirrors.writeOut _

theorem mirrors_giveUp (mirrors : p.host.Mirrors l base) (apart : ¬ p.RecordsAt l)
    (worker : Nat) (f : Failure) : (p.giveUp worker f).2.host.Mirrors l base := by
  have recorded := confined_recordEvent (.infrastructureError worker f.shown)
    { p with stats := p.stats.recordFailure }
  have noted : (p.failureNoted worker f).host.Mirrors l base :=
    mirrors.of_spared rfl (recorded.elsewhere l apart) rfl
  cases accepts : p.events.accepts with
  | true =>
    rw [giveUp_of_accepts accepts]
    exact (mirrors_notify noted _).writeTrace f
  | false =>
    rw [giveUp_of_refuses accepts]
    exact noted

/-! ## Parts of a run -/

/-- The location is that of the event log, or of a file that a child has been started on. -/
def Uses (p : Pool σ) (l : Location) : Prop :=
  p.RecordsAt l ∨ ∃ call ∈ p.calls, call.StartsOn p.host.files l

/-- `Follows l base p q`: the second pool comes from the first one by a part of a run, which adds to
the account of starts and leaves the directories as they are. It keeps up a mirror at the location,
unless the run uses that. -/
structure Follows (l : Location) (base : String) (p q : Pool σ) : Prop where
  confined : Confined (fun _ => True) p q
  calls : p.calls <+: q.calls
  mirrors : ¬ q.Uses l → p.host.Mirrors l base → q.host.Mirrors l base

namespace Follows

theorem refl (p : Pool σ) : Follows l base p p :=
  ⟨.refl _ p, List.prefix_rfl, fun _ mirrors => mirrors⟩

/-- What a run has used, it keeps on using. -/
theorem uses (follows : Follows l base p q) (uses : p.Uses l) : q.Uses l := by
  rcases uses with records | ⟨call, member, file, word, place⟩
  · exact Or.inl (follows.confined.recordsAt_iff.mpr records)
  · exact Or.inr ⟨call, follows.calls.subset member, file, word,
      follows.confined.isPlace_iff.mpr place⟩

theorem trans (first : Follows l base p q) (second : Follows l base q r) : Follows l base p r where
  confined := first.confined.trans second.confined
  calls := first.calls.trans second.calls
  mirrors unused mirrors := second.mirrors unused
    (first.mirrors (fun used => unused (second.uses used)) mirrors)

/-- A part of a run that starts no child. -/
theorem of_idle (confined : Confined (fun _ => True) p q) (calls : q.calls = p.calls)
    (mirrors : ¬ p.RecordsAt l → p.host.Mirrors l base → q.host.Mirrors l base) :
    Follows l base p q where
  confined := confined
  calls := calls ▸ List.prefix_rfl
  mirrors unused := mirrors fun records => unused (Or.inl (confined.recordsAt_iff.mpr records))

end Follows

theorem follows_giveUp (worker : Nat) (f : Failure) (sound : p.Sound) :
    Follows l base p (p.giveUp worker f).2 :=
  .of_idle (confined_giveUp worker f sound) (calls_giveUp worker f p)
    fun apart mirrors => mirrors_giveUp mirrors apart worker f

theorem follows_stop (p : Pool σ) : Follows l base p p.stop :=
  .of_idle (.of_eq rfl rfl rfl (by simp) (by simp)) rfl fun _ mirrors => by
    rw [host_stop]
    exact mirrors

/-! ## A call -/

variable [DrawSource σ]

/-- The last word of the first start of a call is the path of its case. -/
theorem exists_start_of_staged {i : Iteration σ} (stages : ∀ f, i.fate ≠ .unstaged f) :
    ∃ call ∈ i.starts, call.words.getLast? = some i.case.path.toText := by
  have started : ∃ s, s ∈ i.launches := by
    rw [Iteration.launches_of_staged stages]
    rcases launches_cases i.turn.children i.case (i.before.staged i.turn.worker) with
      ⟨_, _, starts, _⟩ | ⟨starts, _⟩
    · exact ⟨_, by rw [starts]; exact List.mem_cons_self⟩
    · exact ⟨_, by rw [starts]; exact List.mem_cons_self⟩
  obtain ⟨s, member⟩ := started
  refine ⟨i.before.callOf i.case s.variant, List.mem_map.mpr ⟨s, member, rfl⟩, ?_⟩
  unfold callOf
  split
  · rfl
  · exact List.getLast?_concat (l := _ :: _ :: i.before.settings.execution.fixedArgs)

theorem mirrors_executed (mirrors : p.host.Mirrors l base)
    (other : ¬ p.host.files.IsPlace (p.caseOf worker).path l) :
    (p.executed children worker).host.Mirrors l base := by
  have drawn : (p.nextCase worker).2.host = p.host := rfl
  have staged : (p.staged worker).host.Mirrors l base :=
    mirrors_stage (p := (p.nextCase worker).2) (drawn ▸ mirrors) other
  refine mirrors_execute staged ?_
  rw [(confined_staged worker p).isPlace_iff]
  exact other

/-- A call keeps up the mirror, unless its case is staged in the place of the mirror or its events
are recorded there. -/
theorem mirrors_runOnce {i : Iteration σ} (mirrors : i.before.host.Mirrors l base)
    (apart : ¬ i.before.RecordsAt l)
    (other : (∀ f, i.fate ≠ .unstaged f) → ¬ i.before.host.files.IsPlace i.case.path l) :
    i.after.host.Mirrors l base := by
  obtain ⟨answer, q, outcome, ends⟩ := exists_ends i.turn.children i.turn.worker i.before
  have after : i.after = q := congrArg Prod.snd outcome
  rw [after]
  clear outcome after
  -- From the staging of its case on, a call uses the place of the case.
  have executed (stages : ∀ f, i.fate ≠ .unstaged f) :
      (i.before.executed i.turn.children i.turn.worker).host.Mirrors l base :=
    mirrors_executed mirrors (other stages)
  have discarded {result : DualResult} (judged : i.fate = .judged result) :
      (i.before.discarded i.turn.children i.turn.worker result).2.host.Mirrors l base := by
    have stages : ∀ f, i.fate ≠ .unstaged f := by simp [judged]
    refine (executed stages).remove ?_
    rw [(confined_executed i.turn.children i.turn.worker i.before).isPlace_iff]
    exact other stages
  have recorded {result : DualResult} (judged : i.fate = .judged result) :
      (i.before.recorded i.turn.children i.turn.worker result).2.host.Mirrors l base := by
    have counted := confined_counted i.turn.children i.turn.worker result i.before
    exact mirrors_recordEvents (p := i.before.counted i.turn.children i.turn.worker result)
      (executed (by simp [judged])) (fun records => apart (counted.recordsAt_iff.mp records)) _
  induction ends with
  | unstaged unstaged =>
    rcases staged_cases i.turn.children i.turn.worker i.before with
      ⟨_, _, same⟩ | ⟨_, _, _, _, stages, _⟩
    · rw [same]
      exact mirrors
    · exact absurd unstaged (stages _)
  | unrun unrun =>
    have unrun' : i.fate = .unrun _ := unrun
    exact executed (by simp [unrun'])
  | undeleted judged _ _ => exact discarded judged
  | discarded judged _ _ => exact mirrors_notify (discarded judged) _
  | unrecorded judged _ _ => exact recorded judged
  | reported judged _ _ => exact mirrors_notify (recorded judged) _
  | halted judged _ _ => exact mirrors_notify (recorded judged) _

/-! ## Steps -/

theorem follows_runOnce (i : Iteration σ) (sound : i.before.Sound) :
    Follows l base i.before i.after where
  confined := (confined_runOnce i.turn.children i.turn.worker sound).mono fun _ _ => trivial
  calls := by
    rw [i.calls_after]
    exact List.prefix_append _ _
  mirrors unused mirrors := by
    have confined : Confined (fun _ => True) i.before i.after :=
      (confined_runOnce i.turn.children i.turn.worker sound).mono fun _ _ => trivial
    refine mirrors_runOnce mirrors
      (fun records => unused (Or.inl (confined.recordsAt_iff.mpr records))) fun stages place => ?_
    -- The first child of the call has been started on the file of its case.
    obtain ⟨call, member, word⟩ := exists_start_of_staged stages
    refine unused (Or.inr ⟨call, ?_, i.case.path, word, confined.isPlace_iff.mpr place⟩)
    rw [i.calls_after]
    exact List.mem_append_right _ member

/-- A step keeps up a mirror, whatever fails in it. -/
theorem follows_perform {s : Step} (sound : p.Sound) (performed : s.perform p = some q) :
    Follows l base p q := by
  cases s with
  | once t =>
    cases performed
    exact follows_runOnce ⟨p, t⟩ sound
  | run t fuel =>
    obtain ⟨⟨answer, r⟩, ran, rfl⟩ := Option.map_eq_some_iff.mp performed
    refine runWorker_induction (R := fun _ p q => p.Sound → Follows l base p q)
      (fun p _ => .refl p) (fun first second sound => ?_) (fun i => follows_runOnce i)
      (fun _ worker f => follows_giveUp worker f) ran sound
    exact (first sound).trans (second ((first sound).confined.sound sound))
  | stop =>
    cases performed
    exact follows_stop p

/-- So do steps, in any order and with any workers. -/
theorem follows_performAll {steps : List Step} (sound : p.Sound)
    (performed : Step.performAll steps p = some q) : Follows l base p q := by
  induction steps generalizing p with
  | nil =>
    cases performed
    exact .refl _
  | cons s steps ih =>
    rw [Step.performAll] at performed
    cases first : s.perform p with
    | none =>
      rw [first] at performed
      cases performed
    | some r =>
      rw [first] at performed
      have step : Follows l base p r := follows_perform sound first
      exact step.trans (ih (step.confined.sound sound) performed)

end Pool

end CrashDiff
