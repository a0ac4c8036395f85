import CrashDiff.Proofs.Run.Ending

/-!
# What is printed

The output stream grows by the notices of an open progress stream and by nothing else, and only the
end of a call and a child that stops the run touch the progress stream.

Results:
1. `out_notify`: a notice adds its text.
2. `closed_execute`: the progress stream is closed by the children that stop the run.
3. `out_runOnce`: what a call prints.
-/

namespace CrashDiff

namespace Host

/-- A transcript passes on what is written to it. -/
theorem out_writeOut (text : String) (h : Host) : (h.writeOut text).out = h.out ++ text := by
  unfold writeOut
  split
  · rfl
  · have shown (t : Transcript) : Transcript.streamText (t.write text h.files).1 = text := by
      unfold Transcript.write
      dsimp only
      split
      · simp [Transcript.streamText]
      · split <;> simp [Transcript.streamText]
    simp only [shown]

theorem out_remove (path : Path) (h : Host) : (h.remove path).2.out = h.out := by
  unfold remove
  split <;> rfl

/-- Whether the output stream is shared with the error stream. -/
def shared (h : Host) : Bool :=
  h.transcript.isSome

theorem shared_writeOut (text : String) (h : Host) : (h.writeOut text).shared = h.shared := by
  unfold shared writeOut
  split <;> simp [*]

theorem shared_remove (path : Path) (h : Host) : (h.remove path).2.shared = h.shared := by
  unfold shared remove
  split
  · rfl
  · simp

/-- The error stream goes to the output stream if it is shared. -/
theorem out_writeErr (text : String) (h : Host) :
    (h.writeErr text).out = h.out ++ if h.shared then text else "" := by
  unfold writeErr shared
  split
  · rename_i none
    rw [none]
    exact String.append_empty.symm
  · rename_i transcript some
    rw [out_writeOut, some]
    rfl

theorem shared_writeErr (text : String) (h : Host) : (h.writeErr text).shared = h.shared := by
  unfold writeErr
  split
  · rfl
  · exact shared_writeOut text h

theorem trace_writeOut (text : String) (h : Host) : (h.writeOut text).trace = h.trace := by
  unfold writeOut
  split <;> rfl

theorem trace_remove (path : Path) (h : Host) : (h.remove path).2.trace = h.trace := by
  unfold remove
  split <;> rfl

theorem trace_log (m : Message) (h : Host) : (h.log m).trace = h.trace := by
  unfold log
  dsimp only
  split <;> rfl

theorem trace_writeErr (text : String) (h : Host) : (h.writeErr text).trace = h.trace := by
  unfold writeErr
  split
  · rfl
  · exact trace_writeOut text h

/-- What each text that is written to the error stream preserves, all of them preserve. -/
theorem writeErrAll_induction {motive : Host → Prop} {h : Host} (start : motive h)
    (step : ∀ h text, motive h → motive (h.writeErr text)) (texts : List String) :
    motive (h.writeErrAll texts) := by
  induction texts generalizing h with
  | nil => exact start
  | cons text texts ih => exact ih (step h text start)

theorem trace_writeErrAll (texts : List String) (h : Host) :
    (h.writeErrAll texts).trace = h.trace :=
  writeErrAll_induction (motive := fun g => g.trace = h.trace) rfl
    (fun g text same => (trace_writeErr text g).trans same) texts

theorem shared_writeErrAll (texts : List String) (h : Host) :
    (h.writeErrAll texts).shared = h.shared :=
  writeErrAll_induction (motive := fun g => g.shared = h.shared) rfl
    (fun g text same => (shared_writeErr text g).trans same) texts

theorem out_writeErrAll (texts : List String) (h : Host) :
    (h.writeErrAll texts).out = h.out ++ if h.shared then String.join texts else "" := by
  induction texts generalizing h with
  | nil =>
    rw [String.join_nil, ite_self, String.append_empty]
    rfl
  | cons text texts ih =>
    refine (ih (h.writeErr text)).trans ?_
    rw [out_writeErr, shared_writeErr, String.join_cons]
    cases h.shared with
    | true => exact String.append_assoc
    | false => simp

end Host

namespace Pool

variable {σ : Type}

theorem trace_notify (n : Notice) (p : Pool σ) : (p.notify n).host.trace = p.host.trace := by
  unfold notify
  dsimp only
  split
  · rfl
  · exact Host.trace_writeOut _ _

theorem out_notify (n : Notice) (p : Pool σ) :
    (p.notify n).host.out = p.host.out ++ p.progress.written n := by
  unfold notify
  dsimp only
  split
  · rename_i silent
    rw [String.isEmpty_iff.mp silent, String.append_empty]
  · exact Host.out_writeOut _ _

theorem shared_notify (n : Notice) (p : Pool σ) : (p.notify n).host.shared = p.host.shared := by
  unfold notify
  dsimp only
  split
  · rfl
  · exact Host.shared_writeOut _ _

/-! ## The runs of the children -/

theorem out_launch (case : TestCase) (v : Variant) (child : Child) (p : Pool σ) :
    (p.launch case v child).2.host.out = p.host.out := by
  unfold launch
  dsimp only
  split
  · unfold removeFile
    dsimp only
    rw [Host.out_remove, host_stop_if]
  · rw [host_stop_if]

theorem closed_launch (case : TestCase) (v : Variant) (child : Child) (p : Pool σ) :
    (p.launch case v child).2.progress.closed = (p.progress.closed || child.stopsRun) := by
  have stopped : ∀ q : Pool σ, (if child.stopsRun then q.stop else q).progress.closed =
      (q.progress.closed || child.stopsRun) := by
    intro q
    cases child.stopsRun with
    | true => rfl
    | false => simp
  unfold launch
  dsimp only
  split
  · exact stopped _
  · exact stopped _

theorem out_runVariant (children : Children) (case : TestCase) (v : Variant) (p : Pool σ) :
    (p.runVariant children case v).2.host.out = p.host.out := by
  rcases runVariant_snd children case v p with same | ⟨m, logged⟩
  · rw [same, out_launch]
  · rw [logged, ← out_launch case v (children case v) p]
    exact Host.out_log m _

theorem closed_runVariant (children : Children) (case : TestCase) (v : Variant) (p : Pool σ) :
    (p.runVariant children case v).2.progress.closed =
      (p.progress.closed || (children case v).stopsRun) := by
  rcases runVariant_snd children case v p with same | ⟨m, logged⟩
  · rw [same, closed_launch]
  · rw [logged]
    exact closed_launch case v _ p

theorem out_execute (children : Children) (case : TestCase) (p : Pool σ) :
    (p.execute children case).2.host.out = p.host.out := by
  refine (execute_induction (motive := fun q => q.host.out = p.host.out) rfl ?_).2
  exact fun v q same => (out_runVariant children case v q).trans same

/-- The progress stream is closed by the children that stop the run. -/
theorem closed_execute (children : Children) (case : TestCase) (p : Pool σ) :
    (p.execute children case).2.progress.closed =
      (p.progress.closed ||
        (p.launches children case).any fun s => (children case s.variant).stopsRun) := by
  have first := closed_runVariant children case p.settings.execution.baseline p
  rcases launches_cases children case p with ⟨f, _, starts, ran⟩ | ⟨starts, ran⟩
  · rw [starts, ran, afterBaseline, first]
    simp
  · rw [starts, ran, closed_runVariant, afterBaseline, first]
    simp [Bool.or_assoc]

theorem shared_runVariant (children : Children) (case : TestCase) (v : Variant) (p : Pool σ) :
    (p.runVariant children case v).2.host.shared = p.host.shared := by
  have launched : (p.launch case v (children case v)).2.host.shared = p.host.shared := by
    unfold launch
    dsimp only
    split
    · unfold removeFile
      dsimp only
      rw [Host.shared_remove, host_stop_if]
    · rw [host_stop_if]
  rcases runVariant_snd children case v p with same | ⟨m, logged⟩
  · rw [same, launched]
  · rw [logged, Host.shared, Host.transcript_log]
    exact launched

theorem shared_execute (children : Children) (case : TestCase) (p : Pool σ) :
    (p.execute children case).2.host.shared = p.host.shared := by
  refine (execute_induction (motive := fun q => q.host.shared = p.host.shared) rfl ?_).2
  exact fun v q same => (shared_runVariant children case v q).trans same

theorem trace_runVariant (children : Children) (case : TestCase) (v : Variant) (p : Pool σ) :
    (p.runVariant children case v).2.host.trace = p.host.trace := by
  have launched : (p.launch case v (children case v)).2.host.trace = p.host.trace := by
    unfold launch
    dsimp only
    split
    · unfold removeFile
      dsimp only
      rw [Host.trace_remove, host_stop_if]
    · rw [host_stop_if]
  rcases runVariant_snd children case v p with same | ⟨m, logged⟩
  · rw [same, launched]
  · rw [logged, Host.trace_log]
    exact launched

theorem trace_execute (children : Children) (case : TestCase) (p : Pool σ) :
    (p.execute children case).2.host.trace = p.host.trace := by
  refine (execute_induction (motive := fun q => q.host.trace = p.host.trace) rfl ?_).2
  exact fun v q same => (trace_runVariant children case v q).trans same

/-! ## The end of a call -/

/-- Recording events leaves the streams alone. -/
theorem recordEvents_streams (events : List Event) (p : Pool σ) :
    (p.recordEvents events).2.host.out = p.host.out ∧
      (p.recordEvents events).2.progress = p.progress ∧
      (p.recordEvents events).2.host.shared = p.host.shared :=
  recordEvents_induction (motive := fun q => q.host.out = p.host.out ∧ q.progress = p.progress ∧
    q.host.shared = p.host.shared) events ⟨rfl, rfl, rfl⟩ fun _ _ same => same

variable [DrawSource σ]

theorem out_executed (children : Children) (worker : Nat) (p : Pool σ) :
    (p.executed children worker).host.out = p.host.out :=
  (out_execute children _ _).trans rfl

theorem shared_executed (children : Children) (worker : Nat) (p : Pool σ) :
    (p.executed children worker).host.shared = p.host.shared :=
  (shared_execute children _ _).trans rfl

/-- A call leaves the traces of failures as they are. -/
theorem trace_runOnce (children : Children) (worker : Nat) (p : Pool σ) :
    (p.runOnce children worker).2.host.trace = p.host.trace := by
  have executed : (p.executed children worker).host.trace = p.host.trace :=
    (trace_execute children _ _).trans rfl
  have recorded (result : DualResult) :
      (p.recorded children worker result).2.host.trace = p.host.trace :=
    (recordEvents_induction (motive := fun q => q.host.trace = p.host.trace) _ executed
      fun _ _ same => same)
  have discarded (result : DualResult) :
      (p.discarded children worker result).2.host.trace = p.host.trace :=
    (Host.trace_remove _ _).trans executed
  obtain ⟨answer, q, outcome, ends⟩ := exists_ends children worker p
  rw [outcome]
  induction ends with
  | unstaged => rfl
  | unrun => exact executed
  | undeleted => exact discarded _
  | discarded => exact (trace_notify _ _).trans (discarded _)
  | unrecorded => exact recorded _
  | reported => exact (trace_notify _ _).trans (recorded _)
  | halted => exact (trace_notify _ _).trans (recorded _)

theorem out_discarded (children : Children) (worker : Nat) (result : DualResult) (p : Pool σ) :
    (p.discarded children worker result).2.host.out = p.host.out :=
  (Host.out_remove _ _).trans (out_executed children worker p)

theorem out_recorded (children : Children) (worker : Nat) (result : DualResult) (p : Pool σ) :
    (p.recorded children worker result).2.host.out = p.host.out :=
  (recordEvents_streams _ _).1.trans (out_executed children worker p)

/-- A call prints nothing, a point, or the report of a case that is worth a look. -/
theorem out_runOnce (children : Children) (worker : Nat) (p : Pool σ) :
    (p.runOnce children worker).2.host.out = p.host.out ∨
      (p.runOnce children worker).2.host.out = p.host.out ++ "." ∨
      ∃ result, p.fate children worker = .judged result ∧ result.verdict ≠ .uninteresting ∧
        (p.runOnce children worker).2.host.out =
          p.host.out ++ ("\n" ++ p.reportOf worker result ++ "\n") := by
  -- A notice of a closed stream adds nothing.
  have told (q : Pool σ) (n : Notice) (same : q.host.out = p.host.out) :
      (q.notify n).host.out = p.host.out ∨
        (q.notify n).host.out = p.host.out ++ Progress.noticeText n := by
    rw [out_notify, same, Progress.written]
    split
    · exact Or.inl (String.append_empty)
    · exact Or.inr rfl
  obtain ⟨answer, q, outcome, ends⟩ := exists_ends children worker p
  rw [outcome]
  clear outcome
  induction ends with
  | unstaged _ => exact Or.inl rfl
  | unrun _ => exact Or.inl (out_executed children worker p)
  | undeleted _ _ _ => exact Or.inl (out_discarded children worker _ p)
  | discarded _ _ _ =>
    rcases told _ .point (out_discarded children worker _ p) with none | point
    · exact Or.inl none
    · exact Or.inr (Or.inl point)
  | unrecorded _ _ _ => exact Or.inl (out_recorded children worker _ p)
  | reported fate report _ =>
    have worthy := Verdict.ne_uninteresting_of_action (by rw [report]; decide)
    rcases told _ _ (out_recorded children worker _ p) with none | line
    · exact Or.inl none
    · exact Or.inr (Or.inr ⟨_, fate, worthy, line⟩)
  | halted fate halt _ =>
    have worthy := Verdict.ne_uninteresting_of_action (by rw [halt]; decide)
    rcases told _ _ (out_recorded children worker _ p) with none | line
    · exact Or.inl none
    · exact Or.inr (Or.inr ⟨_, fate, worthy, line⟩)

end Pool

end CrashDiff
