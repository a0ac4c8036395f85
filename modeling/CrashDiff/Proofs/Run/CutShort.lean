import CrashDiff.Proofs.Run.Failing
import CrashDiff.Proofs.Run.Parallel

/-!
# Halting on crashes of the candidate

Two pools of which one halts on a crash of the candidate alone, and the other one goes on. They do
the same until the first such case. There both record and report it, and only then the first one is
shut down: what it has come to is what the other one has come to at that point, and whatever the
other one prints later is behind that.

Results:
1. `keptByCalls_stricter`: all other calls do the same in both pools.
2. `runOnce_of_candidateOnly`: what a crash of the candidate alone comes to in either pool.
3. `exists_calls_of_runWorker`: where a loop can end.
4. `cutShort_runWorker`: the loop of a worker with and without halting on crashes of the candidate.
-/

namespace CrashDiff

open FileSystem JournalEntry

/-- The settings with or without halting on crashes of the candidate. -/
def RunSettings.haltingOn (candidate : Bool) (s : RunSettings) : RunSettings :=
  { s with haltOnCandidate := candidate }

namespace Pool

variable {σ : Type} {children : Children} {case : TestCase} {v : Variant} {p q r : Pool σ}

/-- The pool with halting on crashes of the candidate. -/
def strict (p : Pool σ) : Pool σ :=
  { p with settings := p.settings.haltingOn true }

/-- The first pool does not halt on crashes of the candidate, and the second one is the same but for
that. -/
structure Stricter (p q : Pool σ) : Prop where
  lenient : p.settings.haltOnCandidate = false
  strict : q = p.strict

theorem kept_stricter : Kept (Stricter (σ := σ)) where
  halted := by rintro p _ ⟨_, rfl⟩; rfl
  halt := by rintro p _ ⟨lenient, rfl⟩; exact ⟨lenient, rfl⟩
  count := by rintro p _ change ⟨lenient, rfl⟩; exact ⟨lenient, rfl⟩
  recordEvent := by rintro p _ e ⟨lenient, rfl⟩; exact ⟨rfl, lenient, rfl⟩
  notify := by rintro p _ n ⟨lenient, rfl⟩; exact ⟨lenient, rfl⟩
  writeErr := by rintro p _ text ⟨lenient, rfl⟩; exact ⟨lenient, rfl⟩
  trace := by rintro p _ ⟨_, rfl⟩; rfl

/-- A refused event is the end of the recording. -/
theorem recordEvents_of_refuses (refuses : p.events.accepts = false) (e : Event)
    (events : List Event) :
    (p.recordEvents (e :: events)).1 = .error nullFailure := by
  have answer := (recordEvent_of_refuses refuses e).1
  rw [recordEvents]
  rcases recorded : p.recordEvent e with ⟨result, r⟩
  rw [recorded] at answer
  cases answer
  rfl

/-! ## The same until the verdict -/

theorem removeFile_strict (path : Path) (p : Pool σ) :
    p.strict.removeFile path = ((p.removeFile path).1, (p.removeFile path).2.strict) := rfl

theorem stage_strict (case : TestCase) (p : Pool σ) :
    p.strict.stage case = ((p.stage case).1, (p.stage case).2.strict) := rfl

theorem launch_strict (case : TestCase) (v : Variant) (child : Child) (p : Pool σ) :
    p.strict.launch case v child =
      ((p.launch case v child).1, (p.launch case v child).2.strict) := by
  unfold launch
  cases child.removesSource <;> cases child.stopsRun <;> rfl

theorem runVariant_strict (children : Children) (case : TestCase) (v : Variant) (p : Pool σ) :
    p.strict.runVariant children case v =
      ((p.runVariant children case v).1, (p.runVariant children case v).2.strict) := by
  unfold runVariant
  dsimp only
  rw [launch_strict]
  rcases p.launch case v (children case v) with ⟨result, q⟩
  cases result with
  | error f => rfl
  | ok u =>
    dsimp only
    cases (children case v).ending with
    | failed f => rfl
    | exited code =>
      have substitute : q.strict.substitute = q.substitute := rfl
      dsimp only
      rw [substitute]
      split <;> rfl

theorem execute_strict (children : Children) (case : TestCase) (p : Pool σ) :
    p.strict.execute children case =
      ((p.execute children case).1, (p.execute children case).2.strict) := by
  have both : (p.strict.execute children case).1 = (p.execute children case).1 ∧
      (p.strict.execute children case).2 = (p.execute children case).2.strict := by
    refine p.settings.execution.runBoth_alike (R := fun (q r : Pool σ) => r = q.strict) ?_ rfl
    rintro v q _ rfl
    rw [runVariant_strict]
    exact ⟨rfl, rfl⟩
  exact Prod.ext both.1 both.2

variable [DrawSource σ] {worker : Nat}

theorem nextCase_strict (worker : Nat) (p : Pool σ) :
    p.strict.nextCase worker = ((p.nextCase worker).1, (p.nextCase worker).2.strict) := rfl

theorem caseOf_strict (worker : Nat) (p : Pool σ) : p.strict.caseOf worker = p.caseOf worker := rfl

theorem staged_strict (worker : Nat) (p : Pool σ) :
    p.strict.staged worker = (p.staged worker).strict := by
  unfold staged
  rw [caseOf_strict, nextCase_strict, stage_strict]

theorem executed_strict (children : Children) (worker : Nat) (p : Pool σ) :
    p.strict.executed children worker = (p.executed children worker).strict := by
  unfold executed
  rw [staged_strict, caseOf_strict, execute_strict]

theorem fate_strict (children : Children) (worker : Nat) (p : Pool σ) :
    p.strict.fate children worker = p.fate children worker := by
  unfold fate
  rw [staged_strict, caseOf_strict, nextCase_strict, stage_strict, execute_strict]

theorem counted_strict (children : Children) (worker : Nat) (result : DualResult) (p : Pool σ) :
    p.strict.counted children worker result = (p.counted children worker result).strict := by
  unfold counted
  rw [executed_strict]
  rfl

theorem discarded_strict (children : Children) (worker : Nat) (result : DualResult) (p : Pool σ) :
    p.strict.discarded children worker result =
      ((p.discarded children worker result).1, (p.discarded children worker result).2.strict) := by
  unfold discarded
  rw [counted_strict, caseOf_strict, removeFile_strict]

end Pool

/-! ## Crashes of the candidate alone -/

variable {σ : Type} [DrawSource σ]

theorem Verdict.action_congr {verdict : Verdict} (other : verdict ≠ .candidateOnly)
    (haltOnCandidate haltOnCandidate' : Bool) :
    verdict.action haltOnCandidate = verdict.action haltOnCandidate' := by
  cases verdict <;> first | rfl | exact absurd rfl other

/-- The call comes to the verdict that the candidate alone has crashed. -/
def Iteration.CandidateOnly (i : Iteration σ) : Prop :=
  ∃ result, i.fate = .judged result ∧ result.verdict = .candidateOnly

/-- The call comes to another verdict, or the event log refuses to record it. -/
def Iteration.Unfocused (i : Iteration σ) : Prop :=
  i.CandidateOnly → i.before.events.accepts = false

namespace Pool

variable {children : Children} {worker : Nat} {p q : Pool σ} {t : Turn}

theorem runOnce_of_judged {result : DualResult} (judged : p.fate children worker = .judged result) :
    p.runOnce children worker =
      (p.counted children worker result).act (p.caseOf worker) result result.verdict := by
  rw [runOnce_eq, judged]
  rfl

/-- A case on which the candidate alone crashes is recorded. Then it is reported, and the run goes
on, or it is reported and the run is halted. -/
theorem runOnce_of_candidateOnly {result : DualResult}
    (judged : p.fate children worker = .judged result) (verdict : result.verdict = .candidateOnly) :
    p.runOnce children worker = andThen (p.recorded children worker result) fun r =>
      if p.settings.haltOnCandidate then
        (.halted (p.reportOf worker result) .candidateOnly (p.caseOf worker),
          { r.notify (.lastReport (p.reportOf worker result)) with halted := true })
      else (.goOn, r.notify (.report (p.reportOf worker result))) := by
  have settings : (p.counted children worker result).settings = p.settings :=
    (confined_counted children worker result p).settings
  rw [runOnce_of_judged judged, act_eq, settings, recorded, reportOf, verdict]
  cases p.settings.haltOnCandidate <;> rfl

theorem recorded_strict {result : DualResult} (lenient : p.settings.haltOnCandidate = false) :
    p.strict.recorded children worker result =
      ((p.recorded children worker result).1, (p.recorded children worker result).2.strict) := by
  have settings : (p.counted children worker result).settings = p.settings :=
    (confined_counted children worker result p).settings
  have alike : Stricter (p.counted children worker result)
      (p.counted children worker result).strict := ⟨by rw [settings, lenient], rfl⟩
  obtain ⟨answer, after⟩ := kept_stricter.recordEvents
    (findingEvents (p.caseOf worker) result result.verdict) alike
  unfold recorded
  rw [counted_strict, caseOf_strict]
  exact Prod.ext answer after.strict

/-- A crash of the candidate alone that the event log refuses is the end of the call. -/
theorem runOnce_of_refused {i : Iteration σ} {result : DualResult}
    (judged : i.fate = .judged result) (verdict : result.verdict = .candidateOnly)
    (refuses : i.before.events.accepts = false) :
    i.before.runOnce i.turn.children i.turn.worker =
      (.error nullFailure, (i.before.recorded i.turn.children i.turn.worker result).2) := by
  have events : (i.before.counted i.turn.children i.turn.worker result).events =
    i.before.events := (uncounted_executed i).2
  have answer : (i.before.recorded i.turn.children i.turn.worker result).1 =
      .error nullFailure := by
    rw [recorded, verdict]
    exact recordEvents_of_refuses (by rw [events, refuses]) _ []
  rw [runOnce_of_candidateOnly judged verdict]
  rcases recorded : i.before.recorded i.turn.children i.turn.worker result with ⟨result', r⟩
  rw [recorded] at answer
  cases answer
  rfl

/-- Calls do the same in both pools, unless the candidate alone crashes and this is recorded. -/
theorem keptByCalls_stricter : KeptByCalls (Iteration.Unfocused (σ := σ)) Stricter := by
  rintro i _ unfocused ⟨lenient, rfl⟩
  have settings {r : Pool σ} (same : r.settings = i.before.settings) : Stricter r r.strict :=
    ⟨same ▸ lenient, rfl⟩
  have same : (i.before.strict.runOnce i.turn.children i.turn.worker).1 =
        (i.before.runOnce i.turn.children i.turn.worker).1 ∧
      Stricter (i.before.runOnce i.turn.children i.turn.worker).2
        (i.before.strict.runOnce i.turn.children i.turn.worker).2 := by
    by_cases focus : i.CandidateOnly
    · have refuses := unfocused focus
      obtain ⟨result, judged, verdict⟩ := focus
      have judged' : Iteration.fate ⟨i.before.strict, i.turn⟩ = .judged result :=
        (fate_strict _ _ _).trans judged
      have other := runOnce_of_refused judged' verdict refuses
      rw [runOnce_of_refused judged verdict refuses, other, recorded_strict lenient]
      exact ⟨rfl, settings (confined_recorded _ _ _ _).settings⟩
    · have focus' {result : DualResult} (judged : i.fate = .judged result) :
          result.verdict ≠ .candidateOnly := fun verdict => focus ⟨result, judged, verdict⟩
      refine kept_stricter.runOnce (caseOf_strict _ _) (fate_strict _ _ _)
        (fun result judged => Verdict.action_congr (focus' judged) _ _) ?_ (fun _ => ?_)
        fun result _ _ => ?_
      · rw [staged_strict]
        exact settings (confined_staged _ _).settings
      · rw [executed_strict]
        exact settings (confined_executed _ _ _).settings
      · rw [discarded_strict]
        exact ⟨rfl, settings (confined_discarded _ _ _ _).settings⟩
  exact ⟨unfocused, rfl, ⟨lenient, rfl⟩, same.1, same.2⟩

/-- A recorded crash of the candidate alone: the lenient pool reports it and goes on, and the strict
one stops at the same point. -/
theorem answers_of_candidateOnly {i : Iteration σ} {result : DualResult}
    (lenient : i.before.settings.haltOnCandidate = false) (judged : i.fate = .judged result)
    (verdict : result.verdict = .candidateOnly) (accepts : i.before.events.accepts = true) :
    i.answer = .ok .goOn ∧
      i.after = (i.before.recorded i.turn.children i.turn.worker result).2.notify
        (.report (i.before.reportOf i.turn.worker result)) ∧
      i.before.strict.runOnce i.turn.children i.turn.worker =
        (.ok (.halted (i.before.reportOf i.turn.worker result) .candidateOnly i.case),
          { i.after.strict with progress := ⟨true⟩, halted := true }) := by
  have events : (i.before.counted i.turn.children i.turn.worker result).events =
    i.before.events := (uncounted_executed i).2
  have answer : (i.before.recorded i.turn.children i.turn.worker result).1 = .ok () :=
    recordEvents_of_accepts (by rw [events, accepts]) _
  have called := runOnce_of_candidateOnly judged verdict
  have called' := runOnce_of_candidateOnly ((fate_strict _ _ _).trans judged) verdict
  rw [recorded_strict lenient] at called'
  rcases recorded : i.before.recorded i.turn.children i.turn.worker result with ⟨result', r⟩
  rw [recorded] at answer called called'
  cases answer
  rw [lenient] at called
  have after : i.after = r.notify (.report (i.before.reportOf i.turn.worker result)) :=
    congrArg Prod.snd called
  -- Both reports have the same text, and the last one closes the stream.
  have closed : r.progress.after (.lastReport (i.before.reportOf i.turn.worker result)) = ⟨true⟩ :=
    congrArg Progress.mk (Bool.or_true _)
  refine ⟨congrArg Prod.fst called, after, called'.trans (Prod.ext rfl ?_)⟩
  rw [after]
  exact congrArg (fun progress =>
    { (r.notify (.report (i.before.reportOf i.turn.worker result))).strict with
      progress := progress
      halted := true }) closed

/-! ## Loops -/

/-- The call with an index is one of the calls of a loop that starts later. -/
theorem before_call_add (t : Turn) (p : Pool σ) (n m : Nat) :
    (t.call p (n + m)).before = (t.call (t.call p n).before m).before := by
  unfold Turn.call
  rw [← List.replicate_append_replicate]
  exact play_append _ _ p

theorem before_call_succ (t : Turn) (p : Pool σ) (n : Nat) :
    (t.call p (n + 1)).before = (t.call p n).after :=
  before_call_add t p n 1

/-- A later call is one of those that follow an earlier one. -/
theorem exists_call_of_lt {n m : Nat} (above : n < m) (t : Turn) (p : Pool σ) :
    ∃ k, (t.call p m).before = (t.call (t.call p n).after k).before := by
  obtain ⟨k, rfl⟩ := Nat.exists_eq_add_of_lt above
  exact ⟨k, by rw [Nat.add_right_comm, before_call_add, before_call_succ]⟩

/-- What follows in a loop starts in the pool that a call leaves. -/
theorem runWorker_of_goesOn {n : Nat} (running : p.halted = false)
    (goesOn : ∀ k < n + 1, (t.call p k).GoesOn) (fuel : Nat) :
    p.runWorker t.children t.worker (n + (fuel + 1)) =
      (t.call p n).after.runWorker t.children t.worker fuel := by
  rw [← before_call_succ, Nat.add_comm fuel 1, ← Nat.add_assoc]
  exact (runWorker_passes running goesOn fuel).2.1

theorem exists_of_mem_iterations {n : Nat} {i : Iteration σ}
    (member : i ∈ iterations (List.replicate n t) p) : ∃ k < n, i = t.call p k := by
  induction n generalizing p with
  | zero => cases member
  | succ n ih =>
    rcases List.mem_cons.mp member with rfl | later
    · exact ⟨0, Nat.succ_pos n, rfl⟩
    · obtain ⟨k, below, rfl⟩ := ih later
      exact ⟨k + 1, Nat.succ_lt_succ below, rfl⟩

/-- A loop ends between two calls, or after a call whose failure makes the worker give up. -/
theorem exists_calls_of_runWorker {fuel : Nat} {answer : Except Failure Flow}
    (ran : p.runWorker t.children t.worker fuel = some (answer, q)) :
    ∃ n, q = (t.call p n).before ∨ ∃ f, q = ((t.call p n).before.giveUp t.worker f).2 := by
  induction fuel generalizing p with
  | zero => cases ran
  | succ fuel ih =>
    rw [runWorker] at ran
    split at ran
    · cases ran
      exact ⟨0, Or.inl rfl⟩
    · rcases outcome : p.runOnce t.children t.worker with ⟨answer', r⟩
      have next : (t.call p 1).before = r := congrArg Prod.snd outcome
      rw [outcome] at ran
      cases answer' with
      | error f =>
        dsimp only at ran
        split at ran
        · cases ran
          exact ⟨1, Or.inl next.symm⟩
        · refine ⟨1, Or.inr ⟨f, ?_⟩⟩
          rw [next, Option.some.inj ran]
      | ok flow =>
        dsimp only at ran
        split at ran
        · cases ran
          exact ⟨1, Or.inl next.symm⟩
        · obtain ⟨n, ends⟩ := ih ran
          refine ⟨1 + n, ?_⟩
          rw [before_call_add, next]
          exact ends

/-- The loop of the strict pool is that of the lenient one, if no crash of the candidate alone is
recorded in it. -/
theorem runWorker_strict (lenient : p.settings.haltOnCandidate = false) {fuel : Nat}
    (unfocused : ∀ i ∈ callsOf (journalOfRun t fuel p), i.Unfocused) :
    p.strict.runWorker t.children t.worker fuel =
      (p.runWorker t.children t.worker fuel).map fun (answer, q) => (answer, q.strict) := by
  have ends := (kept_stricter.runWorker keptByCalls_stricter ⟨lenient, rfl⟩ unfocused).1
  revert ends
  generalize p.runWorker t.children t.worker fuel = a
  generalize p.strict.runWorker t.children t.worker fuel = b
  rintro (⟨answer, after⟩ | _)
  · exact congrArg some (Prod.ext answer after.strict)
  · rfl

theorem before_call_strict (lenient : p.settings.haltOnCandidate = false) {n : Nat}
    (unfocused : ∀ k < n, (t.call p k).Unfocused) :
    (t.call p.strict n).before = (t.call p n).before.strict := by
  refine (Kept.play keptByCalls_stricter ⟨lenient, rfl⟩ fun i member => ?_).strict
  obtain ⟨k, below, rfl⟩ := exists_of_mem_iterations member
  exact unfocused k below

end Pool

/-! ## The file of the case -/

namespace Pool

variable {σ : Type} {p q : Pool σ}

/-- The path of the case leads to the location, where a text is that starts with the source of the
case. -/
structure HeldAt (case : TestCase) (l : Location) (p : Pool σ) : Prop where
  place : p.host.files.IsPlace case.path l
  text : ∃ added, p.host.files.contents? l = some (case.source ++ added)

theorem HeldAt.extends {case : TestCase} {l : Location} {touched : Location → Prop}
    (held : HeldAt case l p) (step : Confined touched p q) (grows : Extends l p q) :
    HeldAt case l q := by
  obtain ⟨added, text⟩ := held.text
  obtain ⟨more, text'⟩ := grows _ text
  exact ⟨step.isPlace_iff.mpr held.place, added ++ more, by rw [text', String.append_assoc]⟩

theorem confined_writeErr (text : String) (sound : p.Sound) :
    Confined p.host.LogsAt p { p with host := p.host.writeErr text } := by
  unfold Host.writeErr
  cases transcript : p.host.transcript with
  | none => exact .of_eq rfl rfl rfl rfl rfl
  | some t =>
    dsimp only
    rcases Host.writeOut_cases text p.host with ⟨files, logs⟩ | ⟨l, new, here, files, logs⟩
    · exact ⟨rfl, rfl, rfl, by rw [files]; exact .refl _, fun l _ => by rw [files],
        fun l => (logs l).mp⟩
    · have step : Confined (· = l) p { p with host := p.host.writeOut text } :=
        confined_put rfl rfl rfl (sound l here) files fun l' => (logs l').mp
      refine step.mono ?_
      rintro l' rfl
      exact here

theorem confined_writeErrAll (texts : List String) (sound : p.Sound) :
    Confined p.host.LogsAt p { p with host := p.host.writeErrAll texts } := by
  induction texts generalizing p with
  | nil => exact .refl _ p
  | cons text texts ih =>
    have first := confined_writeErr text sound
    exact first.trans ((ih (first.sound sound)).mono first.transcript)

theorem confined_writeTrace (f : Failure) (sound : p.Sound) :
    Confined p.host.LogsAt p { p with host := p.host.writeTrace f } :=
  confined_writeErrAll (p.host.trace f) sound

theorem confined_failureNoted (worker : Nat) (f : Failure) (p : Pool σ) :
    Confined (fun _ => True) p (p.failureNoted worker f) := by
  have counted : Confined (fun _ => True) p { p with stats := p.stats.recordFailure } :=
    .of_eq rfl rfl rfl rfl rfl
  exact counted.trans ((confined_recordEvent _ _).mono fun _ _ => trivial)

theorem confined_giveUp (worker : Nat) (f : Failure) (sound : p.Sound) :
    Confined (fun _ => True) p (p.giveUp worker f).2 := by
  have noted := confined_failureNoted worker f p
  cases accepts : p.events.accepts with
  | false =>
    rw [giveUp_of_refuses accepts]
    exact noted
  | true =>
    rw [giveUp_of_accepts accepts]
    have told := confined_notify (.lastReport (failureLine worker f)) (noted.sound sound)
    have told' := noted.trans (told.mono fun _ _ => trivial)
    have traced := confined_writeTrace f (told'.sound sound)
    exact (told'.trans (traced.mono fun _ _ => trivial)).trans (.of_eq rfl rfl rfl rfl rfl)

/-- A worker that gives up adds to the event log and writes the transcript. -/
theorem extends_giveUp (worker : Nat) (f : Failure) (sound : p.Sound) {l : Location}
    (noTranscript : ¬ p.host.LogsAt l) : Extends l p (p.giveUp worker f).2 := by
  have noted := confined_failureNoted worker f p
  have grows : Extends l p (p.failureNoted worker f) :=
    extends_recordEvent (.infrastructureError worker f.shown) l
      { p with stats := p.stats.recordFailure }
  cases accepts : p.events.accepts with
  | false =>
    rw [giveUp_of_refuses accepts]
    exact grows
  | true =>
    rw [giveUp_of_accepts accepts]
    have told := confined_notify (.lastReport (failureLine worker f)) (noted.sound sound)
    have told' := noted.trans (told.mono fun _ _ => trivial)
    have traced := confined_writeTrace f (told'.sound sound)
    refine grows.trans (.trans (told.extends fun logs => ?_) (traced.extends fun logs => ?_))
    · exact noTranscript (noted.transcript l logs)
    · exact noTranscript (told'.transcript l logs)

variable [DrawSource σ] {p q : Pool σ} {t : Turn}

/-- The file of a case is there after a recorded crash of the candidate alone. -/
theorem heldAt_of_candidateOnly {i : Iteration σ} (plain : i.Plain) (sound : i.before.Sound)
    {result : DualResult} (judged : i.fate = .judged result)
    (after : i.after = (i.before.recorded i.turn.children i.turn.worker result).2.notify
      (.report (i.before.reportOf i.turn.worker result)))
    (noTranscript : ∀ l, i.before.host.files.IsPlace i.case.path l → ¬ i.before.host.LogsAt l) :
    ∃ l, HeldAt i.case l i.after ∧ ¬ i.after.host.LogsAt l := by
  obtain ⟨l, found, source⟩ := holds_source_executed (i := i) (by simp [judged])
    fun s _ => (plain s.variant).keeps
  have executed := confined_executed i.turn.children i.turn.worker i.before
  have place := ((resolve_child_iff (Source.fileName_ne_parent _)).mp found).1
  have held : HeldAt i.case l (i.before.counted i.turn.children i.turn.worker result) :=
    ⟨place, "", source.trans (congrArg some String.append_empty.symm)⟩
  have recorded := confined_recordEvents (findingEvents i.case result result.verdict)
    (i.before.counted i.turn.children i.turn.worker result)
  have all : Confined (fun _ => True) i.before
      (i.before.recorded i.turn.children i.turn.worker result).2 :=
    (confined_recorded i.turn.children i.turn.worker result i.before).mono fun _ _ => trivial
  have told := confined_notify (.report (i.before.reportOf i.turn.worker result))
    (all.sound sound)
  have silent : ¬ (i.before.recorded i.turn.children i.turn.worker result).2.host.LogsAt l :=
    fun logs => noTranscript l (executed.isPlace_iff.mp place) (all.transcript l logs)
  have held' : HeldAt i.case l (i.before.recorded i.turn.children i.turn.worker result).2 :=
    held.extends recorded (extends_recordEvents _ l _)
  rw [after]
  exact ⟨l, held'.extends told (told.extends silent), fun logs => silent (told.transcript l logs)⟩

/-- The file of a case is kept by the calls that follow its own. -/
theorem heldAt_of_later {i : Iteration σ} {l : Location} (sound : i.after.Sound)
    (held : HeldAt i.case l i.after) (noTranscript : ¬ i.after.host.LogsAt l) (turns : List Turn) :
    HeldAt i.case l (play turns i.after) := by
  have settings : i.after.settings = i.before.settings := (tells_runOnce i).settings
  have counter : i.after.counter.value = i.before.counter.value + 1 :=
    congrArg Counter.value (counter_runOnce _ _ _)
  refine held.extends (confined_play turns sound)
    (extends_play turns sound (fun j member place => ?_) noTranscript)
  -- A later case has a greater number, so its file has another name in the same directory.
  obtain ⟨n, number⟩ := identifier_of_mem member
  have path := path_of_mem sound member
  rw [number, settings] at path
  have own := held.place
  rw [path] at place
  have same := Source.fileName_injective (IsPlace.child_injective own place)
  rw [counter] at same
  omega

/-- The file of a case is kept in the end of a loop that follows its call. -/
theorem heldAt_of_runWorker {i : Iteration σ} {l : Location} (sound : i.after.Sound)
    (held : HeldAt i.case l i.after) (noTranscript : ¬ i.after.host.LogsAt l) {fuel : Nat}
    {answer : Except Failure Flow}
    (ran : i.after.runWorker t.children t.worker fuel = some (answer, q)) :
    HeldAt i.case l q := by
  obtain ⟨k, rfl | ⟨f, rfl⟩⟩ := exists_calls_of_runWorker ran
  · exact heldAt_of_later sound held noTranscript (List.replicate k t)
  · have kept := heldAt_of_later sound held noTranscript (List.replicate k t)
    have since := confined_play (List.replicate k t) sound
    have grows := extends_giveUp t.worker f (since.sound sound)
      fun logs => noTranscript (since.transcript l logs)
    exact kept.extends (confined_giveUp t.worker f (since.sound sound)) grows

/-! ## The loop with and without halting -/

/-- The loop of a worker in the pool `p` meets a crash of the candidate alone in the call with the
index `n`, with `result`. What the loop comes to if it halts there, and if it goes on.

* `strict`: the strict loop answers the report with the verdict and the case, and leaves the pool
  that the call leaves in the lenient loop, but shut down. So the files, the statistics, the counts
  of events and all other parts are as they are then.
* `out`: the last text is the report.
* `goesOn`: the lenient loop goes on.
* `calls`, `ends`: what it prints later is behind that, wherever it is and wherever it ends.
* `kept`: the file of the case is there in the end of the strict loop, and in the lenient loop
  wherever it is and wherever it ends, unless the transcript has overwritten it. -/
structure CutShort (t : Turn) (n fuel : Nat) (result : DualResult) (p : Pool σ) : Prop where
  strict : p.strict.runWorker t.children t.worker fuel =
    some (.ok (.halted ((t.call p n).before.reportOf t.worker result) .candidateOnly
        (t.call p n).case),
      { (t.call p n).after.strict with progress := ⟨true⟩, halted := true })
  out : (t.call p n).after.host.out = (t.call p n).before.host.out ++
    ("\n" ++ (t.call p n).before.reportOf t.worker result ++ "\n")
  goesOn : (t.call p n).GoesOn
  calls : ∀ m, n < m → ∃ more,
    (t.call p m).before.host.out = (t.call p n).after.host.out ++ more
  ends : ∀ answer q, p.runWorker t.children t.worker fuel = some (answer, q) →
    ∃ more, q.host.out = (t.call p n).after.host.out ++ more
  kept : p.Sound → (∀ l, p.host.files.IsPlace (t.call p n).case.path l → ¬ p.host.LogsAt l) →
    ∃ l, HeldAt (t.call p n).case l (t.call p n).after ∧
      (∀ m, n < m → HeldAt (t.call p n).case l (t.call p m).before) ∧
      ∀ answer q, p.runWorker t.children t.worker fuel = some (answer, q) →
        HeldAt (t.call p n).case l q

theorem stopped_of_plain {i : Iteration σ} (plain : i.Plain) : i.stopped = false := by
  unfold Iteration.stopped
  rw [List.any_eq_false]
  exact fun s _ => Bool.eq_false_iff.mp (plain s.variant).quiet

/-- Calls that go on do so in the strict pool, too. -/
theorem goesOn_strict {i : Iteration σ} (plain : i.Plain)
    (lenient : i.before.settings.haltOnCandidate = false) (other : ¬ i.CandidateOnly)
    (goesOn : i.GoesOn) : Iteration.GoesOn ⟨i.before.strict, i.turn⟩ := by
  have paired := keptByCalls_stricter i i.before.strict (fun focus => absurd focus other)
    ⟨lenient, rfl⟩
  refine ⟨fun f => ?_, fun result judged => ?_, stopped_of_plain (i := ⟨_, i.turn⟩) plain⟩
  · rw [paired.answer]
    exact goesOn.succeeds f
  · have judged' : i.fate = .judged result := (fate_strict _ _ _).symm.trans judged
    rw [Verdict.action_congr (fun verdict => other ⟨result, judged', verdict⟩) _
      i.before.settings.haltOnCandidate]
    exact goesOn.stays result judged'

/-- A reported case that is worth a look is the last text after its call. -/
theorem out_of_reported {i : Iteration σ} (opened : i.before.progress.closed = false)
    (running : i.stopped = false) {result : DualResult} (judged : i.fate = .judged result)
    (worthy : result.verdict ≠ .uninteresting) (answer : i.answer = .ok .goOn) :
    i.after.host.out = i.before.host.out ++
      ("\n" ++ i.before.reportOf i.turn.worker result ++ "\n") := by
  have ending : i.ending = [.reported (i.before.reportOf i.turn.worker result)] := by
    unfold Iteration.ending
    rw [i.runOnce_eq_answer, answer, judged, Iteration.reportOf_eq_reportLine judged]
    exact if_neg worthy
  rw [(tells_runOnce i).out, opened, Iteration.happenings, ending, shown_stops, running]
  simp [Happening.shown, Happening.text, Happening.trace]

theorem out_of_later (t : Turn) (m : Nat) (p : Pool σ) :
    ∃ more, (t.call p m).before.host.out = p.host.out ++ more :=
  ⟨_, (tells_journal (performAll_replicate t m p)).out⟩

/-- The strict loop is ended by the first crash of the candidate alone. -/
theorem strict_runWorker_of_candidateOnly {n : Nat} {answer : Flow}
    (plain : ∀ case v, (t.children case v).OnlyEnds) (running : p.halted = false)
    (lenient : p.settings.haltOnCandidate = false)
    (before : ∀ k < n, (t.call p k).GoesOn ∧ ¬ (t.call p k).CandidateOnly)
    (stops : (t.call p n).before.strict.runOnce t.children t.worker = (.ok answer, q))
    (halts : answer.halts = true) (fuel : Nat) :
    p.strict.runWorker t.children t.worker (n + (fuel + 1)) = some (.ok answer, q) := by
  have strictCall {k : Nat} (upTo : k ≤ n) :
      t.call p.strict k = ⟨(t.call p k).before.strict, t⟩ :=
    congrArg (Iteration.mk · t) (before_call_strict lenient fun j below focus =>
      absurd focus (before j (Nat.lt_of_lt_of_le below upTo)).2)
  have passes : ∀ k < n, (t.call p.strict k).GoesOn := by
    intro k below
    rw [strictCall (Nat.le_of_lt below)]
    refine goesOn_strict (plain _) ?_ (before k below).2 (before k below).1
    rw [(tells_journal (performAll_replicate t k p)).settings, lenient]
  have answer' : (t.call p.strict n).answer = .ok answer := by
    rw [strictCall (Nat.le_refl n)]
    exact congrArg Prod.fst stops
  have after' : (t.call p.strict n).after = q := by
    rw [strictCall (Nat.le_refl n)]
    exact congrArg Prod.snd stops
  rw [(runWorker_of_halts (p := p.strict) running passes answer' halts fuel).1, after']

theorem cutShort_of_candidateOnly {n fuel : Nat} {result : DualResult}
    (plain : ∀ case v, (t.children case v).OnlyEnds) (running : p.halted = false)
    (opened : (t.call p n).before.progress.closed = false)
    (lenient : p.settings.haltOnCandidate = false) (accepts : p.events.accepts = true)
    (before : ∀ k < n, (t.call p k).GoesOn ∧ ¬ (t.call p k).CandidateOnly)
    (judged : (t.call p n).fate = .judged result) (verdict : result.verdict = .candidateOnly)
    (enough : n < fuel) : CutShort t n fuel result p := by
  obtain ⟨fuel, rfl⟩ : ∃ more, fuel = n + (more + 1) := ⟨fuel - n - 1, by omega⟩
  have lenient' : (t.call p n).before.settings.haltOnCandidate = false := by
    rw [(tells_journal (performAll_replicate t n p)).settings, lenient]
  have accepts' : (t.call p n).before.events.accepts = true := by
    rw [EventLog.accepts_congr (balanced_performAll (performAll_replicate t n p)).logPath, accepts]
  obtain ⟨answer, after, stops⟩ := answers_of_candidateOnly lenient' judged verdict accepts'
  have plainCall : (t.call p n).Plain := plain _
  have stopped := stopped_of_plain plainCall
  have goesOn : (t.call p n).GoesOn := by
    refine ⟨fun f failed => ?_, fun other fate halt => ?_, stopped⟩
    · rw [answer] at failed
      cases failed
    · rw [judged] at fate
      cases fate
      rw [verdict, lenient'] at halt
      cases halt
  have all : ∀ k < n + 1, (t.call p k).GoesOn := by
    intro k below
    rcases Nat.lt_succ_iff_lt_or_eq.mp below with earlier | rfl
    · exact (before k earlier).1
    · exact goesOn
  have rest := runWorker_of_goesOn running all fuel
  refine ⟨strict_runWorker_of_candidateOnly plain running lenient before stops rfl fuel,
    out_of_reported opened stopped judged (by rw [verdict]; decide) answer, goesOn,
    fun m above => ?_, fun answer' q ran => ?_, fun sound noTranscript => ?_⟩
  · obtain ⟨k, same⟩ := exists_call_of_lt above t p
    rw [same]
    exact out_of_later t k _
  · rw [rest] at ran
    exact ⟨_, (tells_journal (performAll_run ran)).out⟩
  · have earlier := confined_play (List.replicate n t) sound
    have own := confined_runOnce t.children t.worker (earlier.sound sound)
    have sound' : (t.call p n).after.Sound := own.sound (earlier.sound sound)
    obtain ⟨l, held, silent⟩ :=
      heldAt_of_candidateOnly plainCall (earlier.sound sound) judged after fun l place logs =>
        noTranscript l (earlier.isPlace_iff.mp place) (earlier.transcript l logs)
    refine ⟨l, held, fun m above => ?_, fun answer' q ran => ?_⟩
    · obtain ⟨k, same⟩ := exists_call_of_lt above t p
      rw [same]
      exact heldAt_of_later sound' held silent (List.replicate k t)
    · rw [rest] at ran
      exact heldAt_of_runWorker sound' held silent ran

variable {settings : RunSettings} {substitute : Bool} {sources : Nat → σ} {host h : Host}

omit [DrawSource σ] in
theorem start_strict
    (started : start (settings.haltingOn false) substitute sources host = (.ok p, h)) :
    start (settings.haltingOn true) substitute sources host = (.ok p.strict, h) := by
  have fresh := fresh_of_start started
  have events : p.events = { path := (settings.haltingOn true).healthLog } := fresh.events
  refine (start_of_started started (by rfl)).trans ?_
  rw [← events]
  unfold strict
  rw [fresh.settings]
  rfl

/-- The loop of a worker without and with halting on crashes of the candidate, in pools that have
just been started.

* Where the first one can be started, so can the second one.
* As long as no crash of the candidate alone has been recorded, both loops pass through the same
  pools, but for the setting.
* If there is none in the whole loop, both have the same answer and come to the same end. So it is,
  too, if the event log refuses to record it.
* Otherwise let the children do nothing but end. If all calls before the first such case go on, the
  second loop is the first one cut short after it. -/
theorem cutShort_runWorker
    (started : start (settings.haltingOn false) substitute sources host = (.ok p, h)) (t : Turn) :
    start (settings.haltingOn true) substitute sources host = (.ok p.strict, h) ∧
      (∀ n, (∀ k < n, (t.call p k).Unfocused) →
        (t.call p.strict n).before = (t.call p n).before.strict) ∧
      (∀ fuel, (∀ i ∈ callsOf (journalOfRun t fuel p), i.Unfocused) →
        p.strict.runWorker t.children t.worker fuel =
          (p.runWorker t.children t.worker fuel).map fun (answer, q) => (answer, q.strict)) ∧
      ((∀ case v, (t.children case v).OnlyEnds) →
        (∀ path ∈ settings.healthLog, hasNull path = false) → ∀ n fuel result,
        (∀ k < n, (t.call p k).GoesOn ∧ ¬ (t.call p k).CandidateOnly) →
        (t.call p n).fate = .judged result → result.verdict = .candidateOnly → n < fuel →
        CutShort t n fuel result p) := by
  have fresh := fresh_of_start started
  have lenient : p.settings.haltOnCandidate = false := by
    rw [fresh.settings]
    rfl
  refine ⟨start_strict started, fun n => before_call_strict lenient,
    fun fuel => runWorker_strict lenient,
    fun plain asked n fuel result before judged verdict enough => ?_⟩
  have accepts : p.events.accepts = true := by
    rw [EventLog.accepts_iff, fresh.events]
    exact asked
  have running := (runWorker_passes fresh.halted (fun k below => (before k below).1) 0).1
  have opened : (t.call p n).before.progress.closed = false :=
    (halted_eq_closed started (performAll_replicate t n p)).symm.trans running
  exact cutShort_of_candidateOnly plain fresh.halted opened lenient accepts before judged verdict
    enough

/-- Children of which the baseline crashes on the first case, the candidate on the second one, and
both on the next ones. -/
def crashingInTurn : Children := fun case v =>
  if case.identifier = 0 then Children.exiting 101 1 case v
  else if case.identifier = 1 then Children.exiting 1 101 case v
  else Children.exiting 101 101 case v

theorem onlyEnds_exiting (baseline candidate : Int) (case : TestCase) (v : Variant) :
    (Children.exiting baseline candidate case v).OnlyEnds :=
  ⟨rfl, rfl⟩

/-- The loop is cut short after its second case, though it goes on to the third one otherwise. -/
theorem cutShort_after_second_case :
    CutShort ⟨0, crashingInTurn⟩ 1 4
      ⟨⟨⟨"baseline", "+nightly"⟩, some 1, .notCrashed⟩,
        ⟨⟨"candidate", "+stage1"⟩, some 101, .crashed⟩⟩ (small "/sbx" []) ∧
    ∃ q, (small "/sbx" []).runWorker crashingInTurn 0 4 = some (.ok (.halted
        "BOTH ICE (case 2): /sbx/fuzz2.rs" .bothCrashed ((play
          (List.replicate 2 ⟨0, crashingInTurn⟩) (small "/sbx" [])).caseOf 0)), q) := by
  have started : start ((RunSettings.small (.ofText "/sbx")).haltingOn false) false
      (fun _ => Zeros.mk) (small "/sbx" []).host =
    (.ok (small "/sbx" []), (small "/sbx" []).host) := start_small []
  obtain ⟨_, _, _, cutShort⟩ := cutShort_runWorker started ⟨0, crashingInTurn⟩
  have plain (case : TestCase) (v : Variant) : (crashingInTurn case v).OnlyEnds := by
    unfold crashingInTurn
    split
    · exact onlyEnds_exiting _ _ case v
    · split <;> exact onlyEnds_exiting _ _ case v
  have fate : (Turn.call ⟨0, crashingInTurn⟩ (small "/sbx" []) 0).fate =
      .judged ⟨⟨⟨"baseline", "+nightly"⟩, some 101, .crashed⟩,
        ⟨⟨"candidate", "+stage1"⟩, some 1, .notCrashed⟩⟩ := rfl
  have first : (Turn.call ⟨0, crashingInTurn⟩ (small "/sbx" []) 0).GoesOn ∧
      ¬ (Turn.call ⟨0, crashingInTurn⟩ (small "/sbx" []) 0).CandidateOnly := by
    refine ⟨⟨fun f failed => ?_, fun result judged halt => ?_, rfl⟩, ?_⟩
    · have answer : (Turn.call ⟨0, crashingInTurn⟩ (small "/sbx" []) 0).answer = .ok .goOn := rfl
      rw [answer] at failed
      cases failed
    · rw [fate] at judged
      cases judged
      cases halt
    · rintro ⟨result, judged, verdict⟩
      rw [fate] at judged
      cases judged
      cases verdict
  refine ⟨cutShort plain (by simp [RunSettings.small]) 1 4 _ (fun k below => ?_) rfl rfl
    (by decide), _, rfl⟩
  rw [Nat.lt_one_iff.mp below]
  exact first

/-- A crash of the candidate alone that the event log refuses does not halt the run: the loop
fails. -/
theorem focus_lost_to_refusing_log :
    ∃ p h q, start (σ := Zeros)
        { RunSettings.small (.ofText "/sbx") with
          haltOnCandidate := true
          healthLog := some (.ofText "/sbx/h\x00") }
        false (fun _ => {}) (small "/sbx" []).host = (.ok p, h) ∧
      (Turn.call ⟨0, .exiting 1 101⟩ p 0).CandidateOnly ∧
      p.runWorker (.exiting 1 101) 0 1 = some (.error nullFailure, q) ∧
      q.halted = false ∧ q.host.out = "" ∧ q.events.counts = [] :=
  ⟨_, _, _, rfl, ⟨_, rfl, rfl⟩, rfl, rfl, rfl, rfl⟩

end Pool

end CrashDiff
