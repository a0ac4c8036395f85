import CrashDiff.Proofs.Run.Compilation
import CrashDiff.Proofs.Run.Lockstep

/-!
# One after the other or both at once

In parallel both variants are run on a case whatever happens; otherwise a failure of the baseline is
the end. As long as the children do nothing but end, this makes no difference to what becomes of a
run: only the account of starts and the logged messages tell the two apart. The outcome of a pool is
all of it but these.

Results:
1. `execute_of_plain`: both variants come to what the ends of their children say, and leave the
   outcome of the pool alone.
2. `kept_sameOutcome`, `keptByCalls_sameOutcome`: pools with the same outcome stay so.
3. `agrees_of_paired`: what two calls have in common, and in which starts they differ.
-/

namespace CrashDiff

open FileSystem JournalEntry

/-- The child does nothing but end: it leaves the file of the case and the run alone. -/
structure Child.OnlyEnds (c : Child) : Prop where
  keeps : c.removesSource = false
  quiet : c.stopsRun = false

/-- Whether the child has failed to start. -/
def Ending.fails : Ending → Bool
  | .exited _ => false
  | .failed _ => true

/-- The children of the call do nothing but end. -/
def Iteration.Plain {σ : Type} [DrawSource σ] (i : Iteration σ) : Prop :=
  ∀ v, (i.turn.children i.case v).OnlyEnds

/-- The settings with both variants run at once, or one after the other. -/
def RunSettings.inParallel (both : Bool) (s : RunSettings) : RunSettings :=
  { s with
    execution := { s.execution with parallel := both }
    execution_valid :=
      ⟨s.execution_valid.crashCode_distinct, s.execution_valid.names_distinct⟩ }

namespace Host

/-- The host without the messages, and without the console error stream that shows them. -/
def muted (h : Host) : Host :=
  { h with messages := [], err := "" }

theorem muted_writeOut (text : String) (h : Host) :
    (h.writeOut text).muted = (h.muted.writeOut text).muted := by
  obtain ⟨files, time, stamp, out, err, transcript, messages, shownFrom⟩ := h
  cases transcript <;> rfl

theorem muted_writeErr (text : String) (h : Host) :
    (h.writeErr text).muted = (h.muted.writeErr text).muted := by
  obtain ⟨files, time, stamp, out, err, transcript, messages, shownFrom⟩ := h
  cases transcript <;> rfl

@[simp] theorem muted_log (m : Message) (h : Host) : (h.log m).muted = h.muted := by
  unfold log
  dsimp only
  split <;> rfl

end Host

namespace Pool

variable {σ : Type} {children : Children} {case : TestCase} {v : Variant} {p q r : Pool σ}

/-- The pool with both variants run at once, or one after the other. -/
def inParallel (both : Bool) (p : Pool σ) : Pool σ :=
  { p with settings := p.settings.inParallel both }

/-! ## Outcomes -/

/-- What has become of a run: all of the pool but how the variants are run, the account of starts,
the messages, and the console error stream that shows them. -/
def outcome (p : Pool σ) : Pool σ :=
  { p with
    settings := p.settings.inParallel false
    calls := []
    host := p.host.muted }

/-- Both pools have the same outcome. -/
def SameOutcome (p q : Pool σ) : Prop :=
  q.outcome = p.outcome

theorem SameOutcome.refl (p : Pool σ) : SameOutcome p p :=
  rfl

theorem SameOutcome.symm (same : SameOutcome p q) : SameOutcome q p :=
  Eq.symm same

theorem SameOutcome.trans (first : SameOutcome p q) (second : SameOutcome q r) :
    SameOutcome p r :=
  Eq.trans second first

/-- What depends on the outcome only is the same. -/
theorem SameOutcome.map {α : Type} (same : SameOutcome p q) (f : Pool σ → α) :
    f q.outcome = f p.outcome :=
  congrArg f same

/-- A step that does the same to the outcome as to the whole pool keeps outcomes the same. -/
theorem SameOutcome.step {α : Type} {f : Pool σ → α × Pool σ}
    (answers : ∀ r, (f r).1 = (f r.outcome).1)
    (outcomes : ∀ r, (f r).2.outcome = (f r.outcome).2.outcome) (same : SameOutcome p q) :
    (f q).1 = (f p).1 ∧ SameOutcome (f p).2 (f q).2 := by
  have equal : q.outcome = p.outcome := same
  constructor
  · rw [answers q, answers p, equal]
  · rw [SameOutcome, outcomes q, outcomes p, equal]

theorem outcome_notify (n : Notice) (p : Pool σ) :
    (p.notify n).outcome = (p.outcome.notify n).outcome := by
  have host (text : String) : (if text.isEmpty then p.host else p.host.writeOut text).muted =
      (if text.isEmpty then p.host.muted else p.host.muted.writeOut text).muted := by
    split
    · rfl
    · exact Host.muted_writeOut text p.host
  exact congrArg (fun host => { p.outcome with progress := p.progress.after n, host := host })
    (host (p.progress.written n))

theorem outcome_writeErr (text : String) (p : Pool σ) :
    outcome { p with host := p.host.writeErr text } =
      outcome { p.outcome with host := p.outcome.host.writeErr text } :=
  congrArg (fun host => { p.outcome with host := host }) (Host.muted_writeErr text p.host)

theorem outcome_recordEvent (e : Event) (p : Pool σ) :
    (p.recordEvent e).2.outcome = (p.outcome.recordEvent e).2.outcome := rfl

theorem removeFile_sameOutcome (path : Path) (same : SameOutcome p q) :
    (q.removeFile path).1 = (p.removeFile path).1 ∧
      SameOutcome (p.removeFile path).2 (q.removeFile path).2 := by
  have removes (r : Pool σ) : (r.removeFile path).1 = (r.outcome.removeFile path).1 ∧
      (r.removeFile path).2.outcome = (r.outcome.removeFile path).2.outcome := by
    unfold removeFile Host.remove outcome Host.muted
    dsimp only
    rcases FileSystem.remove path r.host.files with ⟨answer, files⟩
    cases answer <;> exact ⟨rfl, rfl⟩
  exact same.step (fun r => (removes r).1) (fun r => (removes r).2)

/-- What follows a verdict does the same to pools with the same outcome. -/
theorem kept_sameOutcome : Kept (SameOutcome (σ := σ)) where
  halted same := same.map Pool.halted
  halt same := same.map (α := Pool σ) fun r => { r with halted := true }
  count change same := same.map (α := Pool σ) fun r => { r with stats := change r.stats }
  recordEvent e same := same.step (f := recordEvent e) (fun _ => rfl) (outcome_recordEvent e)
  notify n same := (same.step (f := fun r => ((), r.notify n)) (fun _ => rfl) (outcome_notify n)).2
  writeErr text same :=
    (same.step (f := fun r => ((), { r with host := r.host.writeErr text })) (fun _ => rfl)
      (outcome_writeErr text)).2
  trace same := same.map fun r => r.host.trace

/-! ## Runs of plain children -/

/-- What a child that only ends comes to. -/
def resultOfChild (v : Variant) (child : Child) (p : Pool σ) : Except Failure VariantResult :=
  match child.ending with
  | .failed f => .error f
  | .exited code => .ok (p.resultOf v child code)

/-- The pool after the start of a child that only ends. -/
def afterStart (case : TestCase) (v : Variant) (p : Pool σ) : Pool σ :=
  { p with calls := p.calls ++ [p.callOf case v] }

/-- The pool after the end of a child: it logs a message about an exit code. -/
def afterEnd (case : TestCase) (v : Variant) (child : Child) (p : Pool σ) : Pool σ :=
  match child.ending with
  | .failed _ => p
  | .exited code =>
    if p.substitute then p
    else
      let message := ExecutionSettings.finishedMessage (p.resultOf v child code) case.path
      { p with host := p.host.log message }

/-- What both variants come to on a case. The failure of the baseline counts before that of the
candidate. -/
def joined (children : Children) (case : TestCase) (p : Pool σ) : Except Failure DualResult :=
  match p.resultOfChild p.settings.execution.baseline
      (children case p.settings.execution.baseline),
    p.resultOfChild p.settings.execution.candidate
      (children case p.settings.execution.candidate) with
  | .error f, _ => .error f
  | .ok _, .error f => .error f
  | .ok baseline, .ok candidate => .ok ⟨baseline, candidate⟩

@[simp] theorem outcome_afterStart (case : TestCase) (v : Variant) (p : Pool σ) :
    (p.afterStart case v).outcome = p.outcome := rfl

@[simp] theorem outcome_afterEnd (case : TestCase) (v : Variant) (child : Child) (p : Pool σ) :
    (p.afterEnd case v child).outcome = p.outcome := by
  unfold afterEnd
  split
  · rfl
  · split
    · rfl
    · exact congrArg (fun host => { p.outcome with host := host }) (Host.muted_log _ _)

theorem SameOutcome.resultOfChild_eq (same : SameOutcome p q) (v : Variant) (child : Child) :
    q.resultOfChild v child = p.resultOfChild v child :=
  same.map (resultOfChild v child)

theorem SameOutcome.joined_eq (same : SameOutcome p q) (children : Children) (case : TestCase) :
    q.joined children case = p.joined children case :=
  same.map (joined children case)

theorem launch_of_plain {child : Child} (plain : child.OnlyEnds) (p : Pool σ) :
    p.launch case v child = (.ok (), p.afterStart case v) := by
  unfold launch
  rw [plain.keeps, plain.quiet]
  rfl

theorem runVariant_of_plain (plain : (children case v).OnlyEnds) (p : Pool σ) :
    p.runVariant children case v = (p.resultOfChild v (children case v),
      (p.afterStart case v).afterEnd case v (children case v)) := by
  unfold runVariant resultOfChild afterEnd
  dsimp only
  rw [launch_of_plain plain]
  dsimp only
  cases (children case v).ending with
  | failed f => rfl
  | exited code =>
    dsimp only
    split <;> rfl

theorem outcome_runVariant_of_plain (plain : (children case v).OnlyEnds) (p : Pool σ) :
    (p.runVariant children case v).2.outcome = p.outcome := by
  rw [runVariant_of_plain plain, outcome_afterEnd, outcome_afterStart]

/-- Both variants come to what the ends of their children say, whether they are run at once or one
after the other, and leave the outcome of the pool alone. -/
theorem execute_of_plain (plain : ∀ v, (children case v).OnlyEnds) (p : Pool σ) :
    (p.execute children case).1 = p.joined children case ∧
      SameOutcome p (p.execute children case).2 := by
  unfold execute ExecutionSettings.runBoth joined
  dsimp only
  rw [runVariant_of_plain (plain _) p]
  have first : SameOutcome p ((p.afterStart case p.settings.execution.baseline).afterEnd case
      p.settings.execution.baseline (children case p.settings.execution.baseline)) := by
    rw [SameOutcome, outcome_afterEnd, outcome_afterStart]
  -- From here on the candidate is run in the pool that the baseline has left.
  generalize (p.afterStart case p.settings.execution.baseline).afterEnd case
    p.settings.execution.baseline (children case p.settings.execution.baseline) = p' at first
  have second : SameOutcome p (p'.runVariant children case p.settings.execution.candidate).2 :=
    first.trans (outcome_runVariant_of_plain (plain _) p')
  cases p.resultOfChild p.settings.execution.baseline
    (children case p.settings.execution.baseline) with
  | error f =>
    refine ⟨rfl, ?_⟩
    dsimp only
    split
    · exact second
    · exact first
  | ok baseline =>
    dsimp only at second ⊢
    rw [runVariant_of_plain (plain _) p', first.resultOfChild_eq] at second ⊢
    cases p.resultOfChild p.settings.execution.candidate
      (children case p.settings.execution.candidate) with
    | error f => exact ⟨rfl, second⟩
    | ok candidate => exact ⟨rfl, second⟩

/-- Both variants are started on a case, unless the baseline cannot be run and the variants are run
one after the other. -/
theorem variants_launches_of_plain (plain : ∀ v, (children case v).OnlyEnds) (p : Pool σ) :
    (p.launches children case).map (·.variant) =
      if (children case p.settings.execution.baseline).ending.fails &&
          !p.settings.execution.parallel then
        [p.settings.execution.baseline]
      else [p.settings.execution.baseline, p.settings.execution.candidate] := by
  have baseline := runVariant_of_plain (plain p.settings.execution.baseline) p
  unfold launches ExecutionSettings.runBoth watch
  dsimp only
  rw [baseline, resultOfChild]
  cases (children case p.settings.execution.baseline).ending with
  | failed f =>
    cases p.settings.execution.parallel with
    | true => rfl
    | false => rfl
  | exited code =>
    dsimp only
    rcases (afterEnd case p.settings.execution.baseline
      (children case p.settings.execution.baseline)
      (p.afterStart case p.settings.execution.baseline)).runVariant children case
        p.settings.execution.candidate with ⟨result', p''⟩
    cases result' <;> rfl

/-! ## Calls -/

/-- How far a staged case comes with what both variants come to. -/
def fateOf : Except Failure DualResult → Fate
  | .error f => .unrun f
  | .ok result => .judged result

variable [DrawSource σ] {worker : Nat}

theorem fate_of_plain (plain : ∀ v, (children (p.caseOf worker) v).OnlyEnds) :
    p.fate children worker =
      match ((p.nextCase worker).2.stage (p.caseOf worker)).1 with
      | .error f => .unstaged f
      | .ok () => fateOf (p.joined children (p.caseOf worker)) := by
  have joined : (p.staged worker).joined children (p.caseOf worker) =
      p.joined children (p.caseOf worker) := rfl
  unfold fate
  cases ((p.nextCase worker).2.stage (p.caseOf worker)).1 with
  | error f => rfl
  | ok u =>
    dsimp only
    rw [(execute_of_plain plain (p.staged worker)).1, joined]
    cases p.joined children (p.caseOf worker) <;> rfl

theorem SameOutcome.nextCase (same : SameOutcome p q) (worker : Nat) :
    q.caseOf worker = p.caseOf worker ∧ SameOutcome (p.nextCase worker).2 (q.nextCase worker).2 :=
  same.step (f := Pool.nextCase worker) (fun _ => rfl) (fun _ => rfl)

/-- The same case is staged in both pools, or in none. -/
theorem SameOutcome.staged (same : SameOutcome p q) (worker : Nat) :
    ((q.nextCase worker).2.stage (q.caseOf worker)).1 =
        ((p.nextCase worker).2.stage (p.caseOf worker)).1 ∧
      SameOutcome (p.staged worker) (q.staged worker) := by
  obtain ⟨case, drawn⟩ := same.nextCase worker
  unfold Pool.staged
  rw [case]
  exact drawn.step (f := stage (p.caseOf worker)) (fun _ => rfl) (fun _ => rfl)

theorem executed_of_plain (plain : ∀ v, (children (p.caseOf worker) v).OnlyEnds) :
    SameOutcome (p.staged worker) (p.executed children worker) :=
  (execute_of_plain plain (p.staged worker)).2

theorem SameOutcome.fate_eq (same : SameOutcome p q)
    (plain : ∀ v, (children (p.caseOf worker) v).OnlyEnds) :
    q.fate children worker = p.fate children worker := by
  have case := (same.nextCase worker).1
  have plain' : ∀ v, (children (q.caseOf worker) v).OnlyEnds := by
    rw [case]
    exact plain
  rw [fate_of_plain plain, fate_of_plain plain', (same.staged worker).1, case, same.joined_eq]

/-- Calls with plain children keep outcomes the same. -/
theorem keptByCalls_sameOutcome : KeptByCalls (Iteration.Plain (σ := σ)) SameOutcome := by
  intro i q plain same
  have case := (same.nextCase i.turn.worker).1
  have plain' : ∀ v, (i.turn.children (q.caseOf i.turn.worker) v).OnlyEnds := by
    rw [case]
    exact plain
  have staged := (same.staged i.turn.worker).2
  have executed : SameOutcome (i.before.executed i.turn.children i.turn.worker)
      (q.executed i.turn.children i.turn.worker) :=
    (executed_of_plain plain).symm.trans (staged.trans (executed_of_plain plain'))
  have settings : q.settings.haltOnCandidate = i.before.settings.haltOnCandidate :=
    same.map fun r => r.settings.haltOnCandidate
  obtain ⟨answer, after⟩ := kept_sameOutcome.runOnce case (same.fate_eq plain)
    (fun _ _ => by rw [settings]) staged (fun _ => executed) fun result _ _ => by
      unfold discarded
      rw [case]
      exact removeFile_sameOutcome _
        (kept_sameOutcome.count (fun s => s.record result.verdict) executed)
  exact ⟨plain, rfl, same, answer, after⟩

/-! ## Side by side -/

/-- Two pools with the same outcome, of which the first one runs the variants one after the other
and the second one runs them at once. -/
structure SideBySide (p q : Pool σ) : Prop where
  outcome : SameOutcome p q
  single : p.settings.execution.parallel = false
  double : q.settings.execution.parallel = true

omit [DrawSource σ] in
theorem kept_sideBySide : Kept (SideBySide (σ := σ)) where
  halted same := kept_sameOutcome.halted same.outcome
  halt same := ⟨kept_sameOutcome.halt same.outcome, same.single, same.double⟩
  count change same := ⟨kept_sameOutcome.count change same.outcome, same.single, same.double⟩
  recordEvent e same :=
    have recorded := kept_sameOutcome.recordEvent e same.outcome
    ⟨recorded.1, recorded.2, same.single, same.double⟩
  notify n same := ⟨kept_sameOutcome.notify n same.outcome, same.single, same.double⟩
  writeErr text same := ⟨kept_sameOutcome.writeErr text same.outcome, same.single, same.double⟩
  trace same := kept_sameOutcome.trace same.outcome

theorem keptByCalls_sideBySide : KeptByCalls (Iteration.Plain (σ := σ)) SideBySide := by
  intro i q plain same
  have paired := keptByCalls_sameOutcome i q plain same.outcome
  refine ⟨plain, rfl, same, paired.answer, paired.after, ?_, ?_⟩
  · rw [(tells_runOnce i).settings]
    exact same.single
  · rw [(tells_runOnce ⟨q, i.turn⟩).settings]
    exact same.double

end Pool

/-! ## Starts -/

namespace Iteration

variable {σ : Type} [DrawSource σ] {i j : Iteration σ}

/-- The starts of children that the call adds to the account. -/
def starts (i : Iteration σ) : List Call :=
  i.launches.map fun s => i.before.callOf i.case s.variant

theorem calls_after (i : Iteration σ) : i.after.calls = i.before.calls ++ i.starts := by
  unfold starts launches
  cases fate : i.fate with
  | unstaged f =>
    have stays : i.after = i.before.staged i.turn.worker := by
      have reached : i.before.fate i.turn.children i.turn.worker = .unstaged f := fate
      rw [after, Pool.runOnce_eq, reached]
    rw [stays]
    exact (List.append_nil _).symm
  | unrun f => exact Pool.calls_runOnce (fun f' unstaged => by cases fate.symm.trans unstaged)
  | judged result =>
    exact Pool.calls_runOnce (fun f' unstaged => by cases fate.symm.trans unstaged)

/-- The starts of a call on a staged case with plain children. -/
theorem starts_of_plain (plain : i.Plain) (stages : ∀ f, i.fate ≠ .unstaged f) :
    i.starts = (if (i.turn.children i.case i.before.settings.execution.baseline).ending.fails &&
          !i.before.settings.execution.parallel then
        [i.before.settings.execution.baseline]
      else [i.before.settings.execution.baseline, i.before.settings.execution.candidate]).map
        (i.before.callOf i.case) := by
  have variants := Pool.variants_launches_of_plain plain (i.before.staged i.turn.worker)
  rw [starts, launches_of_staged stages]
  exact (List.map_map (f := Launch.variant) (g := i.before.callOf i.case)).symm.trans
    (congrArg (List.map (i.before.callOf i.case)) variants)

/-- A call that runs the variants one after the other, and one that runs them at once, come to the
same.

* `fate`, `staged`: they come equally far, and a staged case as far as the ends of its children say.
* `unstaged`, `double`, `single`: without its file a case is not run. With it both variants are
  started, but without running them at once only the baseline if that one fails to start. -/
structure Agrees (i j : Iteration σ) : Prop where
  turn : j.turn = i.turn
  case : j.case = i.case
  fate : j.fate = i.fate
  staged : (∀ f, i.fate ≠ .unstaged f) →
    i.fate = Pool.fateOf (i.before.joined i.turn.children i.case)
  answer : j.answer = i.answer
  before : Pool.SameOutcome i.before j.before
  after : Pool.SameOutcome i.after j.after
  unstaged : ∀ f, i.fate = .unstaged f → i.starts = [] ∧ j.starts = []
  double : (∀ f, i.fate ≠ .unstaged f) → j.starts =
    [i.before.callOf i.case i.before.settings.execution.baseline,
      i.before.callOf i.case i.before.settings.execution.candidate]
  single : (∀ f, i.fate ≠ .unstaged f) → i.starts =
    if (i.turn.children i.case i.before.settings.execution.baseline).ending.fails then
      [i.before.callOf i.case i.before.settings.execution.baseline]
    else j.starts

theorem starts_of_unstaged {f : Failure} (unstaged : i.fate = .unstaged f) : i.starts = [] := by
  simp [starts, launches, unstaged]

theorem agrees_of_paired (paired : Iteration.Paired Plain Pool.SideBySide i j) : Agrees i j := by
  obtain ⟨j, turn'⟩ := j
  obtain ⟨plain, turn, before, answer, after⟩ := paired
  cases turn
  have same := before.outcome
  have case : Iteration.case ⟨j, i.turn⟩ = i.case := (same.nextCase i.turn.worker).1
  have fate : Iteration.fate ⟨j, i.turn⟩ = i.fate := same.fate_eq plain
  have plain' : Iteration.Plain ⟨j, i.turn⟩ := by
    unfold Plain
    rw [case]
    exact plain
  have baseline : j.settings.execution.baseline = i.before.settings.execution.baseline :=
    same.map fun r => r.settings.execution.baseline
  have candidate : j.settings.execution.candidate = i.before.settings.execution.candidate :=
    same.map fun r => r.settings.execution.candidate
  have callOf (v : Variant) : j.callOf i.case v = i.before.callOf i.case v :=
    same.map fun r => r.callOf i.case v
  have double (stages : ∀ f, i.fate ≠ .unstaged f) : Iteration.starts ⟨j, i.turn⟩ =
      [i.before.callOf i.case i.before.settings.execution.baseline,
        i.before.callOf i.case i.before.settings.execution.candidate] := by
    rw [starts_of_plain plain' (by rwa [fate]), before.double, case]
    simp [baseline, candidate, callOf]
  refine ⟨rfl, case, fate, fun stages => ?_, answer, same, after.outcome,
    fun f unstaged => ⟨starts_of_unstaged unstaged, starts_of_unstaged (fate.trans unstaged)⟩,
    double, fun stages => ?_⟩
  · have reached : i.fate = _ := Pool.fate_of_plain plain
    rw [reached] at stages ⊢
    cases write : ((i.before.nextCase i.turn.worker).2.stage (i.before.caseOf i.turn.worker)).1 with
    | error f =>
      rw [write] at stages
      exact absurd rfl (stages f)
    | ok u => rfl
  · rw [double stages, starts_of_plain plain stages, before.single]
    cases (i.turn.children i.case i.before.settings.execution.baseline).ending.fails <;> rfl

end Iteration

end CrashDiff
