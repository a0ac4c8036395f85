import CrashDiff.Proofs.Run.Journal

/-!
# Halting

The halt flag is set by what closes the progress stream: a child that stops the run, a verdict that
halts it, a worker that gives up, and a stop from outside. Nothing resets either of them.

Results:
1. `halted_executed`, `closed_executed`: both are set by the children that stop the run.
2. `halted_after`, `closed_after`: both are set by what happens in a call.
3. `halted_eq_closed`: between moves the halt flag is set just if the progress stream is closed.
-/

namespace CrashDiff

open Happening JournalEntry

namespace Iteration

variable {σ : Type} [DrawSource σ]

/-- Whether a child stops the run during the call. -/
def stopped (i : Iteration σ) : Bool :=
  i.launches.any fun s => (i.turn.children i.case s.variant).stopsRun

theorem any_closes_stops (i : Iteration σ) : i.stops.any closes = i.stopped := by
  rw [Bool.eq_iff_iff]
  simp [stops, stopped, closes]

/-- Without its file the case is not run. -/
theorem stopped_of_unstaged {i : Iteration σ} {f : Failure} (unstaged : i.fate = .unstaged f) :
    i.stopped = false := by
  simp [stopped, launches, unstaged]

end Iteration

namespace Pool

variable {σ : Type}

/-! ## The runs of the children -/

theorem halted_launch (case : TestCase) (v : Variant) (child : Child) (p : Pool σ) :
    (p.launch case v child).2.halted = (p.halted || child.stopsRun) := by
  have stopped : ∀ q : Pool σ, (if child.stopsRun then q.stop else q).halted =
      (q.halted || child.stopsRun) := by
    intro q
    cases child.stopsRun with
    | true => exact (Bool.or_true _).symm
    | false => exact (Bool.or_false _).symm
  unfold launch
  dsimp only
  split
  · exact stopped _
  · exact stopped _

theorem halted_runVariant (children : Children) (case : TestCase) (v : Variant) (p : Pool σ) :
    (p.runVariant children case v).2.halted = (p.halted || (children case v).stopsRun) := by
  rcases runVariant_snd children case v p with same | ⟨m, logged⟩
  · rw [same, halted_launch]
  · rw [logged]
    exact halted_launch case v _ p

theorem halted_execute (children : Children) (case : TestCase) (p : Pool σ) :
    (p.execute children case).2.halted =
      (p.halted || (p.launches children case).any fun s => (children case s.variant).stopsRun) := by
  have first := halted_runVariant children case p.settings.execution.baseline p
  rcases launches_cases children case p with ⟨f, _, starts, ran⟩ | ⟨starts, ran⟩
  · rw [starts, ran, afterBaseline, first]
    simp
  · rw [starts, ran, halted_runVariant, afterBaseline, first]
    simp [Bool.or_assoc]

theorem halted_recordEvents (events : List Event) (p : Pool σ) :
    (p.recordEvents events).2.halted = p.halted :=
  recordEvents_induction (motive := fun q => q.halted = p.halted) events rfl fun _ _ same => same

/-! ## Workers that give up -/

/-- A worker that gives up sets both, unless its failure cannot be recorded. -/
theorem halted_giveUp (worker : Nat) (f : Failure) (p : Pool σ) :
    (p.giveUp worker f).2.halted = (p.halted || p.events.accepts) ∧
      (p.giveUp worker f).2.progress.closed = (p.progress.closed || p.events.accepts) := by
  cases accepts : p.events.accepts with
  | true =>
    rw [giveUp_of_accepts accepts]
    exact ⟨(Bool.or_true _).symm, rfl⟩
  | false =>
    rw [giveUp_of_refuses accepts]
    exact ⟨(Bool.or_false _).symm, (Bool.or_false _).symm⟩

/-! ## A call -/

variable [DrawSource σ] {p q : Pool σ}

theorem halted_executed {i : Iteration σ} (stages : ∀ f, i.fate ≠ .unstaged f) :
    (i.before.executed i.turn.children i.turn.worker).halted =
      (i.before.halted || i.stopped) := by
  rw [Iteration.stopped, Iteration.launches_of_staged stages]
  exact halted_execute i.turn.children i.case (i.before.staged i.turn.worker)

theorem closed_executed {i : Iteration σ} (stages : ∀ f, i.fate ≠ .unstaged f) :
    (i.before.executed i.turn.children i.turn.worker).progress.closed =
      (i.before.progress.closed || i.stopped) := by
  rw [(tells_executed i stages).closed, i.any_closes_stops]

/-- A call sets the halt flag if something happens in it that closes the progress stream. -/
theorem halted_after (i : Iteration σ) :
    i.after.halted = (i.before.halted || i.happenings.any closes) := by
  obtain ⟨answer, q, outcome, ends⟩ := exists_ends i.turn.children i.turn.worker i.before
  have after : i.after = q := congrArg Prod.snd outcome
  rw [after, Iteration.happenings, List.any_append, i.any_closes_stops, Iteration.ending, outcome]
  clear outcome after
  have judged {result : DualResult} (fate : i.fate = .judged result) :
      (i.before.executed i.turn.children i.turn.worker).halted = (i.before.halted || i.stopped) :=
    halted_executed (by simp [fate])
  have recorded (result : DualResult) :
      (i.before.recorded i.turn.children i.turn.worker result).2.halted =
        (i.before.executed i.turn.children i.turn.worker).halted := halted_recordEvents _ _
  induction ends with
  | unstaged unstaged =>
    have fate : i.fate = .unstaged _ := unstaged
    rw [Iteration.stopped_of_unstaged fate]
    exact (Bool.or_false _).symm
  | unrun unrun =>
    have fate : i.fate = .unrun _ := unrun
    simp [halted_executed (i := i) (by simp [fate])]
  | undeleted fate _ _ =>
    refine (judged fate).trans ?_
    simp
  | discarded fate dull _ =>
    have fate' : i.fate = .judged _ := fate
    refine (judged fate).trans ?_
    simp [fate', dull, closes]
  | unrecorded fate _ _ =>
    refine (recorded _).trans ((judged fate).trans ?_)
    simp
  | reported fate report _ =>
    have fate' : i.fate = .judged _ := fate
    have worthy := Verdict.ne_uninteresting_of_action (by rw [report]; decide)
    refine (recorded _).trans ((judged fate).trans ?_)
    simp [fate', worthy, closes]
  | halted fate _ _ =>
    have fate' : i.fate = .judged _ := fate
    simp [fate', closes]

/-- A call closes the progress stream if something happens in it that does. -/
theorem closed_after (i : Iteration σ) :
    i.after.progress.closed = (i.before.progress.closed || i.happenings.any closes) :=
  (tells_runOnce i).closed

/-! ## Runs -/

theorem halted_eq_closed {settings : RunSettings} {substitute : Bool} {sources : Nat → σ}
    {host h : Host} {moves : List Move}
    (started : start settings substitute sources host = (.ok p, h))
    (performed : Move.performAll moves p = some q) : q.halted = q.progress.closed := by
  have fresh := fresh_of_start started
  refine performAll_induction (R := fun _ p q => p.halted = p.progress.closed →
    q.halted = q.progress.closed) (fun _ => id) (fun first second agree => second (first agree))
    (fun i agree => ?_) (fun p worker f agree => ?_) (fun p _ => ?_) (fun _ _ => id) performed ?_
  · rw [halted_after, closed_after, agree]
  · obtain ⟨halted, closed⟩ := halted_giveUp worker f p
    rw [halted, closed, agree]
  · have closed := (tells_stop p).closed
    rw [closed]
    exact (Bool.or_true _).symm
  · rw [fresh.halted, fresh.progress]

end Pool

end CrashDiff
