import CrashDiff.Run.Pool

/-!
# Calls of workers

A call of a worker in parts: its case, the starts of the children, and how far it comes with the
case. A schedule is a list of turns, each with a worker and with what the children do during its
call, so every order of calls and every behaviour of children is a schedule.

Results:
1. `launches_cases`: which children are started, and what becomes of the pool meanwhile.
2. `execute_induction`, `recordEvents_induction`: what each part keeps, the whole keeps.
3. `runOnce_eq`: a call in terms of how far it comes with its case.
4. `iterations_append`, `play_append`: a schedule can be cut at any call.
-/

namespace CrashDiff

/-- The verdict on the results of both variants. -/
def DualResult.verdict (result : DualResult) : Verdict :=
  .ofOutcomes result.baseline.outcome result.candidate.outcome

/-- The start of a child: its variant, and the pool that it finds. -/
structure Launch (σ : Type) where
  variant : Variant
  pool : Pool σ

/-- How far a call of a worker comes with its case. -/
inductive Fate where
  /-- The file of the case could not be written. -/
  | unstaged (failure : Failure)
  /-- A variant could not be run on the case. -/
  | unrun (failure : Failure)
  /-- There is a verdict on the case. -/
  | judged (result : DualResult)

/-- A turn of a worker, and what the children do during its call. -/
structure Turn where
  worker : Nat
  children : Children

/-- A call of a worker: the pool before it, and the turn. -/
structure Iteration (σ : Type) where
  before : Pool σ
  turn : Turn

namespace Pool

variable {σ : Type}

/-! ## The starts of children -/

/-- Runs a variant on a case, and notes its start. -/
def watch (children : Children) (case : TestCase) (v : Variant)
    (s : Pool σ × List (Launch σ)) : Except Failure VariantResult × Pool σ × List (Launch σ) :=
  let (result, p) := s.1.runVariant children case v
  (result, p, s.2 ++ [⟨v, s.1⟩])

/-- The starts of children while both variants run on a case. -/
def launches (children : Children) (case : TestCase) (p : Pool σ) : List (Launch σ) :=
  (p.settings.execution.runBoth (watch children case) (p, [])).2.2

/-- The start of a child as the pool keeps an account of it. -/
def callOf (case : TestCase) (v : Variant) (p : Pool σ) : Call :=
  if p.substitute then ExecutionSettings.substituteCall v case.path
  else p.settings.execution.call v case.path

/-- The pool after the baseline has run on a case. -/
def afterBaseline (children : Children) (case : TestCase) (p : Pool σ) : Pool σ :=
  (p.runVariant children case p.settings.execution.baseline).2

/-- The candidate is started after the baseline, unless a failure of the baseline ends the case
first. -/
theorem launches_cases (children : Children) (case : TestCase) (p : Pool σ) :
    (∃ f, p.settings.execution.parallel = false ∧
      p.launches children case = [⟨p.settings.execution.baseline, p⟩] ∧
      p.execute children case = (.error f, p.afterBaseline children case)) ∨
    (p.launches children case = [⟨p.settings.execution.baseline, p⟩,
        ⟨p.settings.execution.candidate, p.afterBaseline children case⟩] ∧
      (p.execute children case).2 =
        ((p.afterBaseline children case).runVariant children case
          p.settings.execution.candidate).2) := by
  unfold launches execute ExecutionSettings.runBoth watch afterBaseline
  dsimp only
  obtain ⟨result, p'⟩ := p.runVariant children case p.settings.execution.baseline
  cases result with
  | error f =>
    -- In parallel the candidate is started even if the baseline cannot be run.
    by_cases parallel : p.settings.execution.parallel = true
    · exact Or.inr (by simp [parallel])
    · exact Or.inl ⟨f, by simpa using parallel, by simp [parallel]⟩
  | ok baseline =>
    dsimp only
    obtain ⟨result, p''⟩ := p'.runVariant children case p.settings.execution.candidate
    cases result with
    | error f => exact Or.inr ⟨rfl, rfl⟩
    | ok candidate => exact Or.inr ⟨rfl, rfl⟩

/-- What every run of a variant keeps holds at every start and after both runs. -/
theorem execute_induction {motive : Pool σ → Prop} {children : Children} {case : TestCase}
    {p : Pool σ} (first : motive p)
    (keeps : ∀ v q, motive q → motive (q.runVariant children case v).2) :
    (∀ s ∈ p.launches children case, motive s.pool) ∧ motive (p.execute children case).2 := by
  have middle : motive (p.afterBaseline children case) := keeps _ _ first
  rcases launches_cases children case p with ⟨f, _, starts, ran⟩ | ⟨starts, ran⟩
  · rw [starts, ran]
    simpa using ⟨first, middle⟩
  · rw [starts, ran]
    simpa using ⟨⟨first, middle⟩, keeps _ _ middle⟩

/-- What the recording of every event keeps holds after all of them. -/
theorem recordEvents_induction {motive : Pool σ → Prop} {p : Pool σ} (events : List Event)
    (first : motive p) (keeps : ∀ e q, motive q → motive (q.recordEvent e).2) :
    motive (p.recordEvents events).2 := by
  induction events generalizing p with
  | nil => exact first
  | cons e events ih =>
    have next := keeps e p first
    rw [recordEvents]
    rcases recorded : p.recordEvent e with ⟨result, q⟩
    rw [recorded] at next
    cases result with
    | error f => exact next
    | ok u => exact ih next

/-! ## Pools that have just been started -/

/-- A pool is started in the files that are left when its scratch directory has been made. -/
theorem start_cases {settings : RunSettings} {substitute : Bool} {sources : Nat → σ}
    {host h : Host} {p : Pool σ} (started : start settings substitute sources host = (.ok p, h)) :
    ∃ files,
      FileSystem.makeDirectory true settings.execution.scratchDir host.files = (.ok (), files) ∧
      h = { host with files := files } ∧
      p = {
        settings := settings
        substitute := substitute
        sources := sources
        events := { path := settings.healthLog }
        host := { host with files := files } } := by
  unfold start at started
  rcases made : FileSystem.makeDirectory true settings.execution.scratchDir host.files with
    ⟨result, files⟩
  rw [made] at started
  cases result with
  | error f => cases started
  | ok u =>
    cases started
    exact ⟨files, rfl, rfl, rfl⟩

/-! ## How far a call comes -/

variable [DrawSource σ]

/-- The case of the next call of a worker. -/
def caseOf (worker : Nat) (p : Pool σ) : TestCase :=
  (p.nextCase worker).1

/-- The pool after the case of the next call of a worker has been staged. -/
def staged (worker : Nat) (p : Pool σ) : Pool σ :=
  ((p.nextCase worker).2.stage (p.caseOf worker)).2

/-- The pool after both variants have run in the next call of a worker. -/
def executed (children : Children) (worker : Nat) (p : Pool σ) : Pool σ :=
  ((p.staged worker).execute children (p.caseOf worker)).2

/-- How far the next call of a worker comes with its case. -/
def fate (children : Children) (worker : Nat) (p : Pool σ) : Fate :=
  match ((p.nextCase worker).2.stage (p.caseOf worker)).1 with
  | .error f => .unstaged f
  | .ok () =>
    match ((p.staged worker).execute children (p.caseOf worker)).1 with
    | .error f => .unrun f
    | .ok result => .judged result

/-- A call fails with the failure that it meets on its way to a verdict; otherwise the verdict is
counted and acted on. -/
theorem runOnce_eq (children : Children) (worker : Nat) (p : Pool σ) :
    p.runOnce children worker =
      match p.fate children worker with
      | .unstaged f => (.error f, p.staged worker)
      | .unrun f => (.error f, p.executed children worker)
      | .judged result =>
        { p.executed children worker with
          stats := (p.executed children worker).stats.record result.verdict }.act
            (p.caseOf worker) result result.verdict := by
  unfold runOnce fate executed staged caseOf
  obtain ⟨case, q⟩ := p.nextCase worker
  dsimp only
  obtain ⟨result, q⟩ := q.stage case
  cases result with
  | error f => rfl
  | ok u =>
    dsimp only
    obtain ⟨result, q⟩ := q.execute children case
    cases result with
    | error f => rfl
    | ok result => rfl

/-! ## Schedules -/

/-- The pool after the calls of a schedule. -/
def play : List Turn → Pool σ → Pool σ
  | [], p => p
  | t :: ts, p => play ts (p.runOnce t.children t.worker).2

/-- The calls of a schedule, in order. -/
def iterations : List Turn → Pool σ → List (Iteration σ)
  | [], _ => []
  | t :: ts, p => ⟨p, t⟩ :: iterations ts (p.runOnce t.children t.worker).2

theorem play_append (ts more : List Turn) (p : Pool σ) :
    play (ts ++ more) p = play more (play ts p) := by
  induction ts generalizing p with
  | nil => rfl
  | cons t ts ih => exact ih _

theorem iterations_append (ts more : List Turn) (p : Pool σ) :
    iterations (ts ++ more) p = iterations ts p ++ iterations more (play ts p) := by
  induction ts generalizing p with
  | nil => rfl
  | cons t ts ih => exact congrArg (⟨p, t⟩ :: ·) (ih _)

end Pool

namespace Iteration

variable {σ : Type} [DrawSource σ]

/-- The case of the call. -/
def case (i : Iteration σ) : TestCase :=
  i.before.caseOf i.turn.worker

/-- How far the call comes with its case. -/
def fate (i : Iteration σ) : Fate :=
  i.before.fate i.turn.children i.turn.worker

/-- The pool after the call. -/
def after (i : Iteration σ) : Pool σ :=
  (i.before.runOnce i.turn.children i.turn.worker).2

/-- The starts of children during the call. -/
def launches (i : Iteration σ) : List (Launch σ) :=
  match i.fate with
  | .unstaged _ => []
  | _ => (i.before.staged i.turn.worker).launches i.turn.children i.case

theorem launches_of_staged {i : Iteration σ} (stages : ∀ f, i.fate ≠ .unstaged f) :
    i.launches = (i.before.staged i.turn.worker).launches i.turn.children i.case := by
  unfold launches
  split
  · rename_i f unstaged
    exact absurd unstaged (stages f)
  · rfl

end Iteration

/-! ## A small pool -/

/-- A source that answers every draw by zero. -/
structure Zeros where

instance : DrawSource Zeros where
  below _ pos source := (⟨0, pos⟩, source)

/-- Settings for cases of a single type. -/
def RunSettings.small (scratch : Path) : RunSettings where
  generation := { typeCount := 1, maxRemovals := 1, maxLength := 1 }
  execution := { scratchDir := scratch }
  generation_valid := ⟨by decide, by decide +kernel, by decide +kernel, by decide +kernel,
    by decide, by decide⟩
  execution_valid := ⟨by simp, by simp⟩

/-- A pool that has just been started in the directory `/sbx`. -/
def Pool.small (scratch : String) (entries : List (Location × Entry)) : Pool Zeros where
  settings := .small (.ofText scratch)
  sources _ := {}
  events := {}
  host := { files := ⟨(["sbx"], .directory) :: entries, ["sbx"]⟩, time := "" }

/-- Children that end with the given exit codes. -/
def Children.exiting (baseline candidate : Int) : Children := fun _ v =>
  { ending := .exited (some (if v.name = "baseline" then baseline else candidate)) }

end CrashDiff
