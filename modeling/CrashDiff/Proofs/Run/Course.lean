import CrashDiff.Proofs.Run.Loop
import CrashDiff.Run.Session

/-!
# The course of a session

A session whose command line asks for a run, and whose log file opens, takes one of six courses.
Each has its exit status and its reason in the summary, and the result of the session is put
together from the pool that it leaves. For a run with one worker, the course is decided by the last
call of that worker.

Results:
1. `exists_returns`: the courses of a session that returns, and what each of them leaves.
2. `runSettings_of_runs`, `runSettings_of_unbuilt`: when a session returns.
3. `exists_last_call`: how the loop of a worker ends.
4. `exists_first_loop`, `runAll_of_one`: a run of all workers begins with the loop of the first one.
-/

namespace CrashDiff

namespace Session

/-! ## Courses -/

/-- How a session goes.

* `unbuilt`, `unqueried`: a failure while the pool is made, or while the metadata are collected.
* `interrupted`: an interrupt while the metadata are collected.
* `halted`, `failed`: a worker halts the run on a verdict, or is stopped by a failure.
* `completed`: all workers come to an end without that. -/
inductive Course where
  | unbuilt (f : Failure)
  | unqueried (f : Failure)
  | interrupted
  | halted (line : String) (verdict : Verdict) (case : TestCase)
  | failed (f : Failure)
  | completed

namespace Course

/-- The course of a run whose workers come to an end. -/
def ofFlow : Flow → Course
  | .goOn => .completed
  | .halted line verdict case => .halted line verdict case
  | .failed f => .failed f

/-- The exit status. -/
def status : Course → Nat
  | .interrupted | .completed => 0
  | .unbuilt _ | .unqueried _ | .halted .. | .failed _ => 1

/-- The reason that the summary gives; there is no summary without a pool. -/
def reason : Course → String
  | .unbuilt _ => ""
  | .unqueried f => "Error: " ++ f.message
  | .interrupted => "KeyboardInterrupt"
  | .halted line _ _ => "Halted: " ++ line
  | .failed f => "Halted: " ++ f.shown
  | .completed => "Completed"

end Course

/-- The settings and the host that a session begins its run with; nothing if it has ended before
that. -/
def begin? (argv : List String) (h : Host) : Option (RunSettings × Host) :=
  match CommandLine.parse argv with
  | .error _ | .ok .help => none
  | .ok (.run arguments) =>
    match arguments.settings with
    | .error _ => none
    | .ok settings =>
      match openTranscript settings
        { h with shownFrom := some (if arguments.verbose then .debug else .warning) } with
      | (.error _, _) => none
      | (.ok (), h) => some (settings, h)

/-- The course that a session takes, if it comes to an end. -/
def course? (input : SessionInput) (settings : RunSettings) (h : Host) : Option Course :=
  match Pool.start settings false (Pool.sourcesFor settings input.ownSeed) h with
  | (.error f, _) => some (.unbuilt f)
  | (.ok p, _) =>
    match query input p with
    | (.error f, _) => some (if f.kind = .interrupt then .interrupted else .unqueried f)
    | (.ok metadata, p) =>
      match (announce input metadata p).runAll input.children input.fuel with
      | some (.ok flow, _) => some (.ofFlow flow)
      | _ => none

variable {input : SessionInput} {settings : RunSettings} {h : Host} {p q : Pool Twister}
  {code : Nat}

/-- A session that begins its run has read its settings from the command line, and has opened its
transcript. -/
theorem arguments_of_begin {host : Host} {argv : List String}
    (begun : begin? argv h = some (settings, host)) :
    ∃ arguments, CommandLine.parse argv = .ok (.run arguments) ∧
      arguments.settings = .ok settings ∧
      openTranscript settings
        { h with shownFrom := some (if arguments.verbose then .debug else .warning) } =
          (.ok (), host) := by
  unfold begin? at begun
  split at begun
  · cases begun
  · cases begun
  · rename_i arguments parsed
    split at begun
    · cases begun
    · rename_i accepted
      split at begun
      · cases begun
      · rename_i opened
        cases begun
        exact ⟨arguments, parsed, accepted, opened⟩

theorem run_of_begin {host : Host} (begun : begin? input.argv h = some (settings, host)) :
    run input h = runSettings input settings host := by
  obtain ⟨arguments, parsed, accepted, opened⟩ := arguments_of_begin begun
  unfold run setUp
  rw [parsed]
  dsimp only
  rw [accepted]
  dsimp only
  rw [opened]

/-! ## What a course leaves -/

/-- The pool that a run leaves on a course, before its summary is printed. -/
inductive Runs (input : SessionInput) (p : Pool Twister) : Course → Pool Twister → Prop
  | interrupted {f : Failure} {q : Pool Twister} : query input p = (.error f, q) →
      f.kind = .interrupt →
      Runs input p .interrupted
        (withHost (fun h => h.printErr "\n[!] Fuzzing stopped by user.") q.stop)
  | unqueried {f : Failure} {q : Pool Twister} : query input p = (.error f, q) →
      f.kind ≠ .interrupt → Runs input p (.unqueried f) (withHost (tellFailure f) q)
  | ended {metadata : Json} {flow : Flow} {q r : Pool Twister} :
      query input p = (.ok metadata, q) →
      (announce input metadata q).runAll input.children input.fuel = some (.ok flow, r) →
      Runs input p (.ofFlow flow) r

theorem exists_runs {conclusion : Conclusion} (ran : runPool input p = some (conclusion, q)) :
    ∃ course : Course, Runs input p course q ∧ conclusion = ⟨course.status, course.reason⟩ := by
  unfold runPool at ran
  rcases queried : query input p with ⟨answer, r⟩
  rw [queried] at ran
  cases answer with
  | error f =>
    dsimp only at ran
    split at ran
    · rename_i interrupt
      cases ran
      exact ⟨.interrupted, .interrupted queried interrupt, rfl⟩
    · rename_i other
      cases ran
      exact ⟨.unqueried f, .unqueried queried other, rfl⟩
  | ok metadata =>
    dsimp only [runWorkers] at ran
    split at ran
    · rename_i flow r' ended
      cases ran
      refine ⟨.ofFlow flow, .ended queried ended, ?_⟩
      cases flow <;> rfl
    · cases ran

/-- The run of a pool is decided by its course. -/
theorem runPool_of_runs {course : Course} (runs : Runs input p course q) :
    runPool input p = some (⟨course.status, course.reason⟩, q) := by
  unfold runPool
  cases runs with
  | interrupted queried interrupt =>
    rw [queried]
    exact if_pos interrupt
  | unqueried queried other =>
    rw [queried]
    exact if_neg other
  | @ended _ flow _ _ queried ended =>
    rw [queried]
    dsimp only [runWorkers]
    rw [ended]
    cases flow <;> rfl

/-- What a session leaves on a course before it closes its transcript: the host, and the starts of
children.

* `unbuilt`: there is no pool, and no summary.
* `summed`: the summary is printed behind the run of the pool. -/
inductive Returns (input : SessionInput) (settings : RunSettings) (h : Host) :
    Course → Host → List Call → Prop
  | unbuilt {f : Failure} {h' : Host} :
      Pool.start settings false (Pool.sourcesFor settings input.ownSeed) h = (.error f, h') →
      Returns input settings h (.unbuilt f) (tellFailure f h') []
  | summed {p q : Pool Twister} {h' : Host} {course : Course} {summary : String} :
      Pool.start settings false (Pool.sourcesFor settings input.ownSeed) h = (.ok p, h') →
      Runs input p course q →
      Summary.render course.reason (seconds input.duration) q.stats.fields
        (EventCounts.fields q.events.counts) = .ok summary →
      Returns input settings h course (q.host.printErr summary) q.calls

theorem course?_of_runs {h' : Host} {course : Course}
    (started : Pool.start settings false (Pool.sourcesFor settings input.ownSeed) h = (.ok p, h'))
    (runs : Runs input p course q) : course? input settings h = some course := by
  unfold course?
  rw [started]
  cases runs with
  | interrupted queried interrupt => simp [queried, interrupt]
  | unqueried queried other => simp [queried, other]
  | ended queried ended => simp [queried, ended]

/-- A session that returns takes a course; its status is that of the course. -/
theorem exists_returns (returned : (runSettings input settings h).ending = .status code) :
    ∃ course host calls, Returns input settings h course host calls ∧
      course? input settings h = some course ∧ code = course.status ∧
      runSettings input settings h = conclude settings course.status host calls := by
  unfold runSettings at returned ⊢
  rcases started : Pool.start settings false (Pool.sourcesFor settings input.ownSeed) h with
    ⟨result, h'⟩
  rw [started] at returned
  cases result with
  | error f =>
    cases returned
    exact ⟨.unbuilt f, _, _, .unbuilt started, by simp [course?, started], rfl, rfl⟩
  | ok p =>
    dsimp only at returned ⊢
    cases ran : runPool input p with
    | none =>
      rw [ran] at returned
      cases returned
    | some result =>
      obtain ⟨conclusion, q⟩ := result
      obtain ⟨course, runs, rfl⟩ := exists_runs ran
      rw [ran] at returned
      dsimp only [printSummary] at returned ⊢
      cases rendered : Summary.render course.reason (seconds input.duration) q.stats.fields
          (EventCounts.fields q.events.counts) with
      | error e =>
        rw [rendered] at returned
        cases returned
      | ok summary =>
        rw [rendered] at returned
        cases returned
        exact ⟨course, _, _, .summed started runs rendered, course?_of_runs started runs, rfl, rfl⟩

/-- A session whose pool has come to the end of its run returns, if a summary can be made. -/
theorem runSettings_of_runs {h' : Host} {course : Course} {summary : String}
    (started : Pool.start settings false (Pool.sourcesFor settings input.ownSeed) h = (.ok p, h'))
    (runs : Runs input p course q)
    (rendered : Summary.render course.reason (seconds input.duration) q.stats.fields
      (EventCounts.fields q.events.counts) = .ok summary) :
    runSettings input settings h =
      conclude settings course.status (q.host.printErr summary) q.calls := by
  unfold runSettings
  rw [started]
  dsimp only
  rw [runPool_of_runs runs]
  dsimp only [printSummary]
  rw [rendered]
  rfl

/-- A session whose pool cannot be made tells that, and nothing more. -/
theorem runSettings_of_unbuilt {f : Failure} {h' : Host}
    (started : Pool.start settings false (Pool.sourcesFor settings input.ownSeed) h =
      (.error f, h')) :
    runSettings input settings h = conclude settings 1 (tellFailure f h') [] := by
  unfold runSettings
  rw [started]

end Session

/-! ## The last call of a worker -/

namespace Pool

variable {σ : Type} [DrawSource σ] {p q : Pool σ} {t : Turn} {fuel : Nat} {flow : Flow}

theorem eq_goOn_of_not_halts (again : ¬ flow.halts = true) : flow = .goOn := by
  cases flow with
  | goOn => rfl
  | halted => exact absurd rfl again
  | failed => exact absurd rfl again

/-- A loop that comes to an end finds the run halted, or is ended by a call that halts, or by one
whose failure makes the worker give up. What calls that go on keep holds before that. -/
theorem exists_last_call {motive : Pool σ → Prop} (first : motive p)
    (keeps : ∀ i : Iteration σ, i.turn = t → motive i.before → i.before.halted = false →
      i.answer = .ok .goOn → motive i.after)
    (ran : p.runWorker t.children t.worker fuel = some (.ok flow, q)) :
    (flow = .goOn ∧ motive q ∧ q.halted = true) ∨
      ∃ i : Iteration σ, i.turn = t ∧ motive i.before ∧ i.before.halted = false ∧
        ((flow.halts = true ∧ i.answer = .ok flow ∧ i.after = q) ∨
          ∃ f, i.answer = .error f ∧ i.after.giveUp t.worker f = (.ok flow, q)) := by
  induction fuel generalizing p with
  | zero => cases ran
  | succ fuel ih =>
    rw [runWorker] at ran
    split at ran
    · rename_i halted
      cases ran
      exact Or.inl ⟨rfl, first, halted⟩
    · rename_i running
      have running : p.halted = false := by simpa using running
      rcases outcome : p.runOnce t.children t.worker with ⟨answer, r⟩
      have answered : Iteration.answer ⟨p, t⟩ = answer := congrArg Prod.fst outcome
      have after : Iteration.after ⟨p, t⟩ = r := congrArg Prod.snd outcome
      rw [outcome] at ran
      cases answer with
      | error f =>
        dsimp only at ran
        split at ran
        · cases ran
        · have gaveUp := Option.some.inj ran
          rw [← after] at gaveUp
          exact Or.inr ⟨⟨p, t⟩, rfl, first, running, Or.inr ⟨f, answered, gaveUp⟩⟩
      | ok flow' =>
        dsimp only at ran
        split at ran
        · rename_i halts
          cases ran
          exact Or.inr ⟨⟨p, t⟩, rfl, first, running, Or.inl ⟨halts, answered, after⟩⟩
        · rename_i again
          rw [eq_goOn_of_not_halts again] at answered
          exact ih (after ▸ keeps ⟨p, t⟩ rfl first running answered) ran

/-- A run of all workers begins with the loop of the first one, which either decides it or leaves it
to the others. -/
theorem exists_first_loop {children : Children} (manned : 0 < p.settings.workers)
    (ran : p.runAll children fuel = some (.ok flow, q)) :
    ∃ first r, p.runWorker children 0 fuel = some (.ok first, r) ∧
      ((flow = first ∧ q = r.stop) ∨ (first = .goOn ∧ ∃ s,
        r.runFrom children fuel 1 (p.settings.workers - 1) = some (.ok flow, s) ∧ q = s.stop)) := by
  obtain ⟨⟨answer, s⟩, ended, same⟩ := Option.map_eq_some_iff.mp ran
  cases same
  obtain ⟨count, workers⟩ := Nat.exists_eq_succ_of_ne_zero (Nat.ne_of_gt manned)
  rw [workers, runFrom] at ended
  rw [workers]
  cases looped : p.runWorker children 0 fuel with
  | none =>
    rw [looped] at ended
    cases ended
  | some result =>
    obtain ⟨answer, r⟩ := result
    rw [looped] at ended
    cases answer with
    | error f => cases ended
    | ok first =>
      dsimp only at ended
      split at ended
      · cases ended
        exact ⟨_, _, rfl, Or.inl ⟨rfl, rfl⟩⟩
      · rename_i again
        exact ⟨first, r, rfl, Or.inr ⟨eq_goOn_of_not_halts again, s, ended, rfl⟩⟩

/-- A pool of one worker is run by the loop of this worker, and stopped. -/
theorem runAll_of_one {children : Children} (one : p.settings.workers = 1)
    (ran : p.runAll children fuel = some (.ok flow, q)) :
    ∃ r, p.runWorker children 0 fuel = some (.ok flow, r) ∧ q = r.stop := by
  obtain ⟨first, r, looped, ⟨rfl, rfl⟩ | ⟨rfl, s, others, rfl⟩⟩ :=
    exists_first_loop (one ▸ Nat.one_pos) ran
  · exact ⟨r, looped, rfl⟩
  · rw [one] at others
    cases others
    exact ⟨r, looped, rfl⟩

end Pool

end CrashDiff
