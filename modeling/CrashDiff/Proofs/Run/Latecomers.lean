import CrashDiff.Proofs.Run.Account
import CrashDiff.Proofs.Run.InTurn

/-!
# Workers that come late

When a run is halted, the main thread waits for no worker that is still in a call. The trace of such
a worker can come between the closing of the log and the end of the main thread: it then reaches the
output stream, and the log stays as it is.

Results:
1. `exists_failure`: a call fails if no child can be started.
2. `ends_behind_trace`: a trace that comes behind the closing of the log.
3. `exists_late_trace`: a worker comes to its trace after the run has been halted.
4. `exists_tracing`: two workers that fail, one of which has its trace yet to write when the summary
   has been printed.
-/

namespace CrashDiff

open FileSystem

/-! ## Children that fail -/

namespace Pool

variable {σ : Type} {p q r : Pool σ} {children : Children} {f : Failure}

/-- What the calls of a worker leave alone, whatever comes of them. -/
structure Steady (p q : Pool σ) : Prop where
  settings : q.settings = p.settings
  logPath : q.events.path = p.events.path
  trace : q.host.trace = p.host.trace

theorem Steady.trans (first : Steady p q) (second : Steady q r) : Steady p r :=
  ⟨second.settings.trans first.settings, second.logPath.trans first.logPath,
    second.trace.trans first.trace⟩

/-- When the file of a case cannot be written, that is no interrupt. -/
theorem handled_of_stage {case : TestCase} (failed : p.stage case = (.error f, q)) :
    f.kind ≠ .interrupt := by
  have refused : (FileSystem.write case.path case.source p.host.files).1 = .error f :=
    congrArg Prod.fst failed
  unfold FileSystem.write create at refused
  split at refused
  · rename_i made
    cases refused
    split at made
    · cases made
      simp [nullFailure, Failure.withText]
    · split at made
      · rename_i e _
        cases made
        intro interrupt
        have system := e.isSystem_kind
        rw [show e.kind = .interrupt from interrupt] at system
        cases system
      · cases made
  · cases refused

theorem execute_of_failing (fails : ∀ case v, children case v = { ending := .failed f })
    (case : TestCase) (p : Pool σ) : (p.execute children case).1 = .error f := by
  have one (v : Variant) (p : Pool σ) : (p.runVariant children case v).1 = .error f := by
    unfold runVariant launch
    rw [fails]
    rfl
  unfold execute ExecutionSettings.runBoth
  rcases ran : p.runVariant children case p.settings.execution.baseline with ⟨answer, q⟩
  have failed := one p.settings.execution.baseline p
  rw [ran] at failed
  obtain rfl : answer = .error f := failed
  dsimp only
  rw [ran]

/-- A call whose children fail, fails. -/
theorem exists_failure [DrawSource σ] (fails : ∀ case v, children case v = { ending := .failed f })
    (handled : f.kind ≠ .interrupt) (worker : Nat) (p : Pool σ) :
    ∃ g q, p.runOnce children worker = (.error g, q) ∧ g.kind ≠ .interrupt ∧ Steady p q := by
  have trace := trace_runOnce children worker p
  unfold runOnce at trace ⊢
  rcases drawn : p.nextCase worker with ⟨case, q⟩
  have first : Confined (fun _ => False) p q := by
    have confined : Confined (fun _ => False) p _ := confined_nextCase worker p
    rwa [drawn] at confined
  rw [drawn] at trace
  dsimp only at trace ⊢
  have second := confined_stage case q
  rcases staged : q.stage case with ⟨answer, r⟩
  rw [staged] at trace second
  cases answer with
  | error g =>
    refine ⟨g, r, rfl, handled_of_stage staged, ⟨?_, ?_, trace⟩⟩
    · exact second.settings.trans first.settings
    · exact second.logPath.trans first.logPath
  | ok u =>
    dsimp only at trace ⊢
    have third := (confined_execute children case r).2
    have failed := execute_of_failing fails case r
    rcases executed : r.execute children case with ⟨answer, t⟩
    rw [executed] at trace third failed
    obtain rfl : answer = .error f := failed
    refine ⟨f, t, rfl, handled, ⟨?_, ?_, trace⟩⟩
    · exact third.settings.trans (second.settings.trans first.settings)
    · exact third.logPath.trans (second.logPath.trans first.logPath)

/-- A worker gives up, if the event log takes that. -/
theorem exists_giveUp (accepts : p.events.accepts = true) (worker : Nat) (f : Failure) :
    ∃ r, (Code.giveUp worker f).run p = (.ok (), r) ∧ Steady p r ∧ p.giveUp worker f =
      (.ok (.failed f), { r with host := r.host.writeTrace f, halted := true }) := by
  have noted : Steady p (p.failureNoted worker f) := by
    have confined := confined_recordEvent (.infrastructureError worker f.shown)
      { p with stats := p.stats.recordFailure }
    exact ⟨confined.settings, confined.logPath, rfl⟩
  have answer := (recordEvent_of_accepts (p := { p with stats := p.stats.recordFailure }) accepts
    (.infrastructureError worker f.shown)).1
  refine ⟨(p.failureNoted worker f).notify (.lastReport (failureLine worker f)), ?_,
    ⟨noted.settings, noted.logPath, (trace_notify _ _).trans noted.trace⟩,
    giveUp_of_accepts accepts worker f⟩
  rw [Code.giveUp, Code.run_bind, Code.run_change, Code.run_bind, Code.run_atomic, answer]
  rfl

/-- A worker whose call fails halts the run. -/
theorem exists_halting [DrawSource σ] (running : p.halted = false)
    (accepts : p.events.accepts = true)
    (fails : ∀ case v, children case v = { ending := .failed f }) (handled : f.kind ≠ .interrupt)
    (worker : Nat) :
    ∃ g q, p.runWorker children worker 1 = some (.ok (.failed g), q) ∧ Steady p q := by
  obtain ⟨g, q, called, handled', steady⟩ := exists_failure fails handled worker p
  obtain ⟨r, _, steady', gaveUp⟩ :=
    exists_giveUp ((EventLog.accepts_congr steady.logPath).trans accepts) worker g
  have through := steady.trans steady'
  refine ⟨g, { r with host := r.host.writeTrace g, halted := true }, ?_, through.settings,
    through.logPath, (Host.trace_writeErrAll _ _).trans through.trace⟩
  simp [runWorker, running, called, handled', gaveUp]

end Pool

/-! ## A trace that comes late -/

namespace Host

/-- A closed transcript passes a trace on. -/
theorem trace_of_closed {h : Host} {t : Transcript} (transcript : h.transcript = some t)
    (closed : t.closed = true) (texts : List String) :
    texts.foldl (fun h text => h.writeTo true text) h =
      { h with out := h.out ++ String.join texts } := by
  induction texts generalizing h with
  | nil => simp
  | cons text texts ih =>
    have one : h.writeTo true text = { h with out := h.out ++ text } := by
      unfold writeTo writeOut
      simp [transcript, Transcript.write, closed, Transcript.streamText]
    rw [List.foldl_cons, one]
    refine (ih (h := { h with out := h.out ++ text }) transcript).trans ?_
    rw [String.join_cons, String.append_assoc]

end Host

namespace Threads

variable {σ : Type} [DrawSource σ] {input : SessionInput} {p : Pool σ} {path : Path}
  {l : Location} {base : String} {worker : Nat} {workers : List (Thread σ)} {failure : Failure}

/-- A worker that writes its trace between the closing of the log and the end of the main thread. -/
theorem ends_behind_trace (input : SessionInput) (logged : p.settings.logFile = some path)
    (mirrors : p.host.Mirrors l base) (below : worker < workers.length) (texts : List String)
    (f : Option Failure) (c : Session.Conclusion) (said : List Saying) :
    ∃ schedule s log, Threads.run input schedule
        ⟨p, workers.set worker (.tracing true texts f), [], .printing c [], said⟩ = s ∧
      s.main = .ended (.status c.status) log ∧ s.pool.host.files = p.host.files ∧
      s.pool.host.out = p.host.out ++ String.join texts := by
  obtain ⟨text, _, _, transcript⟩ := mirrors
  -- The main thread closes the log.
  have closes : Threads.run input [.main]
      ⟨p, workers.set worker (.tracing true texts f), [], .printing c [], said⟩ =
      ⟨{ p with host := { p.host with transcript := some ⟨some l, text.utf8ByteSize, true⟩ } },
        workers.set worker (.tracing true texts f), [],
        .restoring c (some ⟨some l, text.utf8ByteSize, true⟩) path, said⟩ := by
    rw [run_main, moveMain]
    dsimp only
    rw [logged, transcript]
    rfl
  -- The worker writes its trace.
  have goes : Goes input worker (.tracing true texts f) { p with
      host := { p.host with transcript := some ⟨some l, text.utf8ByteSize, true⟩ } } _ _ _ :=
    .trace true texts f _
  rw [Host.trace_of_closed (h := { p.host with transcript := _ }) rfl rfl] at goes
  obtain ⟨schedule, said', traces⟩ := goes workers []
    (.restoring c (some ⟨some l, text.utf8ByteSize, true⟩) path) said below
  exact ⟨[.main] ++ (schedule ++ [.main, .main, .main, .main]), _, _,
    by rw [run_append, closes, run_append, traces], rfl, rfl, rfl⟩

/-- A worker that has begun its call when the run is halted comes to its trace all the same. -/
theorem exists_late_trace (accepts : p.events.accepts = true)
    (fails : ∀ case v, input.children case v = { ending := .failed failure })
    (handled : failure.kind ≠ .interrupt) (worker : Nat) :
    ∃ g q, Goes input worker (.calling (Code.runOnce p.settings input.children worker)) p
      (.tracing q.host.shared (p.host.trace g) (some g)) q [] := by
  obtain ⟨g, q, called, handled', steady⟩ := Pool.exists_failure fails handled worker p
  obtain ⟨r, told, steady', _⟩ :=
    Pool.exists_giveUp ((EventLog.accepts_congr steady.logPath).trans accepts) worker g
  have calls : Goes input worker (.calling (Code.runOnce p.settings input.children worker)) p _ _
      [] := .calls _ p
  rw [Code.run_runOnce, called] at calls
  have answers : Goes input worker (.calling (.done (.error g))) q _ _ _ := .move _ q
  rw [Thread.move, if_neg handled'] at answers
  have traces : Goes input worker (.failing g (Code.giveUp worker g)) q _ _ _ := goes_to_trace told
  rw [(steady.trans steady').trace] at traces
  exact ⟨g, r, calls.trans (answers.trans traces)⟩

omit [DrawSource σ] in
theorem exists_summary (instant : input.duration = 0) (reason : String) (stats : Stats)
    (counts : EventCounts) : ∃ summary, Summary.render reason (Session.seconds input.duration)
      stats.fields (EventCounts.fields counts) = .ok summary := by
  rw [instant]
  exact Summary.exists_render (show Summary.rate (Summary.executed stats.fields)
    (Session.seconds 0) = .ok .zero from rfl) _ _

/-- The main thread takes the result of a worker that failed, halts the run and prints the
summary. -/
theorem leads_to_summary (instant : input.duration = 0) (f : Failure) (count : Nat)
    (workers : List (Thread σ)) (said : List Saying) :
    ∃ c q, Leads input ⟨p, workers, [.failed f], .watching (count + 1), said⟩ q workers []
      (.printing c []) ∧ c.status = 1 ∧ q.host.shared = p.host.shared := by
  obtain ⟨summary, rendered⟩ := exists_summary instant ("Halted: " ++ (Flow.failed f).reason)
    p.stop.stats p.stop.events.counts
  have halts : Threads.run input [.main]
      ⟨p, workers, [.failed f], .watching (count + 1), said⟩ =
        ⟨p, workers, [], .halting ⟨1, "Halted: " ++ (Flow.failed f).reason⟩ [], said⟩ := rfl
  refine ⟨⟨1, "Halted: " ++ (Flow.failed f).reason⟩, _,
    .of_run _ halts (prints_of_halting rendered workers [] said), rfl, ?_⟩
  exact (Host.shared_printErr _ _).trans (congrArg Host.shared (Pool.host_stop p))

/-- Two workers whose calls fail: one of them halts the run, while the other has not written its
trace when the summary has been printed. -/
theorem exists_tracing (input : SessionInput) (two : p.settings.workers = 2)
    (running : p.halted = false) (accepts : p.events.accepts = true)
    (fails : ∀ case v, input.children case v = { ending := .failed failure })
    (handled : failure.kind ≠ .interrupt) (instant : input.duration = 0) :
    ∃ schedule c g q said, Threads.run input schedule (.start p) =
      ⟨q, [.finished, .tracing q.host.shared (p.host.trace g) (some g)], [], .printing c [], said⟩ ∧
        c.status = 1 := by
  -- The second worker begins its call.
  have begins : Threads.run input [.worker 1] (.start p) = ⟨p,
      [.looking, .calling (Code.runOnce p.settings input.children 1)], [], .watching 2, []⟩ := by
    unfold Threads.start
    rw [two]
    show Threads.move input (⟨p, [.looking, .looking], [], .watching 2, []⟩ : Threads σ)
      (.worker 1) = _
    simp [Threads.move, Thread.move, running]
  -- The first worker fails, and hands over what halts the run.
  obtain ⟨f, q, looped, steady⟩ := Pool.exists_halting running accepts fails handled 0
  obtain ⟨schedule, said, halts⟩ : ∃ schedule said, Threads.run input schedule
      ⟨p, [.looking, .calling (Code.runOnce p.settings input.children 1)], [], .watching 2, []⟩ =
        ⟨q, [.finished, .calling (Code.runOnce p.settings input.children 1)], [.failed f],
          .watching 2, said⟩ :=
    goes_of_runWorker looped [.looking, .calling (Code.runOnce p.settings input.children 1)] []
      (.watching 2) [] (by simp)
  -- The second one fails as well, and is about to write its trace.
  obtain ⟨g, r, late⟩ := exists_late_trace
    ((EventLog.accepts_congr steady.logPath).trans accepts) fails handled 1
  rw [steady.settings, steady.trace] at late
  obtain ⟨schedule', said', waits⟩ : ∃ schedule said', Threads.run input schedule
      ⟨q, [.finished, .calling (Code.runOnce p.settings input.children 1)], [.failed f],
        .watching 2, said⟩ =
        ⟨r, [.finished, .tracing r.host.shared (p.host.trace g) (some g)], [.failed f],
          .watching 2, said'⟩ :=
    late [.finished, .looking] [.failed f] (.watching 2) said (by simp)
  -- The main thread halts the run, and prints the summary.
  obtain ⟨c, t, ⟨schedule'', said'', prints⟩, status, shared⟩ :=
    leads_to_summary (p := r) instant f 1
      [.finished, .tracing r.host.shared (p.host.trace g) (some g)] said'
  refine ⟨[.worker 1] ++ (schedule ++ (schedule' ++ schedule'')), c, g, t, said'', ?_, status⟩
  rw [run_append, begins, run_append, halts, run_append, waits, prints, shared]

end Threads

end CrashDiff
