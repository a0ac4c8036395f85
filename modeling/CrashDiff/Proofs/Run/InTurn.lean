import CrashDiff.Proofs.Run.Course
import CrashDiff.Proofs.Run.FullLog
import CrashDiff.Proofs.Run.ThreadLog

/-!
# Workers in turn

A session whose workers run one after the other is a session with its threads on a schedule: each
worker moves until its thread has ended, then the next one, until one of them halts the run; after
that the main thread moves on its own. So what holds for every schedule holds for such a session.

Results:
1. `Code.run_runOnce`, `Code.giveUp_eq`: the code of a worker, without interruption.
2. `goes_of_runWorker`: a worker that moves alone comes to the end of its loop.
3. `leads_of_runFrom`: so do workers in turn.
4. `exists_schedule`: a session comes to the same end on some schedule.
-/

namespace CrashDiff

variable {σ α β : Type}

/-! ## Code without interruption -/

namespace Code

variable {case : TestCase} {children : Children} {p : Pool σ}

theorem run_bind (c : Code σ α) (rest : α → Code σ β) (p : Pool σ) :
    (c >>= rest).run p = (rest (c.run p).1).run (c.run p).2 := by
  show (c.bind rest).run p = _
  induction c generalizing p with
  | done result => rfl
  | act effect next ih => exact ih p (effect p)
  | tell n next ih => exact ih (p.notify n)

theorem run_atomic (f : Pool σ → α × Pool σ) (p : Pool σ) : (atomic f).run p = f p :=
  rfl

theorem run_change (effect : Pool σ → Pool σ) (p : Pool σ) :
    (change effect).run p = ((), effect p) :=
  rfl

theorem run_recordEvents (events : List Event) (p : Pool σ) :
    (recordEvents events).run p = p.recordEvents events := by
  induction events generalizing p with
  | nil => rfl
  | cons e events ih =>
    rw [recordEvents, Pool.recordEvents, run_bind, run_atomic]
    rcases p.recordEvent e with ⟨answer, q⟩
    cases answer with
    | error f => rfl
    | ok u => exact ih q

theorem run_runVariant (v : Variant) (p : Pool σ) :
    (runVariant children case v).run p = p.runVariant children case v := by
  rw [runVariant, Pool.runVariant, run_bind, run_atomic]
  dsimp only
  rcases p.launch case v (children case v) with ⟨answer, q⟩
  cases answer with
  | error f => rfl
  | ok u => rfl

theorem run_execute (p : Pool σ) :
    (execute p.settings.execution children case).run p = p.execute children case := by
  rw [execute, Pool.execute, ExecutionSettings.runBoth, run_bind, run_runVariant]
  rcases p.runVariant children case p.settings.execution.baseline with ⟨answer, q⟩
  cases answer with
  | error f =>
    dsimp only
    split
    · rw [run_bind, run_runVariant]
      rfl
    · rfl
  | ok baseline =>
    dsimp only
    rw [run_bind, run_runVariant]
    rcases q.runVariant children case p.settings.execution.candidate with ⟨answer, r⟩
    cases answer <;> rfl

theorem run_actOn (result : DualResult) (verdict : Verdict) (p : Pool σ) :
    (actOn p.settings.haltOnCandidate case result verdict).run p = p.act case result verdict := by
  unfold actOn Pool.act
  cases verdict.action p.settings.haltOnCandidate with
  | discard =>
    dsimp only
    rw [run_bind, run_atomic]
    rcases p.removeFile case.path with ⟨answer, q⟩
    cases answer <;> rfl
  | report =>
    dsimp only
    rw [run_bind, run_recordEvents]
    rcases p.recordEvents (Pool.findingEvents case result verdict) with ⟨answer, q⟩
    cases answer <;> rfl
  | halt =>
    dsimp only
    rw [run_bind, run_recordEvents]
    rcases p.recordEvents (Pool.findingEvents case result verdict) with ⟨answer, q⟩
    cases answer <;> rfl

/-- The code of a call does what the call does. -/
theorem run_runOnce [DrawSource σ] (worker : Nat) (p : Pool σ) :
    (runOnce p.settings children worker).run p = p.runOnce children worker := by
  rw [runOnce, Pool.runOnce, run_bind, run_atomic]
  rcases drawn : p.nextCase worker with ⟨case, q⟩
  have settings : q.settings = p.settings := congrArg (fun x => x.2.settings) drawn.symm
  dsimp only
  rw [run_bind, run_atomic]
  rcases staged : q.stage case with ⟨answer, r⟩
  have settings' : r.settings = p.settings :=
    (congrArg (fun x => x.2.settings) staged.symm).trans settings
  cases answer with
  | error f => rfl
  | ok u =>
    dsimp only
    rw [run_bind, ← settings', run_execute]
    rcases ran : r.execute children case with ⟨answer, t⟩
    have settings'' : t.settings = r.settings := by
      have confined := (Pool.confined_execute children case r).2
      rw [ran] at confined
      exact confined.settings
    cases answer with
    | error f => rfl
    | ok result =>
      dsimp only
      rw [run_bind, run_change, ← settings'']
      exact run_actOn result _ { t with stats := t.stats.record _ }

/-- The code of a worker that gives up does so, up to the trace. -/
theorem giveUp_eq (worker : Nat) (f : Failure) (p : Pool σ) :
    p.giveUp worker f = match (giveUp worker f).run p with
      | (.error f, q) => (.error f, q)
      | (.ok (), q) =>
        (.ok (.failed f), { q with host := q.host.writeTrace f, halted := true }) := by
  unfold Pool.giveUp
  rw [giveUp, run_bind, run_change]
  dsimp only
  rw [run_bind, run_atomic]
  generalize Pool.recordEvent (.infrastructureError worker f.shown)
    { p with stats := p.stats.recordFailure } = recorded
  obtain ⟨answer, q⟩ := recorded
  cases answer <;> rfl

end Code

/-! ## A worker that moves alone -/

namespace Threads

variable {input : SessionInput} {children : Children} {worker fuel : Nat} {p q r : Pool σ}
  {t u v : Thread σ} {results more : List Flow}

/-- `Goes input worker t p u q results`: while nobody else moves, the worker comes from the thread
`t` on the pool `p` to the thread `u` on the pool `q`, and hands over the results. -/
def Goes [DrawSource σ] (input : SessionInput) (worker : Nat) (t : Thread σ) (p : Pool σ)
    (u : Thread σ) (q : Pool σ) (results : List Flow) : Prop :=
  ∀ (workers : List (Thread σ)) (before : List Flow) (main : MainThread) (said : List Saying),
    worker < workers.length → ∃ schedule more,
      Threads.run input schedule ⟨p, workers.set worker t, before, main, said⟩ =
        ⟨q, workers.set worker u, before ++ results, main, more⟩

namespace Goes

variable [DrawSource σ]

theorem refl (t : Thread σ) (p : Pool σ) : Goes input worker t p t p [] :=
  fun _ _ _ said _ => ⟨[], said, by rw [List.append_nil]; rfl⟩

theorem trans (first : Goes input worker t p u q results)
    (second : Goes input worker u q v r more) :
    Goes input worker t p v r (results ++ more) := by
  intro workers before main said below
  obtain ⟨schedule, said', ran⟩ := first workers before main said below
  obtain ⟨schedule', said'', ran'⟩ := second workers (before ++ results) main said' below
  refine ⟨schedule ++ schedule', said'', ?_⟩
  rw [run_append, ran, ran', List.append_assoc]

/-- One move of a worker. -/
theorem move (t : Thread σ) (p : Pool σ) :
    Goes input worker t p (t.move input.children worker p).thread
      (t.move input.children worker p).pool (t.move input.children worker p).result.toList := by
  intro workers before main said below
  refine ⟨[.worker worker], said ++ (t.move input.children worker p).said, ?_⟩
  have found : (workers.set worker t)[worker]? = some t := List.getElem?_set_self below
  show Threads.move input _ (.worker worker) = _
  simp only [Threads.move, found, List.set_set]

/-- A worker does what is in its code. -/
theorem code {α : Type} {wrap : Code σ α → Thread σ}
    (moves : ∀ (c : Code σ α) (p : Pool σ), (∀ a, c ≠ .done a) →
      (wrap c).move input.children worker p =
        { thread := wrap (c.move p).1, pool := (c.move p).2.1, said := (c.move p).2.2 })
    (c : Code σ α) (p : Pool σ) :
    Goes input worker (wrap c) p (wrap (.done (c.run p).1)) (c.run p).2 [] := by
  induction c generalizing p with
  | done result => exact .refl _ p
  | act effect next ih =>
    have first : Goes input worker (wrap (.act effect next)) p _ _ _ := Goes.move _ p
    rw [moves _ p (by simp)] at first
    exact first.trans (ih p (effect p))
  | tell n next ih =>
    have first : Goes input worker (wrap (.tell n next)) p _ _ _ := Goes.move _ p
    rw [moves _ p (by simp)] at first
    exact first.trans (ih (p.notify n))

theorem calls (c : Code σ (Except Failure Flow)) (p : Pool σ) :
    Goes input worker (.calling c) p (.calling (.done (c.run p).1)) (c.run p).2 [] := by
  refine code (fun c p undone => ?_) c p
  cases c with
  | done answer => exact absurd rfl (undone answer)
  | act effect next => rfl
  | tell n next => rfl

theorem fails (f : Failure) (c : Code σ (Except Failure Unit)) (p : Pool σ) :
    Goes input worker (.failing f c) p (.failing f (.done (c.run p).1)) (c.run p).2 [] := by
  refine code (fun c p undone => ?_) c p
  cases c with
  | done answer => exact absurd rfl (undone answer)
  | act effect next => rfl
  | tell n next => rfl

/-- A worker writes a trace. -/
theorem trace (shared : Bool) (texts : List String) (f : Option Failure) (p : Pool σ) :
    Goes input worker (.tracing shared texts f) p (.tracing shared [] f)
      { p with host := texts.foldl (fun h text => h.writeTo shared text) p.host } [] := by
  induction texts generalizing p with
  | nil => exact .refl _ p
  | cons text texts ih =>
    exact (Goes.move (.tracing shared (text :: texts) f) p).trans (ih _)

end Goes

/-- The trace of a failure goes to the standard error stream, as long as nobody else changes the
streams. -/
theorem writeTo_eq_writeErrAll {shared : Bool} {h : Host} (shares : h.shared = shared)
    (texts : List String) :
    texts.foldl (fun h text => h.writeTo shared text) h = h.writeErrAll texts := by
  induction texts generalizing h with
  | nil => rfl
  | cons text texts ih =>
    have same : h.writeTo shared text = h.writeErr text := by
      subst shares
      unfold Host.writeTo Host.writeErr Host.shared
      cases h.transcript <;> rfl
    show List.foldl _ (h.writeTo shared text) texts = (h.writeErr text).writeErrAll texts
    rw [same]
    exact ih ((Host.shared_writeErr text h).trans shares)

variable [DrawSource σ]

/-- A worker that gives up begins to write its trace. -/
theorem goes_to_trace {f : Failure} (told : (Code.giveUp worker f).run p = (.ok (), r)) :
    Goes input worker (.failing f (Code.giveUp worker f)) p
      (.tracing r.host.shared (r.host.trace f) (some f)) r [] := by
  have ran : Goes input worker (.failing f (Code.giveUp worker f)) p _ _ [] := .fails f _ p
  rw [told] at ran
  exact ran.trans (.move _ r)

/-- A worker gives up. -/
theorem goes_of_giveUp {f : Failure} {flow : Flow} (gaveUp : p.giveUp worker f = (.ok flow, q)) :
    Goes input worker (.failing f (Code.giveUp worker f)) p .finished q [flow] := by
  rw [Code.giveUp_eq] at gaveUp
  rcases told : (Code.giveUp worker f).run p with ⟨answer, r⟩
  rw [told] at gaveUp
  cases answer with
  | error f => cases gaveUp
  | ok u =>
    cases gaveUp
    have traced : Goes input worker (.tracing r.host.shared (r.host.trace f) (some f)) r _ _ [] :=
      .trace _ _ _ r
    rw [writeTo_eq_writeErrAll (h := r.host) rfl (r.host.trace f)] at traced
    exact (goes_to_trace told).trans (traced.trans ((Goes.move _ _).trans (.move _ _)))

/-- A worker that begins a call comes to its end. -/
theorem goes_of_runOnce {answer : Except Failure Flow} (running : ¬ p.halted = true)
    (called : p.runOnce input.children worker = (answer, r)) :
    Goes input worker .looking p (.calling (.done answer)) r [] := by
  have looks : Goes input worker .looking p _ _ _ := .move _ p
  rw [Thread.move, if_neg running] at looks
  have calls : Goes input worker (.calling (Code.runOnce p.settings input.children worker)) p _ _
    _ := .calls _ p
  rw [Code.run_runOnce, called] at calls
  exact looks.trans calls

/-- A worker that moves alone comes to the end of its loop. -/
theorem goes_of_runWorker {flow : Flow}
    (ran : p.runWorker input.children worker fuel = some (.ok flow, q)) :
    Goes input worker .looking p .finished q [flow] := by
  induction fuel generalizing p with
  | zero => cases ran
  | succ fuel ih =>
    rw [Pool.runWorker] at ran
    split at ran
    · rename_i halted
      cases ran
      have looks : Goes input worker .looking q _ _ _ := .move _ q
      rw [Thread.move, if_pos halted] at looks
      exact looks.trans (.move _ q)
    · rename_i running
      rcases called : p.runOnce input.children worker with ⟨answer, r⟩
      rw [called] at ran
      have calls : Goes input worker .looking p _ _ _ := goes_of_runOnce running called
      have answers : Goes input worker (.calling (.done answer)) r _ _ _ := .move _ r
      cases answer with
      | error f =>
        rw [Thread.move] at answers
        dsimp only at ran
        split at ran
        · cases ran
        · rename_i handled
          rw [if_neg handled] at answers
          exact calls.trans (answers.trans (goes_of_giveUp (Option.some.inj ran)))
      | ok flow' =>
        rw [Thread.move] at answers
        dsimp only at ran answers
        split at ran
        · rename_i halts
          cases ran
          rw [if_pos halts] at answers
          exact calls.trans (answers.trans (.move _ _))
        · rename_i again
          rw [if_neg again] at answers
          exact calls.trans (answers.trans (ih ran))

/-! ## The main thread behind the workers -/

/-- `Leads input s p workers results main`: on some schedule the threads come to the pool `p`, with
these workers, results and this main thread. -/
def Leads (input : SessionInput) (s : Threads σ) (p : Pool σ) (workers : List (Thread σ))
    (results : List Flow) (main : MainThread) : Prop :=
  ∃ schedule said, s.run input schedule = ⟨p, workers, results, main, said⟩

/-- The threads come somewhere if they come there from where a schedule leads. -/
theorem Leads.of_run {s s' : Threads σ} {workers : List (Thread σ)} {main : MainThread}
    (schedule : List Mover) (ran : s.run input schedule = s')
    (leads : Leads input s' p workers results main) : Leads input s p workers results main := by
  obtain ⟨schedule', said, ran'⟩ := leads
  exact ⟨schedule ++ schedule', said, by rw [run_append, ran, ran']⟩

/-- Workers in turn come to the end of their loops, and the main thread to the end of its wait. -/
theorem leads_of_runFrom {flow : Flow} {count : Nat} {workers : List (Thread σ)}
    (ran : p.runFrom input.children fuel worker count = some (.ok flow, q))
    (looking : ∀ k, worker ≤ k → k < worker + count → workers[k]? = some .looking)
    (said : List Saying) :
    ∃ workers' results, Leads input ⟨p, workers, [], .watching count, said⟩ q workers' results
      (.halting (if flow.halts then ⟨1, "Halted: " ++ flow.reason⟩ else ⟨0, "Completed"⟩) []) := by
  induction count generalizing p worker workers said with
  | zero =>
    cases ran
    exact ⟨workers, [], [.main], said, rfl⟩
  | succ count ih =>
    rw [Pool.runFrom] at ran
    cases looped : p.runWorker input.children worker fuel with
    | none =>
      rw [looped] at ran
      cases ran
    | some result =>
      obtain ⟨answer, r⟩ := result
      rw [looped] at ran
      cases answer with
      | error f => cases ran
      | ok flow' =>
        have found := looking worker (Nat.le_refl _) (by omega)
        obtain ⟨below, here⟩ := List.getElem?_eq_some_iff.mp found
        have same : workers.set worker .looking = workers := here ▸ List.set_getElem_self below
        obtain ⟨schedule, said', moved⟩ :=
          goes_of_runWorker looped workers [] (.watching (count + 1)) said below
        rw [same] at moved
        have waited : Threads.run input (schedule ++ [.main])
            ⟨p, workers, [], .watching (count + 1), said⟩ =
              ⟨r, workers.set worker .finished, [], if flow'.halts then
                .halting ⟨1, "Halted: " ++ flow'.reason⟩ [] else .watching count, said'⟩ := by
          rw [run_append, moved]
          rfl
        dsimp only at ran
        split at ran
        · rename_i halts
          cases ran
          rw [if_pos halts] at waited ⊢
          exact ⟨_, _, _, _, waited⟩
        · rename_i again
          rw [if_neg again] at waited
          have looking' (k : Nat) (least : worker + 1 ≤ k) (most : k < worker + 1 + count) :
              (workers.set worker .finished)[k]? = some .looking := by
            rw [List.getElem?_set_ne (by omega)]
            exact looking k (by omega) (by omega)
          obtain ⟨workers', results, leads⟩ := ih ran looking' said'
          exact ⟨workers', results, leads.of_run _ waited⟩

theorem run_main (s : Threads σ) : s.run input [.main] = s.moveMain input := rfl

/-- Behind the workers, the main thread stops the pool and reads the counters. -/
theorem run_to_summing {c : Session.Conclusion} {workers : List (Thread σ)}
    {said : List Saying} : Threads.run input [.main, .main, .main]
      ⟨p, workers, results, .halting c [], said⟩ =
        ⟨p.stop, workers, results, .summing c p.stop.stats.fields, said⟩ :=
  rfl

/-- When a summary cannot be made, the main thread ends with that. -/
theorem leads_to_raised {c : Session.Conclusion} {workers : List (Thread σ)} {said : List Saying}
    {e : Summary.SummaryError}
    (rendered : Summary.render c.reason (Session.seconds input.duration) p.stop.stats.fields
      (EventCounts.fields p.stop.events.counts) = .error e) :
    Leads input ⟨p, workers, results, .halting c [], said⟩ p.stop workers results
      (.ended (.raised (.withText .overflow e.message)) p.stop.host.transcript) := by
  refine .of_run _ run_to_summing ⟨[.main], said, ?_⟩
  rw [run_main, moveMain]
  dsimp only
  rw [rendered]

/-- When a summary can be made, the main thread prints it. -/
theorem prints_of_halting {status : Nat} {reason summary : String}
    (rendered : Summary.render reason (Session.seconds input.duration) p.stop.stats.fields
      (EventCounts.fields p.stop.events.counts) = .ok summary) (workers : List (Thread σ))
    (results : List Flow) (said : List Saying) :
    Leads input ⟨p, workers, results, .halting ⟨status, reason⟩ [], said⟩
      (Session.withHost (fun h => h.printErr summary) p.stop) workers results
      (.printing ⟨status, reason⟩ []) := by
  refine .of_run _ run_to_summing ?_
  have printing : Threads.run input [.main]
      ⟨p.stop, workers, results, .summing ⟨status, reason⟩ p.stop.stats.fields, said⟩ =
        ⟨p.stop, workers, results, .printing ⟨status, reason⟩ [summary, "\n"], said⟩ := by
    rw [run_main, moveMain]
    dsimp only
    rw [rendered]
  exact .of_run _ printing ⟨[.main, .main], _, rfl⟩

/-- When a summary can be made, the main thread prints it, closes the log and restores the
streams. -/
theorem leads_to_end {c : Session.Conclusion} {summary : String}
    (rendered : Summary.render c.reason (Session.seconds input.duration) p.stop.stats.fields
      (EventCounts.fields p.stop.events.counts) = .ok summary) (workers : List (Thread σ))
    (results : List Flow) (said : List Saying) :
    Leads input ⟨p, workers, results, .halting c [], said⟩
      (Session.withHost (fun h => (Session.finish p.settings (h.printErr summary)).1) p.stop)
      workers results (.ended (.status c.status)
        (Session.finish p.settings (p.stop.host.printErr summary)).2) := by
  obtain ⟨schedule, said', printed⟩ := prints_of_halting rendered workers results said
  refine .of_run _ printed ?_
  have given : (Session.withHost (fun h => h.printErr summary) p.stop).settings = p.settings := rfl
  cases logFile : p.settings.logFile with
  | none =>
    refine ⟨[.main], said', ?_⟩
    rw [run_main, moveMain]
    dsimp only
    rw [given, logFile]
    simp only [Session.finish, logFile]
  | some path =>
    refine ⟨[.main] ++ [.main, .main, .main, .main], ?_⟩
    simp only [run_append, run_main, moveMain, given, logFile, Session.finish]
    exact ⟨_, rfl⟩

end Threads

/-! ## Sessions -/

namespace Session

variable {input : SessionInput} {settings : RunSettings} {h host : Host} {p q : Pool Twister}
  {flow : Flow}

theorem runAtOnce_of_begin (begun : begin? input.argv h = some (settings, host))
    (schedule : List Mover) :
    runAtOnce input schedule h = runSettingsAtOnce input schedule settings host := by
  obtain ⟨arguments, parsed, accepted, opened⟩ := arguments_of_begin begun
  unfold runAtOnce setUp
  rw [parsed]
  dsimp only
  rw [accepted]
  dsimp only
  rw [opened]

/-- Without a run to be made, the rest of a session does not come into it. -/
theorem setUp_of_no_begin {argv : List String} (none : begin? argv h = none)
    (rest rest' : RunSettings → Host → SessionResult) : setUp argv rest h = setUp argv rest' h := by
  unfold begin? at none
  unfold setUp
  cases parsed : CommandLine.parse argv with
  | error e => rfl
  | ok request =>
    cases request with
    | help => rfl
    | run arguments =>
      rw [parsed] at none
      dsimp only at none ⊢
      cases accepted : arguments.settings with
      | error e => cases e <;> rfl
      | ok settings =>
        rw [accepted] at none
        dsimp only at none ⊢
        rcases opened : openTranscript settings
          { h with shownFrom := some (if arguments.verbose then .debug else .warning) }
          with ⟨answer, h'⟩
        rw [opened] at none
        cases answer with
        | error f => rfl
        | ok => cases none

/-- What the threads of a session leave when the main thread has come to its end. -/
theorem runSettingsAtOnce_of_ended {start s : Threads Twister} {schedule : List Mover}
    {ending : SessionEnding} {log : Option Transcript}
    (threads : threads? input settings h = some start) (ran : start.run input schedule = s)
    (ended : s.main = .ended ending log) :
    runSettingsAtOnce input schedule settings h = ⟨ending, s.pool.host, s.pool.calls, log⟩ := by
  unfold runSettingsAtOnce
  rw [threads]
  dsimp only
  rw [ran, ended]

theorem threads?_of_queried {h' : Host} {metadata : Json}
    (started : Pool.start settings false (Pool.sourcesFor settings input.ownSeed) h = (.ok p, h'))
    (queried : query input p = (.ok metadata, q)) :
    threads? input settings h = some (.start (announce input metadata q)) := by
  unfold threads?
  rw [started]
  dsimp only
  rw [queried]

/-- Threads that come to the end of their workers in turn come to the end of the session. -/
theorem exists_schedule_of_runAll {metadata : Json} {p' : Pool Twister} {h' : Host}
    (started : Pool.start settings false (Pool.sourcesFor settings input.ownSeed) h = (.ok p, h'))
    (queried : query input p = (.ok metadata, p'))
    (ran : (announce input metadata p').runAll input.children input.fuel = some (.ok flow, q)) :
    ∃ schedule, runSettingsAtOnce input schedule settings h = runSettings input settings h := by
  have threads := threads?_of_queried started queried
  have fresh := ((ready_of_start started).of_query queried).fresh_announce input metadata
  obtain ⟨⟨answer, r⟩, looped, stopped⟩ := Option.map_eq_some_iff.mp ran
  cases stopped
  have given : r.settings = settings :=
    (Pool.tells_performAll (Pool.performAll_of_runAll ran)).settings.trans fresh.settings
  obtain ⟨workers, results, waited⟩ : ∃ workers results, Threads.Leads input
      (.start (announce input metadata p')) r workers results
      (.halting (if flow.halts then ⟨1, "Halted: " ++ flow.reason⟩ else ⟨0, "Completed"⟩) []) := by
    refine Threads.leads_of_runFrom looped (fun k _ below => ?_) []
    rw [List.getElem?_replicate, if_pos (by omega)]
  have concluded : runPool input p = some
      (if flow.halts then ⟨1, "Halted: " ++ flow.reason⟩ else ⟨0, "Completed"⟩, r.stop) := by
    unfold runPool runWorkers
    rw [queried]
    dsimp only
    rw [ran]
  generalize (if flow.halts then (⟨1, "Halted: " ++ flow.reason⟩ : Conclusion)
    else ⟨0, "Completed"⟩) = c at waited concluded
  unfold runSettings
  rw [started]
  dsimp only
  rw [concluded]
  dsimp only [printSummary]
  obtain ⟨schedule, said, waits⟩ := waited
  cases rendered : Summary.render c.reason (seconds input.duration) r.stop.stats.fields
      (EventCounts.fields r.stop.events.counts) with
  | error e =>
    obtain ⟨schedule', said', ends⟩ := (Threads.leads_to_raised rendered).of_run schedule waits
    exact ⟨schedule', runSettingsAtOnce_of_ended threads ends rfl⟩
  | ok summary =>
    obtain ⟨schedule', said', ends⟩ :=
      (Threads.leads_to_end rendered workers results said).of_run schedule waits
    refine ⟨schedule', (runSettingsAtOnce_of_ended threads ends rfl).trans ?_⟩
    rw [given]
    rfl

/-- A session that comes to an end comes to the same end if its threads move on some schedule: the
workers one after the other, and the main thread behind them. -/
theorem exists_schedule (finished : (run input h).ending ≠ .unfinished) :
    ∃ schedule, runAtOnce input schedule h = run input h := by
  cases begun : begin? input.argv h with
  | none => exact ⟨[], setUp_of_no_begin begun _ _⟩
  | some opened =>
    obtain ⟨settings, host⟩ := opened
    rw [run_of_begin begun] at finished ⊢
    simp only [runAtOnce_of_begin begun]
    cases threads : threads? input settings host with
    | none => exact ⟨[], by rw [runSettingsAtOnce, threads]⟩
    | some start =>
      unfold threads? at threads
      split at threads
      · cases threads
      · rename_i p h' started
        split at threads
        · cases threads
        · rename_i metadata q queried
          -- A worker that dies of a failure hands over no result, and the session does not end.
          have ends : ∃ flow r, (announce input metadata q).runAll input.children input.fuel =
              some (.ok flow, r) := by
            unfold runSettings runPool runWorkers at finished
            rw [started] at finished
            dsimp only at finished
            rw [queried] at finished
            dsimp only at finished
            split at finished
            · exact absurd rfl finished
            · rename_i ran
              split at ran
              · rename_i flow r ended
                exact ⟨flow, r, ended⟩
              · cases ran
          obtain ⟨flow, r, ran⟩ := ends
          exact exists_schedule_of_runAll started queried ran

end Session

end CrashDiff
