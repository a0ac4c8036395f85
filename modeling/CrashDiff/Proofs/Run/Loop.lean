import CrashDiff.Proofs.Run.Books
import CrashDiff.Proofs.Run.Halting

/-!
# The loop of a worker

A worker is called again and again. Its loop passes the calls that go on, and is ended by the first
one that halts or fails. Both ways shut the pool down in the same manner: the halt flag is set, the
progress stream is closed, and the last thing it tells is the reason.

Results:
1. `runWorker_passes`: the calls that go on are passed.
2. `runWorker_of_halts`, `runWorker_of_error`: the call that ends the loop.
3. `loop_performAll`: the loop of a worker in any pool that moves lead to.
-/

namespace CrashDiff

open FileSystem Happening JournalEntry

variable {σ : Type} [DrawSource σ]

namespace Iteration

/-- What the call answers. -/
def answer (i : Iteration σ) : Except Failure Flow :=
  (i.before.runOnce i.turn.children i.turn.worker).1

/-- The call neither fails nor comes to a verdict that halts the run, and no child stops the run
meanwhile. -/
structure GoesOn (i : Iteration σ) : Prop where
  succeeds : ∀ f, i.answer ≠ .error f
  stays : ∀ result, i.fate = .judged result →
    result.verdict.action i.before.settings.haltOnCandidate ≠ .halt
  running : i.stopped = false

theorem runOnce_eq_answer (i : Iteration σ) :
    i.before.runOnce i.turn.children i.turn.worker = (i.answer, i.after) := rfl

end Iteration

/-- The call with an index of a worker that is called again and again. What its children do may
depend on the case, so it may be different in each call. -/
def Turn.call (t : Turn) (p : Pool σ) (n : Nat) : Iteration σ :=
  ⟨Pool.play (List.replicate n t) p, t⟩

namespace Pool

variable {p q : Pool σ} {t : Turn} {i : Iteration σ} {f : Failure} {n : Nat}

/-! ## Calls that go on -/

/-- A call that goes on says so. -/
theorem answer_of_goesOn (goesOn : i.GoesOn) : i.answer = .ok .goOn := by
  obtain ⟨answer, q, outcome, ends⟩ := exists_ends i.turn.children i.turn.worker i.before
  have answered : i.answer = answer := congrArg Prod.fst outcome
  rw [answered]
  cases ends with
  | unstaged _ => exact absurd answered (goesOn.succeeds _)
  | unrun _ => exact absurd answered (goesOn.succeeds _)
  | undeleted _ _ _ => exact absurd answered (goesOn.succeeds _)
  | discarded _ _ _ => rfl
  | unrecorded _ _ _ => exact absurd answered (goesOn.succeeds _)
  | reported _ _ _ => rfl
  | halted fate halt _ => exact absurd halt (goesOn.stays _ fate)

/-- The end of a call that answers so closes nothing. -/
theorem any_closes_of_goOn (answer : i.answer = .ok .goOn) :
    i.happenings.any closes = i.stopped := by
  have quiet : i.ending.any closes = false := by
    unfold Iteration.ending
    rw [i.runOnce_eq_answer, answer]
    split
    · split <;> rfl
    · rename_i halted _
      cases halted
    · rfl
  rw [Iteration.happenings, List.any_append, i.any_closes_stops, quiet, Bool.or_false]

/-- Calls that go on leave the halt flag alone. -/
theorem halted_of_goesOn (goesOn : i.GoesOn) : i.after.halted = i.before.halted := by
  rw [halted_after, any_closes_of_goOn (answer_of_goesOn goesOn), goesOn.running, Bool.or_false]

/-- The loop passes calls that go on. -/
theorem runWorker_passes (running : p.halted = false) (goesOn : ∀ k < n, (t.call p k).GoesOn)
    (fuel : Nat) :
    (t.call p n).before.halted = false ∧
      p.runWorker t.children t.worker (n + fuel) =
        (t.call p n).before.runWorker t.children t.worker fuel ∧
      journalOfRun t (n + fuel) p =
        (List.range n).map (fun k => .call (t.call p k)) ++
          journalOfRun t fuel (t.call p n).before := by
  induction n generalizing p with
  | zero =>
    rw [Nat.zero_add]
    exact ⟨running, rfl, rfl⟩
  | succ n ih =>
    have first := goesOn 0 (Nat.succ_pos n)
    have stillRunning := (halted_of_goesOn first).trans running
    obtain ⟨open', passed, journal⟩ := ih stillRunning fun k below =>
      goesOn (k + 1) (Nat.succ_lt_succ below)
    have outcome : p.runOnce t.children t.worker = (.ok .goOn, (t.call p 0).after) :=
      (t.call p 0).runOnce_eq_answer.trans (by rw [answer_of_goesOn first])
    rw [Nat.succ_add]
    refine ⟨open', ?_, ?_⟩
    · rw [runWorker, running, if_neg Bool.false_ne_true, outcome]
      exact passed
    · rw [journalOfRun, running, if_neg Bool.false_ne_true, outcome, List.range_succ_eq_map,
        List.map_cons, List.map_map]
      exact congrArg (.call (t.call p 0) :: ·) journal

/-! ## The call that ends the loop -/

/-- The loop is ended by a call that halts. -/
theorem runWorker_of_halts (running : p.halted = false) (goesOn : ∀ k < n, (t.call p k).GoesOn)
    {flow : Flow} (answer : (t.call p n).answer = .ok flow) (halts : flow.halts = true)
    (fuel : Nat) :
    p.runWorker t.children t.worker (n + (fuel + 1)) = some (.ok flow, (t.call p n).after) ∧
      journalOfRun t (n + (fuel + 1)) p =
        (List.range (n + 1)).map fun k => .call (t.call p k) := by
  obtain ⟨running', passes, journal⟩ := runWorker_passes running goesOn (fuel + 1)
  have outcome : (t.call p n).before.runOnce t.children t.worker =
      (.ok flow, (t.call p n).after) :=
    (t.call p n).runOnce_eq_answer.trans (by rw [answer])
  rw [passes, journal, runWorker, journalOfRun, running', if_neg Bool.false_ne_true,
    if_neg Bool.false_ne_true, outcome, List.range_succ, List.map_append]
  simp only [halts, if_true, true_and]
  rfl

/-- The loop is ended by a call that fails: the worker gives up. -/
theorem runWorker_of_error (running : p.halted = false) (goesOn : ∀ k < n, (t.call p k).GoesOn)
    (answer : (t.call p n).answer = .error f) (handled : f.kind ≠ .interrupt) (fuel : Nat) :
    p.runWorker t.children t.worker (n + (fuel + 1)) =
        some ((t.call p n).after.giveUp t.worker f) ∧
      journalOfRun t (n + (fuel + 1)) p =
        (List.range (n + 1)).map (fun k => .call (t.call p k)) ++
          [.gaveUp (t.call p n).after t.worker f] := by
  obtain ⟨running', passes, journal⟩ := runWorker_passes running goesOn (fuel + 1)
  have outcome : (t.call p n).before.runOnce t.children t.worker =
      (.error f, (t.call p n).after) :=
    (t.call p n).runOnce_eq_answer.trans (by rw [answer])
  rw [passes, journal, runWorker, journalOfRun, running', if_neg Bool.false_ne_true,
    if_neg Bool.false_ne_true, outcome, List.range_succ, List.map_append, List.append_assoc]
  simp only [handled, if_false, true_and]
  rfl

/-- A verdict that halts the run is answered with its report, if the event log takes its events. -/
theorem answer_of_halt {result : DualResult} (judged : i.fate = .judged result)
    (halt : result.verdict.action i.before.settings.haltOnCandidate = .halt)
    (accepts : i.before.events.accepts = true) :
    i.answer = .ok (.halted (i.before.reportOf i.turn.worker result) result.verdict i.case) := by
  have sameEvents : (i.before.counted i.turn.children i.turn.worker result).events =
      i.before.events := (uncounted_executed i).2
  have recorded : (i.before.recorded i.turn.children i.turn.worker result).1 = .ok () :=
    recordEvents_of_accepts (by rw [sameEvents, accepts]) _
  have only {other : DualResult} (fate : i.fate = .judged other) : other = result := by
    rw [judged] at fate
    cases fate
    rfl
  have worthy := Verdict.ne_uninteresting_of_action (by rw [halt]; decide)
  obtain ⟨answer, q, outcome, ends⟩ := exists_ends i.turn.children i.turn.worker i.before
  have answered : i.answer = answer := congrArg Prod.fst outcome
  rw [answered]
  clear outcome answered
  cases ends with
  | unstaged fate => exact absurd (judged.symm.trans fate) (by simp)
  | unrun fate => exact absurd (judged.symm.trans fate) (by simp)
  | undeleted fate dull _ => exact absurd (only fate ▸ dull) worthy
  | discarded fate dull _ => exact absurd (only fate ▸ dull) worthy
  | unrecorded fate _ failed =>
    rw [only fate, recorded] at failed
    cases failed
  | reported fate report _ =>
    rw [only fate, halt] at report
    cases report
  | halted fate _ _ =>
    rw [only fate]
    rfl

/-- The stops by children show nothing, but nothing is told after them. -/
theorem shown_stops (i : Iteration σ) (shared : Bool) (hs : List Happening) :
    shown shared false (i.stops ++ hs) = shown shared i.stopped hs := by
  have silent : ∀ h ∈ i.stops, h.text = "" ∧ h.trace = "" := by
    intro h member
    rw [Iteration.eq_stopped_of_mem_stops member]
    exact ⟨rfl, rfl⟩
  rw [shown_append, shown_eq_empty _ _ silent, String.empty_append, i.any_closes_stops,
    Bool.false_or]

/-- A call that is answered with a report tells of it last. -/
theorem ending_of_halted {line : String} {verdict : Verdict} {case : TestCase}
    (answer : i.answer = .ok (.halted line verdict case)) : i.ending = [.halted line] := by
  obtain ⟨answer', q, outcome, ends⟩ := exists_ends i.turn.children i.turn.worker i.before
  have answered : answer' = .ok (.halted line verdict case) :=
    (congrArg Prod.fst outcome).symm.trans answer
  unfold Iteration.ending
  rw [i.runOnce_eq_answer, answer]
  cases ends with
  | halted judged _ _ =>
    have judged' : i.fate = .judged _ := judged
    cases answered
    rw [judged', Iteration.reportOf_eq_reportLine judged']
  | _ => cases answered

/-- A verdict that halts the run shuts the pool down, and its report is the last text. -/
theorem after_of_halted (opened : i.before.progress.closed = false) {line : String}
    {verdict : Verdict} {case : TestCase} (answer : i.answer = .ok (.halted line verdict case)) :
    i.after.halted = true ∧ i.after.progress.closed = true ∧
      i.after.host.out = i.before.host.out ++
        if i.stopped then "" else "\n" ++ line ++ "\n" := by
  have ending := ending_of_halted answer
  have closing : i.happenings.any closes = true := by
    rw [Iteration.happenings, ending]
    simp [closes]
  refine ⟨?_, ?_, ?_⟩
  · rw [halted_after, closing, Bool.or_true]
  · rw [closed_after, closing, Bool.or_true]
  · rw [(tells_runOnce i).out, opened, Iteration.happenings, ending, shown_stops]
    simp [shown, text, trace]

/-- A call that fails prints nothing, and the progress stream is closed by its children only. -/
theorem after_of_error (opened : i.before.progress.closed = false) (answer : i.answer = .error f) :
    i.after.host.out = i.before.host.out ∧ i.after.progress.closed = i.stopped ∧
      i.after.halted = (i.before.halted || i.stopped) := by
  have ending : i.ending = [] := by
    unfold Iteration.ending
    rw [i.runOnce_eq_answer, answer]
  refine ⟨?_, ?_, ?_⟩
  · rw [(tells_runOnce i).out, opened, Iteration.happenings, ending, shown_stops, shown,
      String.append_empty]
  · rw [closed_after, opened, Iteration.happenings, ending, List.append_nil, i.any_closes_stops,
      Bool.false_or]
  · rw [halted_after, Iteration.happenings, ending, List.append_nil, i.any_closes_stops]

/-! ## The whole loop -/

/-- A loop of a worker from the pool `p` to the pool `q` is ended by the call with the index `n`.

* `calls`, `counter`: no more calls are made.
* `halted`, `closed`: the pool is shut down.
* `failures`, `out`: the failures that are counted, and the last text on the output stream. -/
structure LoopEnds (t : Turn) (n fuel failures : Nat) (last : String) (p q : Pool σ) : Prop where
  calls : callsOf (journalOfRun t fuel p) = (List.range (n + 1)).map (t.call p)
  counter : q.counter.value = p.counter.value + (n + 1 : Nat)
  halted : q.halted = true
  closed : q.progress.closed = true
  failures : q.stats.infrastructureErrors = p.stats.infrastructureErrors + failures
  out : q.host.out = (t.call p n).before.host.out ++ last

theorem performAll_run {fuel : Nat} {answer : Except Failure Flow}
    (ran : p.runWorker t.children t.worker fuel = some (answer, q)) :
    Move.performAll [.step (.run t fuel)] p = some q := by
  simp [Move.performAll, Move.perform, Step.perform, ran]

theorem journalOfAll_run (t : Turn) (fuel : Nat) (p : Pool σ) :
    Move.journalOfAll [.step (.run t fuel)] p = journalOfRun t fuel p := by
  unfold Move.journalOfAll
  split <;> exact List.append_nil _

/-- The calls, the counter and the failures of a loop are in its journal. -/
theorem counts_of_journal {fuel : Nat} {answer : Except Failure Flow}
    {tail : List (JournalEntry σ)}
    (ran : p.runWorker t.children t.worker fuel = some (answer, q))
    (journal : journalOfRun t fuel p =
      (List.range (n + 1)).map (fun k => .call (t.call p k)) ++ tail)
    (noCalls : callsOf tail = []) :
    callsOf (journalOfRun t fuel p) = (List.range (n + 1)).map (t.call p) ∧
      q.counter.value = p.counter.value + (n + 1 : Nat) ∧
      q.stats.infrastructureErrors = p.stats.infrastructureErrors + tail.countP isGaveUp := by
  have calls : callsOf (journalOfRun t fuel p) = (List.range (n + 1)).map (t.call p) := by
    rw [journal, callsOf_append, noCalls, List.append_nil, callsOf, List.filterMap_map]
    exact congrFun List.filterMap_eq_map' _
  have noFailures : ((List.range (n + 1)).map fun k => JournalEntry.call (t.call p k)).countP
      isGaveUp = 0 := by
    simp [List.countP_eq_zero, isGaveUp]
  have performed := performAll_run ran
  have leads := leads_performAll performed
  have balanced := balanced_performAll performed
  rw [journalOfAll_run] at leads balanced
  refine ⟨calls, ?_, ?_⟩
  · rw [leads.identifiers.2, calls, List.length_map, List.length_range]
  · rw [balanced.failures, journal, List.countP_append, noFailures, Nat.zero_add]

/-- The loop is ended by a verdict that halts the run. -/
theorem loopEnds_of_halted (running : p.halted = false) (goesOn : ∀ k < n, (t.call p k).GoesOn)
    (opened : (t.call p n).before.progress.closed = false) {line : String} {verdict : Verdict}
    {case : TestCase} (answer : (t.call p n).answer = .ok (.halted line verdict case))
    (fuel : Nat) :
    ∃ q, p.runWorker t.children t.worker (n + (fuel + 1)) =
        some (.ok (.halted line verdict case), q) ∧
      LoopEnds t n (n + (fuel + 1)) 0
        (if (t.call p n).stopped then "" else "\n" ++ line ++ "\n") p q := by
  obtain ⟨ran, journal⟩ := runWorker_of_halts running goesOn answer rfl fuel
  obtain ⟨calls, counter, failures⟩ :=
    counts_of_journal ran (journal.trans (List.append_nil _).symm) rfl
  obtain ⟨halted, closed, out⟩ := after_of_halted opened answer
  exact ⟨_, ran, calls, counter, halted, closed, failures, out⟩

/-- The loop is ended by a call that fails. -/
theorem loopEnds_of_error (running : p.halted = false) (goesOn : ∀ k < n, (t.call p k).GoesOn)
    (opened : (t.call p n).before.progress.closed = false)
    (accepts : (t.call p n).after.events.accepts = true)
    (answer : (t.call p n).answer = .error f) (handled : f.kind ≠ .interrupt) (fuel : Nat) :
    ∃ q, p.runWorker t.children t.worker (n + (fuel + 1)) = some (.ok (.failed f), q) ∧
      LoopEnds t n (n + (fuel + 1)) 1
        ((if (t.call p n).stopped then "" else "\n" ++ failureLine t.worker f ++ "\n") ++
          if (t.call p n).before.host.shared then (t.call p n).after.host.traceText f else "")
        p q := by
  obtain ⟨ran, journal⟩ := runWorker_of_error running goesOn answer handled fuel
  have given : (t.call p n).after.giveUp t.worker f =
      (.ok (.failed f), ((t.call p n).after.giveUp t.worker f).2) := by
    rw [giveUp_of_accepts accepts]
  rw [given] at ran
  obtain ⟨calls, counter, failures⟩ := counts_of_journal ran journal rfl
  obtain ⟨out, closed, _⟩ := after_of_error opened answer
  obtain ⟨halted, shut⟩ := halted_giveUp t.worker f (t.call p n).after
  rw [accepts, Bool.or_true] at halted shut
  refine ⟨_, ran, calls, counter, halted, shut, failures, ?_⟩
  have told := (tells_gaveUp (t.call p n).after t.worker f).out
  have story : storyOf [.gaveUp (t.call p n).after t.worker f] =
      [.gaveUp t.worker f ((t.call p n).after.host.traceText f)] := by
    simp [storyOf, happenings, accepts]
  rw [told, out, story, closed, (tells_runOnce (t.call p n)).shared]
  simp [shown, text, trace, failureLine]

/-- If the event log refuses events, the loop fails with its refusal. -/
theorem runWorker_of_refused (running : p.halted = false)
    (goesOn : ∀ k < n, (t.call p k).GoesOn)
    (opened : (t.call p n).before.progress.closed = false)
    (refuses : (t.call p n).after.events.accepts = false)
    (answer : (t.call p n).answer = .error f) (handled : f.kind ≠ .interrupt) (fuel : Nat) :
    ∃ q, p.runWorker t.children t.worker (n + (fuel + 1)) = some (.error nullFailure, q) ∧
      q.halted = (t.call p n).stopped ∧
      q.stats.infrastructureErrors = p.stats.infrastructureErrors + 1 := by
  obtain ⟨ran, journal⟩ := runWorker_of_error running goesOn answer handled fuel
  have given : (t.call p n).after.giveUp t.worker f =
      (.error nullFailure, ((t.call p n).after.giveUp t.worker f).2) := by
    rw [giveUp_of_refuses refuses]
  rw [given] at ran
  obtain ⟨_, _, failures⟩ := counts_of_journal ran journal rfl
  obtain ⟨_, _, halted⟩ := after_of_error opened answer
  obtain ⟨running', _⟩ := runWorker_passes running goesOn 0
  refine ⟨_, ran, ?_, failures⟩
  rw [(halted_giveUp t.worker f (t.call p n).after).1, refuses, halted, running', Bool.or_false,
    Bool.false_or]

/-! ## In any pool that moves lead to -/

theorem performAll_append {moves more : List Move} {r : Pool σ}
    (first : Move.performAll moves p = some q) (second : Move.performAll more q = some r) :
    Move.performAll (moves ++ more) p = some r := by
  induction moves generalizing p with
  | nil =>
    cases first
    exact second
  | cons m moves ih =>
    rw [Move.performAll] at first
    rw [List.cons_append, Move.performAll]
    cases next : m.perform p with
    | none =>
      rw [next] at first
      cases first
    | some p' =>
      rw [next] at first
      exact ih first

/-- The calls of a loop are made in pools that moves lead to. -/
theorem performAll_replicate (t : Turn) (n : Nat) (p : Pool σ) :
    Move.performAll (List.replicate n (.step (.once t))) p = some (t.call p n).before := by
  induction n generalizing p with
  | zero => rfl
  | succ n ih => exact ih _

variable {settings : RunSettings} {substitute : Bool} {sources : Nat → σ} {host h : Host}
  {s : Pool σ} {moves : List Move}

theorem settings_performAll (started : start settings substitute sources host = (.ok s, h))
    (performed : Move.performAll moves s = some p) : p.settings = settings :=
  (tells_journal performed).settings.trans (fresh_of_start started).settings

theorem accepts_performAll (started : start settings substitute sources host = (.ok s, h))
    (performed : Move.performAll moves s = some p) :
    p.events.accepts = true ↔ ∀ path ∈ settings.healthLog, hasNull path = false := by
  rw [EventLog.accepts_iff, (balanced_performAll performed).logPath,
    (fresh_of_start started).events]

/-- The loop of a worker in any pool that moves lead to.

* The halt flag is set just if the progress stream is closed.
* If it is set, the worker is not called, and nothing changes.
* Otherwise let all calls up to that with the index `n` go on, which halts the run by its verdict or
  fails. Unless the event log refuses its events, the loop is ended by this call. The answer tells
  the report with the verdict and the case, or the failure, and the last text is that report or the
  report of the failure, unless a child of the last call has closed the stream before. A failure is
  counted.
* If the event log refuses events, a failure is counted but not reported: the loop fails with the
  refusal and sets no halt flag. -/
theorem loop_performAll (started : start settings substitute sources host = (.ok s, h))
    (performed : Move.performAll moves s = some p) (t : Turn) :
    p.halted = p.progress.closed ∧
      (p.halted = true → ∀ fuel,
        p.runWorker t.children t.worker (fuel + 1) = some (.ok .goOn, p)) ∧
      ∀ n fuel, p.halted = false → (∀ k < n, (t.call p k).GoesOn) → n < fuel →
        ((∀ path ∈ settings.healthLog, hasNull path = false) →
          (∀ result, (t.call p n).fate = .judged result →
            result.verdict.action settings.haltOnCandidate = .halt →
            ∃ line q, line = (t.call p n).before.reportOf t.worker result ∧
              p.runWorker t.children t.worker fuel =
                some (.ok (.halted line result.verdict (t.call p n).case), q) ∧
              LoopEnds t n fuel 0 (if (t.call p n).stopped then "" else "\n" ++ line ++ "\n") p q) ∧
          ∀ f, (t.call p n).answer = .error f → f.kind ≠ .interrupt →
            ∃ q, p.runWorker t.children t.worker fuel = some (.ok (.failed f), q) ∧
              LoopEnds t n fuel 1
                ((if (t.call p n).stopped then "" else "\n" ++ failureLine t.worker f ++ "\n") ++
                  if p.host.shared then p.host.traceText f else "") p q) ∧
        ((∃ path ∈ settings.healthLog, hasNull path = true) →
          ∀ f, (t.call p n).answer = .error f → f.kind ≠ .interrupt →
            ∃ q, p.runWorker t.children t.worker fuel = some (.error nullFailure, q) ∧
              q.halted = (t.call p n).stopped ∧
              q.stats.infrastructureErrors = p.stats.infrastructureErrors + 1) := by
  have agree := halted_eq_closed started performed
  refine ⟨agree, fun halted fuel => by rw [runWorker, if_pos halted],
    fun n fuel running goesOn enough => ?_⟩
  obtain ⟨fuel, rfl⟩ : ∃ more, fuel = n + (more + 1) := ⟨fuel - n - 1, by omega⟩
  obtain ⟨running', _⟩ := runWorker_passes running goesOn 0
  -- The pools before and after the last call are those that moves lead to.
  have before := performAll_append performed (performAll_replicate t n p)
  have called : Move.performAll [.step (.once t)] (t.call p n).before =
      some (t.call p n).after := rfl
  have after := performAll_append before called
  have opened : (t.call p n).before.progress.closed = false :=
    (halted_eq_closed started before).symm.trans running'
  have shared : (t.call p n).before.host.shared = p.host.shared :=
    (tells_journal (performAll_replicate t n p)).shared
  refine ⟨fun asked => ⟨fun result judged halt => ?_, fun f answer handled => ?_⟩,
    fun refusing f answer handled => ?_⟩
  · rw [← settings_performAll started before] at halt
    have answer := answer_of_halt judged halt ((accepts_performAll started before).mpr asked)
    obtain ⟨q, ran, ends⟩ := loopEnds_of_halted running goesOn opened answer fuel
    exact ⟨_, q, rfl, ran, ends⟩
  · have accepts := (accepts_performAll started after).mpr asked
    have traceText : (t.call p n).after.host.traceText f = p.host.traceText f := by
      rw [Host.traceText, trace_performAll called, trace_performAll (performAll_replicate t n p)]
      rfl
    rw [← shared, ← traceText]
    exact loopEnds_of_error running goesOn opened accepts answer handled fuel
  · obtain ⟨path, given, null⟩ := refusing
    have refuses : (t.call p n).after.events.accepts = false := by
      rw [Bool.eq_false_iff, Ne, accepts_performAll started after]
      intro asked
      rw [asked path given] at null
      cases null
    exact runWorker_of_refused running goesOn opened refuses answer handled fuel

/-- Children of which both crash on the case with the number 2. -/
def crashingOnTwo : Children := fun case v =>
  if case.identifier = 2 then Children.exiting 101 101 case v else Children.exiting 1 1 case v

/-- A pool after a call. -/
def calledOnce : Pool Zeros :=
  play [⟨0, .exiting 1 1⟩] (small "/sbx" [])

/-- A worker is called twice, since its second case halts the run. -/
theorem loop_of_two_calls :
    ∃ case q, calledOnce.runWorker crashingOnTwo 1 5 =
        some (.ok (.halted "BOTH ICE (case 2): /sbx/fuzz2.rs" .bothCrashed case), q) ∧
      q.halted = true ∧ q.progress.closed = true ∧ q.counter.value = 3 ∧
      q.host.out = "..\nBOTH ICE (case 2): /sbx/fuzz2.rs\n" := by
  have performed : Move.performAll [.step (.once ⟨0, .exiting 1 1⟩)] (small "/sbx" []) =
      some calledOnce := rfl
  obtain ⟨_, _, ends⟩ := loop_performAll (start_small []) performed ⟨1, crashingOnTwo⟩
  have first : (Turn.call ⟨1, crashingOnTwo⟩ calledOnce 0).GoesOn := by
    refine ⟨fun f failed => ?_, fun result judged halt => ?_, rfl⟩
    · have answer : (Turn.call ⟨1, crashingOnTwo⟩ calledOnce 0).answer = .ok .goOn := rfl
      rw [answer] at failed
      cases failed
    · have fate : (Turn.call ⟨1, crashingOnTwo⟩ calledOnce 0).fate =
          .judged ⟨⟨⟨"baseline", "+nightly"⟩, some 1, .notCrashed⟩,
            ⟨⟨"candidate", "+stage1"⟩, some 1, .notCrashed⟩⟩ := rfl
      rw [fate] at judged
      cases judged
      cases halt
  have goesOn : ∀ k < 1, (Turn.call ⟨1, crashingOnTwo⟩ calledOnce k).GoesOn := by
    intro k below
    rw [Nat.lt_one_iff.mp below]
    exact first
  have fate : (Turn.call ⟨1, crashingOnTwo⟩ calledOnce 1).fate =
      .judged ⟨⟨⟨"baseline", "+nightly"⟩, some 101, .crashed⟩,
        ⟨⟨"candidate", "+stage1"⟩, some 101, .crashed⟩⟩ := rfl
  obtain ⟨shutsDown, _⟩ := ends 1 5 rfl goesOn (by decide)
  obtain ⟨halts, _⟩ := shutsDown (by simp [RunSettings.small])
  obtain ⟨line, q, rfl, ran, ended⟩ := halts _ fate rfl
  refine ⟨_, q, ran, ended.halted, ended.closed, ended.counter, ?_⟩
  rw [ended.out]
  rfl

/-- A failure that the event log refuses goes through the loop, and halts nothing. -/
theorem loop_through_refusing_log :
    ∃ p h q, start (σ := Zeros)
        { RunSettings.small (.ofText "/sbx") with healthLog := some (.ofText "/sbx/h\x00") } false
        (fun _ => {}) (small "/sbx" []).host = (.ok p, h) ∧
      p.runWorker (fun _ _ => { ending := .failed (.withText .os "no compiler") }) 0 1 =
        some (.error nullFailure, q) ∧
      q.halted = false ∧ q.progress.closed = false ∧ q.host.out = "" :=
  ⟨_, _, _, rfl, rfl, rfl, rfl, rfl⟩

end Pool

end CrashDiff
