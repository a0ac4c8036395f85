import CrashDiff.Proofs.Run.Lines
import CrashDiff.Proofs.Run.Output
import CrashDiff.Proofs.Run.Story

/-!
# What the progress stream tells

Every step of a run tells its part of the story: a call, the loop of a worker, and a stop from
outside. The output stream shows the story up to its end, and nothing after it.

Results:
1. `tells_runOnce`, `tells_runWorker`, `tells_stop`: what each step tells.
2. `out_performAll`: the output of any sequence of steps, and how its lines are read back.
-/

namespace CrashDiff

open Happening Text

/-- A step of a run: a call of a worker, the loop of a worker with a bound for its calls, or a stop
from outside. -/
inductive Step where
  | once (turn : Turn)
  | run (turn : Turn) (fuel : Nat)
  | stop

variable {σ : Type}

/-! ## Telling -/

namespace Pool

/-- The second pool comes from the first one while the given things happen: they are what the
progress stream tells meanwhile. -/
structure Tells (hs : List Happening) (p q : Pool σ) : Prop where
  settings : q.settings = p.settings
  shared : q.host.shared = p.host.shared
  out : q.host.out = p.host.out ++ shown p.host.shared p.progress.closed hs
  closed : q.progress.closed = (p.progress.closed || hs.any closes)
  lines : p.settings.OnOneLine → ∀ line ∈ linesOf hs, OneLine line

variable {hs more : List Happening} {p q r : Pool σ}

theorem Tells.trans (first : Tells hs p q) (second : Tells more q r) :
    Tells (hs ++ more) p r where
  settings := second.settings.trans first.settings
  shared := second.shared.trans first.shared
  out := by
    rw [second.out, first.out, first.closed, first.shared, shown_append, String.append_assoc]
  closed := by rw [second.closed, first.closed, List.any_append, Bool.or_assoc]
  lines single line member := by
    rw [linesOf, List.filterMap_append] at member
    rcases List.mem_append.mp member with early | late
    · exact first.lines single line early
    · exact second.lines (first.settings ▸ single) line late

/-- A step that gives no notice tells nothing. -/
theorem Tells.of_silent (settings : q.settings = p.settings)
    (shared : q.host.shared = p.host.shared) (out : q.host.out = p.host.out)
    (closed : q.progress.closed = p.progress.closed) : Tells [] p q where
  settings := settings
  shared := shared
  out := by rw [out, shown, String.append_empty]
  closed := by simpa using closed
  lines _ line member := by cases member

/-- A notice tells of a happening that has the same text and no trace, and closes the stream just if
the notice does. -/
theorem tells_notify {n : Notice} {h : Happening} (text : Progress.noticeText n = h.text)
    (trace : h.trace = "") (closes : Progress.closes n = h.closes)
    (line : p.settings.OnOneLine → ∀ line, h.line? = some line → OneLine line) :
    Tells [h] p (p.notify n) where
  settings := rfl
  shared := shared_notify n p
  out := by
    rw [out_notify, Progress.written, text]
    simp [shown, trace]
  closed := by
    simp only [List.any_cons, List.any_nil, Bool.or_false, ← closes]
    rfl
  lines single own member := by
    obtain ⟨h', inList, found⟩ := List.mem_filterMap.mp member
    rw [List.mem_singleton.mp inList] at found
    exact line single own found

theorem tells_stop (p : Pool σ) : Tells [.stopped] p p.stop where
  settings := rfl
  shared := by rw [host_stop]
  out := by
    rw [host_stop]
    simp [shown, text, trace]
  closed := by simp [stop, notify, Progress.after, Progress.closes, Happening.closes]
  lines _ line member := by cases member

/-- A worker that gives up tells of it, unless its failure cannot be recorded. -/
theorem tells_giveUp (worker : Nat) (f : Failure) (p : Pool σ) :
    Tells
      (match (p.giveUp worker f).1 with
        | .ok _ => [.gaveUp worker f (p.host.traceText f)]
        | .error _ => [])
      p (p.giveUp worker f).2 := by
  have counted : Tells [] p { p with stats := p.stats.recordFailure } :=
    .of_silent rfl rfl rfl rfl
  have recorded : Tells [] { p with stats := p.stats.recordFailure }
      ({ p with stats := p.stats.recordFailure }.recordEvent
        (.infrastructureError worker f.shown)).2 :=
    .of_silent (confined_recordEvent _ _).settings rfl rfl rfl
  have noted := counted.trans recorded
  unfold giveUp
  dsimp only
  rcases record : { p with stats := p.stats.recordFailure }.recordEvent
    (.infrastructureError worker f.shown) with ⟨answer, q⟩
  rw [record] at noted ⊢
  cases answer with
  | error _ => exact noted
  | ok u =>
    -- Shared streams get the trace behind the report, even when the report is not shown.
    have same : q.host.trace = p.host.trace := by
      rw [← congrArg (fun r => r.2.host.trace) record]
      rfl
    have last : Tells [.gaveUp worker f (p.host.traceText f)] q
        { q.notify (.lastReport (failureLine worker f)) with
          host := (q.notify (.lastReport (failureLine worker f))).host.writeTrace f
          halted := true } := by
      refine ⟨rfl, ?_, ?_, rfl, ?_⟩
      · exact (Host.shared_writeErrAll _ _).trans (shared_notify _ q)
      · refine (Host.out_writeErrAll _ _).trans ?_
        rw [out_notify, shared_notify, trace_notify, Progress.written]
        simp [shown, text, trace, Host.traceText, same, Progress.noticeText, Progress.reportText,
          failureLine, String.append_assoc]
      · intro _ line member
        rw [List.mem_singleton.mp member]
        exact oneLine_failureLine worker f
    exact noted.trans last

end Pool

/-! ## A call -/

namespace Iteration

/-- The names and codes of the variants that exited unexpectedly. -/
def exitsOf (i : Iteration σ) (result : DualResult) : String :=
  let baseline := i.before.settings.execution.baseline.name ++ " exited " ++
    Outcome.codeText result.baseline.code
  let candidate := i.before.settings.execution.candidate.name ++ " exited " ++
    Outcome.codeText result.candidate.code
  match result.baseline.outcome, result.candidate.outcome with
  | .unexpected, .unexpected => baseline ++ ", " ++ candidate
  | .unexpected, _ => baseline
  | _, _ => candidate

theorem isEmpty_exitsOf (i : Iteration σ) (result : DualResult) :
    (i.exitsOf result).isEmpty = false := by
  rw [String.isEmpty_eq_false_iff, exitsOf]
  split <;> simp

variable [DrawSource σ]

/-- The stops that the children of the call bring about. -/
def stops (i : Iteration σ) : List Happening :=
  (i.launches.filter fun s => (i.turn.children i.case s.variant).stopsRun).map fun _ => .stopped

theorem eq_stopped_of_mem_stops {i : Iteration σ} {h : Happening} (member : h ∈ i.stops) :
    h = .stopped := by
  obtain ⟨_, _, rfl⟩ := List.mem_map.mp member
  rfl

/-- The line that reports a case with its results. -/
def reportLine (i : Iteration σ) (result : DualResult) : String :=
  let place := " (case " ++ numeral i.case.identifier ++ "): " ++ i.case.path.toText
  match result.verdict with
  | .uninteresting => ""
  | .baselineOnly => "ICE in " ++ i.before.settings.execution.baseline.name ++ " only" ++ place
  | .candidateOnly => "ICE in " ++ i.before.settings.execution.candidate.name ++ " only" ++ place
  | .bothCrashed => "BOTH ICE" ++ place
  | .unexpectedExit => "UNEXPECTED EXIT CODE" ++ place ++ " [" ++ i.exitsOf result ++ "]"

/-- What happens in the end of the call. -/
def ending (i : Iteration σ) : List Happening :=
  match (i.before.runOnce i.turn.children i.turn.worker).1, i.fate with
  | .ok .goOn, .judged result =>
    if result.verdict = .uninteresting then [.discarded] else [.reported (i.reportLine result)]
  | .ok (.halted ..), .judged result => [.halted (i.reportLine result)]
  | _, _ => []

/-- What happens during the call, as far as the progress stream may tell of it. -/
def happenings (i : Iteration σ) : List Happening :=
  i.stops ++ i.ending

theorem detail_eq_exitsOf {i : Iteration σ} {result : DualResult}
    (judged : i.fate = .judged result) (unexpected : result.verdict = .unexpectedExit) :
    Report.detail result = i.exitsOf result := by
  obtain ⟨baseline, candidate⟩ := Pool.variants_of_judged judged
  have judgedSo : Verdict.ofOutcomes result.baseline.outcome result.candidate.outcome =
      .unexpectedExit := unexpected
  cases first : result.baseline.outcome <;> cases second : result.candidate.outcome <;>
    simp [first, second, Verdict.ofOutcomes] at judgedSo
  all_goals
    simp [Report.detail, exitsOf, first, second, baseline, candidate,
      String.intercalate_cons_cons, String.append_assoc]

/-- The report of a judged case is the line. -/
theorem reportOf_eq_reportLine {i : Iteration σ} {result : DualResult}
    (judged : i.fate = .judged result) :
    i.before.reportOf i.turn.worker result = i.reportLine result := by
  obtain ⟨baseline, candidate⟩ := Pool.variants_of_judged judged
  show Report.lineOf result.verdict i.case.identifier i.case.path result = _
  cases verdict : result.verdict with
  | unexpectedExit =>
    have exits := detail_eq_exitsOf judged verdict
    simp [Report.lineOf, Report.line?, Report.label?, reportLine, verdict, exits, i.isEmpty_exitsOf,
      String.append_assoc]
  | uninteresting | baselineOnly | candidateOnly | bothCrashed =>
    simp [Report.lineOf, Report.line?, Report.label?, reportLine, verdict, baseline, candidate,
      String.append_assoc]

end Iteration

namespace Pool

variable [DrawSource σ] {p q : Pool σ}

theorem tells_executed (i : Iteration σ) (stages : ∀ f, i.fate ≠ .unstaged f) :
    Tells i.stops i.before (i.before.executed i.turn.children i.turn.worker) := by
  refine ⟨(confined_executed _ _ _).settings, shared_executed _ _ _, ?_, ?_, ?_⟩
  · have silent : ∀ h ∈ i.stops, h.text = "" ∧ h.trace = "" := by
      intro h member
      rw [Iteration.eq_stopped_of_mem_stops member]
      exact ⟨rfl, rfl⟩
    rw [out_executed, shown_eq_empty _ _ silent, String.append_empty]
  · have closing : i.stops.any closes =
        i.launches.any fun s => (i.turn.children i.case s.variant).stopsRun := by
      rw [Bool.eq_iff_iff]
      simp [Iteration.stops, closes]
    rw [closing, Iteration.launches_of_staged stages]
    exact closed_execute i.turn.children i.case (i.before.staged i.turn.worker)
  · intro _ line member
    obtain ⟨h, inList, found⟩ := List.mem_filterMap.mp member
    rw [Iteration.eq_stopped_of_mem_stops inList] at found
    cases found

theorem tells_discarded (children : Children) (worker : Nat) (result : DualResult)
    (p : Pool σ) :
    Tells [] (p.executed children worker) (p.discarded children worker result).2 := by
  refine .of_silent rfl (Host.shared_remove _ _) ?_ rfl
  exact (out_discarded children worker result p).trans (out_executed children worker p).symm

theorem tells_recorded (children : Children) (worker : Nat) (result : DualResult)
    (p : Pool σ) :
    Tells [] (p.executed children worker) (p.recorded children worker result).2 := by
  obtain ⟨out, progress, shared⟩ := recordEvents_streams
    (findingEvents (p.caseOf worker) result result.verdict) (p.counted children worker result)
  refine .of_silent ?_ shared out (congrArg Progress.closed progress)
  exact (confined_recordEvents _ _).settings

/-- A call tells of the stops by its children and of its end. -/
theorem tells_runOnce (i : Iteration σ) : Tells i.happenings i.before i.after := by
  obtain ⟨answer, q, outcome, ends⟩ := exists_ends i.turn.children i.turn.worker i.before
  have after : i.after = q := congrArg Prod.snd outcome
  rw [after, Iteration.happenings, Iteration.ending, outcome]
  clear outcome after
  -- A report is a single line, whichever way it is given.
  have line {result : DualResult} (judged : i.fate = .judged result)
      (single : (i.before.executed i.turn.children i.turn.worker).settings.OnOneLine) :
      OneLine (i.before.reportOf i.turn.worker result) := by
    rw [(confined_executed i.turn.children i.turn.worker i.before).settings] at single
    exact oneLine_reportOf judged single
  induction ends with
  | unstaged unstaged =>
    have noStops : i.stops = [] := by
      have unstaged' : i.fate = .unstaged _ := unstaged
      simp [Iteration.stops, Iteration.launches, unstaged']
    rw [noStops]
    exact .of_silent rfl rfl rfl rfl
  | unrun unrun =>
    have unrun' : i.fate = .unrun _ := unrun
    have ran := tells_executed i (by simp [unrun'])
    simpa using ran
  | undeleted judged _ _ =>
    have judged' : i.fate = .judged _ := judged
    have ran := tells_executed i (by simp [judged'])
    exact ran.trans (tells_discarded _ _ _ _)
  | discarded judged dull _ =>
    have judged' : i.fate = .judged _ := judged
    have ran := tells_executed i (by simp [judged'])
    simp only [judged', dull, if_true]
    exact ran.trans ((tells_discarded _ _ _ _).trans
      (tells_notify rfl rfl rfl fun _ line found => by cases found))
  | unrecorded judged _ _ =>
    have judged' : i.fate = .judged _ := judged
    have ran := tells_executed i (by simp [judged'])
    exact ran.trans (tells_recorded _ _ _ _)
  | @reported result judged report _ =>
    have judged' : i.fate = .judged _ := judged
    have ran := tells_executed i (by simp [judged'])
    have worthy := Verdict.ne_uninteresting_of_action (by rw [report]; decide)
    simp only [judged', worthy, if_false, ← Iteration.reportOf_eq_reportLine judged']
    have recorded := tells_recorded i.turn.children i.turn.worker result i.before
    refine ran.trans (recorded.trans (tells_notify rfl rfl rfl ?_))
    intro single line' found
    cases found
    exact line judged (recorded.settings ▸ single)
  | @halted result judged halt _ =>
    have judged' : i.fate = .judged _ := judged
    have ran := tells_executed i (by simp [judged'])
    have recorded := tells_recorded i.turn.children i.turn.worker result i.before
    have last : Tells [.halted (i.before.reportOf i.turn.worker result)]
        (i.before.recorded i.turn.children i.turn.worker result).2
        ((i.before.recorded i.turn.children i.turn.worker result).2.notify
          (.lastReport (i.before.reportOf i.turn.worker result))) := by
      refine tells_notify rfl rfl rfl ?_
      intro single line' found
      cases found
      exact line judged (recorded.settings ▸ single)
    have noticed := ran.trans (recorded.trans last)
    simp only [judged', ← Iteration.reportOf_eq_reportLine judged']
    exact ⟨noticed.settings, noticed.shared, noticed.out, noticed.closed, noticed.lines⟩

end Pool

/-! ## Steps -/

/-- What happens while a worker runs: what happens in its calls, and that it gives up if it does. -/
def happeningsOfRun [DrawSource σ] (t : Turn) : Nat → Pool σ → List Happening
  | 0, _ => []
  | fuel + 1, p =>
    if p.halted then []
    else
      Iteration.happenings ⟨p, t⟩ ++
        match p.runOnce t.children t.worker with
        | (.error f, q) =>
          if f.kind = .interrupt then []
          else
            match (q.giveUp t.worker f).1 with
            | .ok _ => [.gaveUp t.worker f (q.host.traceText f)]
            | .error _ => []
        | (.ok flow, q) => if flow.halts then [] else happeningsOfRun t fuel q

namespace Step

variable [DrawSource σ]

/-- The pool after a step. There is none if a worker has not come to its end. -/
def perform : Step → Pool σ → Option (Pool σ)
  | .once t, p => some (p.runOnce t.children t.worker).2
  | .run t fuel, p => (p.runWorker t.children t.worker fuel).map (·.2)
  | .stop, p => some p.stop

/-- What happens during a step. -/
def happenings : Step → Pool σ → List Happening
  | .once t, p => Iteration.happenings ⟨p, t⟩
  | .run t fuel, p => happeningsOfRun t fuel p
  | .stop, _ => [.stopped]

/-- The pool after steps. -/
def performAll : List Step → Pool σ → Option (Pool σ)
  | [], p => some p
  | s :: steps, p =>
    match s.perform p with
    | none => none
    | some q => performAll steps q

/-- What happens during steps. -/
def happeningsOfAll : List Step → Pool σ → List Happening
  | [], _ => []
  | s :: steps, p =>
    s.happenings p ++
      match s.perform p with
      | none => []
      | some q => happeningsOfAll steps q

end Step

namespace Pool

variable [DrawSource σ] {p q : Pool σ}

theorem tells_runWorker {t : Turn} {fuel : Nat} {answer : Except Failure Flow}
    (ran : p.runWorker t.children t.worker fuel = some (answer, q)) :
    Tells (happeningsOfRun t fuel p) p q := by
  induction fuel generalizing p with
  | zero => cases ran
  | succ fuel ih =>
    rw [runWorker] at ran
    rw [happeningsOfRun]
    have call := tells_runOnce ⟨p, t⟩
    split at ran
    · rename_i halted
      cases ran
      rw [if_pos halted]
      exact .of_silent rfl rfl rfl rfl
    · rename_i goesOn
      rw [if_neg goesOn]
      rcases outcome : p.runOnce t.children t.worker with ⟨answer', r⟩
      have after : Iteration.after ⟨p, t⟩ = r := congrArg Prod.snd outcome
      rw [after] at call
      rw [outcome] at ran
      cases answer' with
      | error f =>
        dsimp only at ran ⊢
        split at ran
        · rename_i interrupt
          cases ran
          rw [if_pos interrupt, List.append_nil]
          exact call
        · rename_i handled
          rw [if_neg handled]
          have last := tells_giveUp t.worker f r
          rw [Option.some.injEq] at ran
          rw [ran] at last ⊢
          exact call.trans last
      | ok flow =>
        dsimp only at ran ⊢
        split at ran
        · rename_i halts
          cases ran
          rw [if_pos halts, List.append_nil]
          exact call
        · rename_i again
          rw [if_neg again]
          exact call.trans (ih ran)

theorem tells_perform {s : Step}
    (performed : s.perform p = some q) : Tells (s.happenings p) p q := by
  cases s with
  | once t =>
    cases performed
    exact tells_runOnce ⟨p, t⟩
  | run t fuel =>
    obtain ⟨⟨answer, r⟩, ran, rfl⟩ := Option.map_eq_some_iff.mp performed
    exact tells_runWorker ran
  | stop =>
    cases performed
    exact tells_stop p

theorem tells_performAll {steps : List Step}
    (performed : Step.performAll steps p = some q) : Tells (Step.happeningsOfAll steps p) p q := by
  induction steps generalizing p with
  | nil =>
    cases performed
    exact .of_silent rfl rfl rfl rfl
  | cons s steps ih =>
    rw [Step.performAll] at performed
    rw [Step.happeningsOfAll]
    cases first : s.perform p with
    | none =>
      rw [first] at performed
      cases performed
    | some r =>
      rw [first] at performed
      exact (tells_perform first).trans (ih performed)

/-- The output of any steps.

* The progress stream tells the story of what happens in order, up to the first happening that
  closes it. Nothing that closes it is followed by anything in the story, and a closed stream tells
  nothing.
* The output stream shows the story and nothing else, unless a transcript shares it with the traces
  of failures.
* If the names in the reports have no line feed in them, no line has one, whatever the failures, and
  the story split at line feeds is points and lines in turn, with points at both ends. -/
theorem out_performAll {steps : List Step} (performed : Step.performAll steps p = some q) :
    ∃ story, story = (if p.progress.closed then [] else told (Step.happeningsOfAll steps p)) ∧
      q.host.out = p.host.out ++
        (if p.host.shared then shown true p.progress.closed (Step.happeningsOfAll steps p)
          else textOf story) ∧
      q.progress.closed = (p.progress.closed || (Step.happeningsOfAll steps p).any closes) ∧
      (∀ h ∈ story.dropLast, h.closes = false) ∧
      (p.settings.OnOneLine →
        (∀ line ∈ linesOf story, OneLine line) ∧
        ((textOf story).toList.splitOn '\n').length = 2 * (linesOf story).length + 1 ∧
        (∀ k, ((textOf story).toList.splitOn '\n')[2 * k + 1]? =
          (linesOf story)[k]?.map String.toList) ∧
        ∀ k points, ((textOf story).toList.splitOn '\n')[2 * k]? = some points →
          ∀ c ∈ points, c = '.') := by
  have tells := tells_performAll performed
  refine ⟨_, rfl, ?_, tells.closed, ?_, fun single => ?_⟩
  · rw [tells.out]
    cases p.host.shared with
    | true => rfl
    | false => rw [shown_unshared]; rfl
  · intro h member
    split at member
    · cases member
    · exact closes_of_mem_dropLast member
  · have whole : ∀ line ∈ linesOf
        (if p.progress.closed then [] else told (Step.happeningsOfAll steps p)), OneLine line := by
      intro line member
      split at member
      · cases member
      · obtain ⟨h, inStory, found⟩ := List.mem_filterMap.mp member
        exact tells.lines single line (List.mem_filterMap.mpr ⟨h, mem_of_mem_told inStory, found⟩)
    have decodes := decodes_splitOn whole
    exact ⟨whole, decodes.length_eq, decodes.getElem?_odd, fun k _ => decodes.getElem?_even k⟩

/-- A point, a report, and the report that ends the run; the last call is not told of. -/
theorem out_of_four_steps :
    ∃ q, Step.performAll [.once ⟨0, .exiting 1 1⟩, .once ⟨1, .exiting 101 1⟩,
        .run ⟨0, .exiting 101 101⟩ 2, .once ⟨1, .exiting 1 1⟩] (small "/sbx" []) = some q ∧
      q.host.out = ".\nICE in baseline only (case 1): /sbx/fuzz1.rs\n" ++
        "\nBOTH ICE (case 2): /sbx/fuzz2.rs\n" := by
  obtain ⟨q, performed⟩ : ∃ q, Step.performAll [.once ⟨0, .exiting 1 1⟩, .once ⟨1, .exiting 101 1⟩,
      .run ⟨0, .exiting 101 101⟩ 2, .once ⟨1, .exiting 1 1⟩] (small "/sbx" []) = some q := ⟨_, rfl⟩
  obtain ⟨story, told, out, _⟩ := out_performAll performed
  refine ⟨q, performed, ?_⟩
  rw [out, told]
  rfl

end Pool

end CrashDiff
