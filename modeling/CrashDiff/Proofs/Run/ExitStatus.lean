import CrashDiff.Proofs.Options.Settings
import CrashDiff.Proofs.Run.Account
import CrashDiff.Proofs.Run.Course
import CrashDiff.Proofs.Run.Parallel

/-!
# Exit status, summary and output

What a session that returns tells in three places agrees: the exit status, the summary, and what was
printed before it. With one worker, the status is one just if there was a failure or the worker
halted; the summary then gives the reason, which is the last report, and the counters hold what was
halted for.

Results:
1. `closes_runWorker`: what the loop of a worker has counted and printed when it ends.
2. `exists_runAll_of_halt`: a run that is halted by its first case.
3. `agrees_run`: exit status, summary, output and starts of children, for each course of a session.
-/

namespace CrashDiff

open FileSystem JournalEntry Text

/-! ## The loop of a worker -/

/-- A child stops the run. -/
def Stops (children : Children) : Prop :=
  ∃ case v, (children case v).stopsRun = true

namespace Iteration

variable {σ : Type} [DrawSource σ] {i : Iteration σ}

theorem stops_of_stopped (stopped : i.stopped = true) : Stops i.turn.children := by
  obtain ⟨s, _, stops⟩ := List.any_eq_true.mp stopped
  exact ⟨i.case, s.variant, stops⟩

theorem not_stopped_of_alone (alone : ¬ Stops i.turn.children) : i.stopped = false :=
  Bool.eq_false_iff.mpr fun stopped => alone (stops_of_stopped stopped)

end Iteration

namespace Pool

variable {σ : Type} {p q : Pool σ} {t : Turn} {fuel : Nat} {flow : Flow}

theorem flow_of_giveUp {worker : Nat} {f : Failure} (gaveUp : p.giveUp worker f = (.ok flow, q)) :
    flow = .failed f := by
  cases accepts : p.events.accepts with
  | true =>
    rw [giveUp_of_accepts accepts] at gaveUp
    cases gaveUp
    rfl
  | false =>
    rw [giveUp_of_refuses accepts] at gaveUp
    cases gaveUp

/-- What the loop of a worker has come to in the pool `q`.

* Without a halt, a child has stopped the run.
* A verdict that halts the run is counted. Its report is a single line if the settings give rise to
  none but those, and the last text on the output stream unless a child has stopped the run.
* A failure that stops the worker is counted. -/
def Closes (children : Children) (p q : Pool σ) : Flow → Prop
  | .goOn => Stops children
  | .halted line verdict _ => (p.settings.OnOneLine → OneLine line) ∧ 1 ≤ q.stats.count verdict ∧
      (¬ Stops children → ∃ told, q.host.out = p.host.out ++ told ++ ("\n" ++ line ++ "\n"))
  | .failed _ => q.stats.infrastructureErrors = p.stats.infrastructureErrors + 1

theorem Closes.stop {children : Children} (closes : Closes children p q flow) :
    Closes children p q.stop flow := by
  cases flow with
  | goOn => exact closes
  | halted line verdict case =>
    unfold Closes
    rw [host_stop]
    exact closes
  | failed f => exact closes

/-- What holds between the calls of a worker. -/
structure Between (children : Children) (p q : Pool σ) : Prop where
  settings : q.settings = p.settings
  out : ∃ told, q.host.out = p.host.out ++ told
  closed : q.progress.closed = q.halted
  failures : q.stats.infrastructureErrors = p.stats.infrastructureErrors
  halted : q.halted = true → Stops children

theorem between_refl (opened : p.progress.closed = false) (running : p.halted = false)
    (children : Children) : Between children p p :=
  ⟨rfl, ⟨"", String.append_empty.symm⟩, by rw [opened, running], rfl,
    fun halted => by simp [running] at halted⟩

variable [DrawSource σ]

theorem failures_after (i : Iteration σ) :
    i.after.stats.infrastructureErrors = i.before.stats.infrastructureErrors :=
  (balanced_runOnce i).failures

theorem Between.after {i : Iteration σ} (between : Between i.turn.children p i.before)
    (running : i.before.halted = false) (answer : i.answer = .ok .goOn) :
    Between i.turn.children p i.after where
  settings := (tells_runOnce i).settings.trans between.settings
  out := by
    obtain ⟨told, out⟩ := between.out
    exact ⟨_, by rw [(tells_runOnce i).out, out, String.append_assoc]⟩
  closed := by rw [closed_after, halted_after, between.closed]
  failures := (failures_after i).trans between.failures
  halted halted := by
    rw [halted_after, any_closes_of_goOn answer, running, Bool.false_or] at halted
    exact i.stops_of_stopped halted

/-- A call fails or comes to a verdict; only the loop around it makes a worker give up. -/
theorem answer_ne_failed (i : Iteration σ) (f : Failure) : i.answer ≠ .ok (.failed f) := by
  obtain ⟨answer, q, outcome, ends⟩ := exists_ends i.turn.children i.turn.worker i.before
  have answered : i.answer = answer := congrArg Prod.fst outcome
  rw [answered]
  cases ends <;> simp

/-- A call that halts on a verdict. -/
theorem closes_of_halted {i : Iteration σ} (between : Between i.turn.children p i.before)
    (running : i.before.halted = false) {line : String} {verdict : Verdict} {case : TestCase}
    (answer : i.answer = .ok (.halted line verdict case)) :
    Closes i.turn.children p i.after (.halted line verdict case) := by
  have opened : i.before.progress.closed = false := between.closed.trans running
  have printed := (after_of_halted opened answer).2.2
  have counted := (balanced_runOnce i).verdict verdict
  obtain ⟨judgement, judged, same, own⟩ : ∃ result, i.fate = .judged result ∧
      line = i.before.reportOf i.turn.worker result ∧ verdict = result.verdict := by
    obtain ⟨answer', q, outcome, ends⟩ := exists_ends i.turn.children i.turn.worker i.before
    have answered : i.answer = answer' := congrArg Prod.fst outcome
    rw [answered] at answer
    subst answer
    cases ends with
    | halted fate _ _ => exact ⟨_, fate, rfl, rfl⟩
  have verdicts : verdictsOf [.call i] = [verdict] := by
    simp [verdictsOf, callsOf, call?, Iteration.verdict?, judged, own]
  refine ⟨fun single => same ▸ oneLine_reportOf judged (between.settings.symm ▸ single), ?_,
    fun alone => ?_⟩
  · rw [counted, verdicts, List.count_singleton_self]
    exact Nat.le_add_left 1 _
  · obtain ⟨told, out⟩ := between.out
    rw [Iteration.not_stopped_of_alone alone, out] at printed
    exact ⟨told, printed⟩

/-- The loop of a worker, when it comes to an end. -/
theorem closes_runWorker (opened : p.progress.closed = false) (running : p.halted = false)
    (ran : p.runWorker t.children t.worker fuel = some (.ok flow, q)) :
    Closes t.children p q flow := by
  have first := between_refl opened running t.children
  rcases exists_last_call first (fun i same between running answer => same ▸
    Between.after (same ▸ between) running answer) ran with
    ⟨rfl, between, halted⟩ | ⟨i, rfl, between, running', ⟨halts, answer, rfl⟩ | ⟨f, answer, gaveUp⟩⟩
  · exact between.halted halted
  · cases flow with
    | goOn => cases halts
    | halted line verdict case => exact closes_of_halted between running' answer
    | failed f => exact absurd answer (answer_ne_failed i f)
  · have counted := (balanced_giveUp i.after i.turn.worker f).failures
    rw [gaveUp, failures_after, between.failures] at counted
    rw [flow_of_giveUp gaveUp]
    exact counted

variable {children : Children} {l : Location} {result : DualResult}

/-- The first case of a run halts it, if the case can be staged and its children end with a verdict
that halts. -/
theorem exists_runAll_of_halt (running : p.halted = false) (accepts : p.events.accepts = true)
    (noNull : hasNull (p.caseOf 0).path = false)
    (place : p.host.files.IsPlace (p.caseOf 0).path l)
    (other : p.host.files.lookup l ≠ some .directory)
    (plain : ∀ v, (children (p.caseOf 0) v).OnlyEnds)
    (joined : p.joined children (p.caseOf 0) = .ok result)
    (halt : result.verdict.action p.settings.haltOnCandidate = .halt) (fuel : Nat) :
    ∃ q, p.runAll children (fuel + 1) =
      some (.ok (.halted (p.reportOf 0 result) result.verdict (p.caseOf 0)), q) := by
  have stages := (staged_of_isPlace children noNull place other).1
  have judged : Iteration.fate ⟨p, ⟨0, children⟩⟩ = .judged result := by
    show p.fate children 0 = _
    rw [fate_of_plain plain] at stages ⊢
    cases staged : ((p.nextCase 0).2.stage (p.caseOf 0)).1 with
    | error f =>
      rw [staged] at stages
      exact absurd rfl (stages f)
    | ok u =>
      dsimp only
      rw [joined]
      rfl
  have answer := answer_of_halt judged halt accepts
  obtain ⟨looped, _⟩ := runWorker_of_halts (p := p) (t := ⟨0, children⟩) (n := 0) running
    (fun k below => absurd below (Nat.not_lt_zero k)) answer rfl fuel
  rw [Nat.zero_add] at looped
  obtain ⟨count, workers⟩ := Nat.exists_eq_succ_of_ne_zero (Nat.ne_of_gt p.settings.workers_pos)
  exact ⟨_, by rw [runAll, workers, runFrom, looped]; rfl⟩

end Pool

/-! ## Printing -/

namespace Host

variable (line text : String) (h : Host)

theorem err_writeErr : (h.writeErr text).err = h.err ++ if h.shared then "" else text := by
  unfold writeErr shared
  split
  · rename_i none
    rw [none]
    rfl
  · rename_i some
    rw [some]
    unfold writeOut
    rw [some]
    exact String.append_empty.symm

theorem out_printErr :
    (h.printErr line).out = h.out ++ if h.shared then line ++ "\n" else "" := by
  rw [printErr, out_writeErr, out_writeErr, shared_writeErr]
  cases h.shared <;> simp [String.append_assoc]

theorem err_printErr :
    (h.printErr line).err = h.err ++ if h.shared then "" else line ++ "\n" := by
  rw [printErr, err_writeErr, err_writeErr, shared_writeErr]
  cases h.shared <;> simp [String.append_assoc]

theorem shared_printErr : (h.printErr line).shared = h.shared := by
  rw [printErr, shared_writeErr, shared_writeErr]

end Host

namespace Session

variable {input : SessionInput} {settings : RunSettings} {h : Host} {p q : Pool Twister}
  {code : Nat}

/-- What a message leaves alone, a run of messages does, too. -/
theorem logAll_of_log {α : Type} {part : Host → α} (keeps : ∀ m h, part (Host.log m h) = part h)
    (messages : List Message) (h : Host) : part (logAll messages h) = part h := by
  induction messages generalizing h with
  | nil => rfl
  | cons m messages ih => exact (ih (h.log m)).trans (keeps m h)

theorem out_logAll (messages : List Message) (h : Host) : (logAll messages h).out = h.out :=
  logAll_of_log Host.out_log messages h

theorem transcript_logAll (messages : List Message) (h : Host) :
    (logAll messages h).transcript = h.transcript :=
  logAll_of_log Host.transcript_log messages h

theorem files_logAll (messages : List Message) (h : Host) :
    (logAll messages h).files = h.files :=
  logAll_of_log Host.files_log messages h

theorem shared_logAll (messages : List Message) (h : Host) :
    (logAll messages h).shared = h.shared := by
  simp only [Host.shared, transcript_logAll]

/-- The metadata are collected with nothing more than messages. -/
theorem eq_of_query {answer : Except Failure Json} (queried : query input p = (answer, q)) :
    ∃ messages, q = withHost (logAll messages) p :=
  ⟨_, (congrArg Prod.snd queried).symm⟩

/-! ## Pools whose workers are not yet run -/

/-- What a pool is like that has been made on a host, until its workers are announced: nothing has
happened in it, and nothing has been printed. -/
structure Ready (settings : RunSettings) (sources : Nat → Twister) (h : Host) (p : Pool Twister) :
    Prop where
  fresh : Pool.Fresh settings sources p
  calls : p.calls = []
  out : p.host.out = h.out
  shared : p.host.shared = h.shared

theorem ready_of_start {sources : Nat → Twister} {h' : Host}
    (started : Pool.start settings false sources h = (.ok p, h')) : Ready settings sources h p := by
  have fresh := Pool.fresh_of_start started
  obtain ⟨files, _, rfl, rfl⟩ := Pool.start_cases started
  exact ⟨fresh, rfl, rfl, rfl⟩

theorem fresh_withHost {sources : Nat → Twister} (fresh : Pool.Fresh settings sources p)
    (change : Host → Host) : Pool.Fresh settings sources (withHost change p) :=
  ⟨fresh.settings, fresh.sources, fresh.counter, fresh.stats, fresh.events, fresh.progress,
    fresh.halted⟩

namespace Ready

variable {sources : Nat → Twister}

/-- The collection of the metadata is silent. -/
theorem of_query (ready : Ready settings sources h p) {answer : Except Failure Json}
    (queried : query input p = (answer, q)) : Ready settings sources h q := by
  obtain ⟨messages, rfl⟩ := eq_of_query queried
  exact ⟨fresh_withHost ready.fresh _, ready.calls, (out_logAll messages p.host).trans ready.out,
    (shared_logAll messages p.host).trans ready.shared⟩

theorem shared_announce (ready : Ready settings sources h p) (input : SessionInput)
    (metadata : Json) :
    (announce input metadata p).host.shared = h.shared :=
  (Host.shared_printErr _ _).trans ((Host.shared_printErr _ _).trans ready.shared)

/-- The announcement of the workers is nothing more than printed. -/
theorem fresh_announce (ready : Ready settings sources h p) (input : SessionInput)
    (metadata : Json) : Pool.Fresh settings sources (announce input metadata p) := by
  unfold announce
  exact fresh_withHost ready.fresh _

end Ready

/-! ## The end of a session -/

/-- The summary is the last text on the stream that it goes to, but for what is written when the log
is closed. -/
def SummaryLast (settings : RunSettings) (h : Host) (summary : String) : Prop :=
  ∃ before, (if settings.logFile.isSome then h.out else h.err) = before ++ (summary ++ "\n")

/-- A report is the last text on the output stream, but for a summary that goes there, too. -/
def ReportLast (settings : RunSettings) (h : Host) (line summary : String) : Prop :=
  ∃ before, h.out = before ++ ("\n" ++ line ++ "\n") ++
    if settings.logFile.isSome then summary ++ "\n" else ""

/-- Exit status, starts of children, summary and output agree with a course.

* `unbuilt`, `unqueried`: the status is one, and no child has been started.
* `interrupted`: the status is zero, no child has been started, and all counters are zero.
* `halted`: the status is one, the summary gives the last report as the reason, and the verdict is
  counted.
* `failed`: the status is one, the summary gives the failure as the reason, and it is counted.
* `completed`: the status is zero, and a child has stopped the run. -/
def Agrees (settings : RunSettings) (children : Children) (r : SessionResult) : Course → Prop
  | .unbuilt _ | .unqueried _ => r.ending = .status 1 ∧ r.calls = []
  | .interrupted => r.ending = .status 0 ∧ r.calls = [] ∧
      ∃ summary, SummaryLast settings r.host summary ∧
        Summary.reason? summary = some "KeyboardInterrupt" ∧
        Summary.counters? summary = some (.obj ({} : Stats).fields)
  | .halted line verdict _ => r.ending = .status 1 ∧
      ∃ summary counters, ∃ n : Int, SummaryLast settings r.host summary ∧
        Summary.reason? summary = some ("Halted: " ++ line) ∧
        Summary.counters? summary = some counters ∧
        counters.get? verdict.counter = some (.int n) ∧ 1 ≤ n ∧
        (¬ Stops children → ReportLast settings r.host line summary)
  | .failed f => r.ending = .status 1 ∧
      ∃ summary counters, SummaryLast settings r.host summary ∧
        Summary.reason? summary = some ("Halted: " ++ f.shown) ∧
        Summary.counters? summary = some counters ∧
        counters.get? "infrastructure_errors" = some (.int 1)
  | .completed => r.ending = .status 0 ∧ Stops children

/-- A summary with a reason on one line gives the reason and the counters. -/
theorem read_summary {reason summary : String} {duration : Double} {stats : Stats}
    {counts : EventCounts} (single : OneLine reason)
    (rendered : Summary.render reason duration stats.fields (EventCounts.fields counts) =
      .ok summary) :
    Summary.reason? summary = some reason ∧
      Summary.counters? summary = some (.obj stats.fields) :=
  ⟨Summary.reason?_render single rendered,
    Summary.counters?_render single stats.areCounts_fields rendered⟩

theorem finish_out (settings : RunSettings) (h : Host) : (finish settings h).1.out = h.out := by
  unfold finish
  split
  · rfl
  · simp [Host.out_printErr, Host.shared]

theorem finish_err (none : settings.logFile = none) (h : Host) :
    (finish settings h).1 = h := by
  unfold finish
  rw [none]

/-- What is printed last before the transcript is closed. -/
theorem summaryLast_conclude (code : Nat) (shares : h.shared = settings.logFile.isSome)
    (summary : String) (calls : List Call) :
    SummaryLast settings (conclude settings code (h.printErr summary) calls).host summary := by
  show SummaryLast settings (finish settings (h.printErr summary)).1 summary
  unfold SummaryLast
  rw [finish_out, Host.out_printErr, shares]
  cases log : settings.logFile with
  | some path => exact ⟨h.out, by simp⟩
  | none =>
    rw [finish_err log, Host.err_printErr, shares, log]
    exact ⟨h.err, by simp⟩

theorem reportLast_conclude (code : Nat) (shares : h.shared = settings.logFile.isSome)
    {before line : String} (out : h.out = before ++ ("\n" ++ line ++ "\n")) (summary : String)
    (calls : List Call) :
    ReportLast settings (conclude settings code (h.printErr summary) calls).host line summary := by
  refine ⟨before, ?_⟩
  show (finish settings (h.printErr summary)).1.out = _
  rw [finish_out, Host.out_printErr, shares, out]

/-! ## The begin of a session -/

/-- A session with a log file shares the output stream from its begin on. -/
theorem shares_of_begin {host : Host} (plain : h.transcript = none)
    (begun : begin? input.argv h = some (settings, host)) :
    host.shared = settings.logFile.isSome := by
  obtain ⟨arguments, _, _, opened⟩ := arguments_of_begin begun
  unfold openTranscript at opened
  cases log : settings.logFile with
  | none =>
    rw [log] at opened
    cases opened
    simp [Host.shared, plain]
  | some path =>
    rw [log] at opened
    dsimp only at opened
    split at opened
    · cases opened
    · cases opened
      rfl

/-- Reports are single lines if the scratch directory has no line feed in its name. -/
theorem onOneLine_of_begin {host : Host} (begun : begin? input.argv h = some (settings, host))
    (place : OneLine settings.execution.scratchDir.toText) : settings.OnOneLine := by
  obtain ⟨arguments, _, accepted, _⟩ := arguments_of_begin begun
  obtain ⟨baseline, candidate⟩ := Arguments.names_of_settings accepted
  exact ⟨place, by rw [baseline]; decide, by rw [candidate]; decide⟩

/-! ## Each course -/

/-- A pool of one worker that has just been started, after it has been run. -/
theorem closes_of_ended {metadata : Json} {flow : Flow} {sources : Nat → Twister}
    (ready : Ready settings sources h p) (one : settings.workers = 1)
    (ended : (announce input metadata p).runAll input.children input.fuel = some (.ok flow, q)) :
    Pool.Closes input.children (announce input metadata p) q flow ∧ q.host.shared = h.shared := by
  have fresh := ready.fresh_announce input metadata
  obtain ⟨r, ran, rfl⟩ := Pool.runAll_of_one (by rw [fresh.settings, one]) ended
  have closes := Pool.closes_runWorker (t := ⟨0, input.children⟩) fresh.opened fresh.halted ran
  have shared := (Pool.tells_runWorker (t := ⟨0, input.children⟩) ran).shared
  rw [Pool.host_stop, shared]
  exact ⟨closes.stop, ready.shared_announce input metadata⟩

/-- A session with a pool tells the same in all places. -/
theorem agrees_of_runs {h' : Host} {course : Course} {summary : String}
    (started : Pool.start settings false (Pool.sourcesFor settings input.ownSeed) h = (.ok p, h'))
    (shares : h.shared = settings.logFile.isSome) (one : settings.workers = 1)
    (single : settings.OnOneLine) (runs : Runs input p course q)
    (rendered : Summary.render course.reason (seconds input.duration) q.stats.fields
      (EventCounts.fields q.events.counts) = .ok summary) :
    Agrees settings input.children
      (conclude settings course.status (q.host.printErr summary) q.calls) course := by
  have ready := ready_of_start started
  cases runs with
  | @interrupted f q queried interrupt =>
    have asked := ready.of_query queried
    obtain ⟨reason, counters⟩ := read_summary (show OneLine "KeyboardInterrupt" by decide) rendered
    have stats : q.stop.stats = {} := asked.fresh.stats
    have shares' : (q.stop.host.printErr "\n[!] Fuzzing stopped by user.").shared =
        settings.logFile.isSome := by
      rw [Host.shared_printErr, Pool.host_stop]
      exact asked.shared.trans shares
    refine ⟨rfl, asked.calls, summary, summaryLast_conclude 0 shares' summary _, reason, ?_⟩
    rw [counters]
    exact congrArg (fun s : Stats => some (Json.obj s.fields)) stats
  | unqueried queried other => exact ⟨rfl, (ready.of_query queried).calls⟩
  | @ended metadata flow r _ queried ended =>
    have asked := ready.of_query queried
    have fresh := asked.fresh_announce input metadata
    obtain ⟨closes, shared⟩ := closes_of_ended asked one ended
    have shares' := shared.trans shares
    have last := summaryLast_conclude (Course.ofFlow flow).status shares' summary q.calls
    cases flow with
    | goOn => exact ⟨rfl, closes⟩
    | halted line verdict case =>
      obtain ⟨whole, counted, printed⟩ := closes
      have onOneLine : OneLine line := whole (fresh.settings ▸ single)
      obtain ⟨reason, counters⟩ := read_summary (oneLine_append.mpr
        ⟨show OneLine "Halted: " by decide, onOneLine⟩) rendered
      refine ⟨rfl, summary, _, q.stats.count verdict, last, reason, counters,
        q.stats.lookup_counter verdict, by exact_mod_cast counted, fun alone => ?_⟩
      obtain ⟨before, out⟩ := printed alone
      exact reportLast_conclude 1 shares' out summary q.calls
    | failed f =>
      obtain ⟨reason, counters⟩ := read_summary (oneLine_append.mpr
        ⟨show OneLine "Halted: " by decide, f.oneLine_shown⟩) rendered
      have counted : q.stats.infrastructureErrors = 1 := by
        rw [closes, fresh.stats]
      refine ⟨rfl, summary, _, last, reason, counters, ?_⟩
      show some (Json.int q.stats.infrastructureErrors) = _
      rw [counted]
      rfl

/-- What a session with one worker tells when it returns, for a scratch directory without a line
feed in its name, whatever the versions and the children do: it takes one of the six courses, and
its exit status, its summary, its output and the starts of children agree with that. -/
theorem agrees_run {host : Host} (plain : h.transcript = none)
    (begun : begin? input.argv h = some (settings, host)) (one : settings.workers = 1)
    (place : OneLine settings.execution.scratchDir.toText)
    (returned : (run input h).ending = .status code) :
    ∃ course, course? input settings host = some course ∧ code = course.status ∧
      Agrees settings input.children (run input h) course := by
  rw [run_of_begin begun] at returned ⊢
  obtain ⟨course, host', calls, returns, takes, status, concluded⟩ := exists_returns returned
  refine ⟨course, takes, status, ?_⟩
  rw [concluded]
  cases returns with
  | unbuilt started => exact ⟨rfl, rfl⟩
  | summed started runs rendered =>
    exact agrees_of_runs started (shares_of_begin plain begun) one
      (onOneLine_of_begin begun place) runs rendered

/-- A session with a log file whose children both crash on the first case. -/
def crashingInput : SessionInput where
  argv := ["--workers", "1", "--scratch-dir", "/s", "--log-file", "/log"]
  facts := ⟨"h", "p", 1, "r", "/", none, none, 0⟩
  versions := fun _ => .exited 0 "1.0" ""
  children := .exiting 101 101
  ownSeed := fun worker => worker
  duration := 0
  fuel := 1

/-- A host without files. -/
def emptyHost : Host := { files := {}, time := "" }

/-- What its children end with. -/
def crashes : DualResult :=
  ⟨⟨⟨"baseline", "+nightly"⟩, some 101, .crashed⟩, ⟨⟨"candidate", "+stage1"⟩, some 101, .crashed⟩⟩

/-- It is halted by the report of this case. -/
theorem agrees_of_crash :
    ∃ settings host case, begin? crashingInput.argv emptyHost = some (settings, host) ∧
      course? crashingInput settings host =
        some (.halted "BOTH ICE (case 0): /s/fuzz0.rs" .bothCrashed case) ∧
      Agrees settings crashingInput.children (run crashingInput emptyHost)
        (.halted "BOTH ICE (case 0): /s/fuzz0.rs" .bothCrashed case) := by
  obtain ⟨settings, host, p, h', metadata, q, begun, one, health, scratch, started, queried, place,
    absent, joined⟩ : ∃ settings host p h' metadata q,
      begin? crashingInput.argv emptyHost = some (settings, host) ∧ settings.workers = 1 ∧
        settings.healthLog = none ∧ settings.execution.scratchDir = .ofText "/s" ∧
        Pool.start settings false (Pool.sourcesFor settings crashingInput.ownSeed) host =
          (.ok p, h') ∧
        query crashingInput p = (.ok metadata, q) ∧
        (announce crashingInput metadata q).host.files.IsPlace
          ((Path.ofText "/s").child (Source.fileName 0)) ["fuzz0.rs", "s"] ∧
        (announce crashingInput metadata q).host.files.lookup ["fuzz0.rs", "s"] = none ∧
        ∀ case, Pool.joined crashingInput.children case (announce crashingInput metadata q) =
          .ok crashes :=
    ⟨_, _, _, _, _, _, rfl, rfl, rfl, rfl, rfl, rfl, rfl, rfl, fun _ => rfl⟩
  have fresh := ((ready_of_start started).of_query queried).fresh_announce crashingInput metadata
  have path : ((announce crashingInput metadata q).caseOf 0).path =
      (Path.ofText "/s").child (Source.fileName 0) := by
    rw [Pool.caseOf_path, fresh.settings, fresh.counter, scratch]
  have report : (announce crashingInput metadata q).reportOf 0 crashes =
      "BOTH ICE (case 0): /s/fuzz0.rs" := by
    rw [Pool.reportOf, path, Pool.caseOf_identifier, fresh.counter]
    decide
  have accepts : (announce crashingInput metadata q).events.accepts = true := by
    rw [EventLog.accepts_iff, fresh.events, health]
    exact fun path given => by cases given
  obtain ⟨r, ended⟩ := Pool.exists_runAll_of_halt fresh.halted accepts (by rw [path]; decide)
    (path ▸ place) (by rw [absent]; simp) (fun v => ⟨rfl, rfl⟩) (joined _) rfl 0
  rw [report] at ended
  have runs : Runs crashingInput p (.ofFlow (.halted "BOTH ICE (case 0): /s/fuzz0.rs"
    crashes.verdict ((announce crashingInput metadata q).caseOf 0))) r := .ended queried ended
  obtain ⟨summary, rendered⟩ := Summary.exists_render
    (show Summary.rate (Summary.executed r.stats.fields) (seconds 0) = .ok .zero from rfl) _ _
  have returned : (run crashingInput emptyHost).ending = .status 1 := by
    rw [run_of_begin begun, runSettings_of_runs started runs rendered]
    rfl
  have halted := course?_of_runs started runs
  obtain ⟨course, takes, _, agrees⟩ := agrees_run rfl begun one (by rw [scratch]; decide) returned
  rw [halted] at takes
  cases takes
  exact ⟨settings, host, _, begun, halted, agrees⟩

end Session

end CrashDiff
