import CrashDiff.Proofs.Run.FullLog

/-!
# The cause of a failure in the log

A session that fails tells why in its summary, and so in its log: it gives the last report, the
failure of a worker, or the failure that the collection of the metadata has ended with. A session
whose pool cannot be made has no summary, and it tells its failure past the transcript, so its log
stays empty.

Results:
1. `exists_out_of_runs`: the report that halts a run is printed.
2. `explains_of_returns`: what a session prints of the cause of its failure.
3. `explains_run`: what its log says of it.
4. `unexplained_occupied_scratch`: a log that says nothing.
-/

namespace CrashDiff

open FileSystem Text Happening

/-! ## The last report -/

namespace Pool

variable {σ : Type} [DrawSource σ] {p q : Pool σ} {children : Children} {fuel : Nat}

/-- Unless a child stops the run, it is the first worker that halts it. -/
theorem runWorker_of_alone {flow : Flow} (opened : p.progress.closed = false)
    (running : p.halted = false) (alone : ¬ Stops children) (manned : 0 < p.settings.workers)
    (ran : p.runAll children fuel = some (.ok flow, q)) :
    ∃ r, p.runWorker children 0 fuel = some (.ok flow, r) ∧ q = r.stop := by
  obtain ⟨first, r, looped, ⟨rfl, rfl⟩ | ⟨rfl, _⟩⟩ := exists_first_loop manned ran
  · exact ⟨r, looped, rfl⟩
  · exact absurd (closes_runWorker (t := ⟨0, children⟩) opened running looped) alone

end Pool

/-! ## What is said of the cause -/

namespace Session

variable {input : SessionInput} {settings : RunSettings} {h h' host : Host} {p q : Pool Twister}
  {course : Course} {calls : List Call} {path : Path} {line told : String} {verdict : Verdict}
  {case : TestCase}

/-- What the printed text says of the cause of a failure.

* `unbuilt`: nothing at all.
* `unqueried`: the message, if no line of it but the first one is blank.
* `halted`: the last report, if no child stops the run, and else under the same condition.
* `failed`: the failure. -/
def Explains (children : Children) (told : String) : Course → Prop
  | .unbuilt _ => told = ""
  | .unqueried f => Settled (lines f.message.toList).tail → f.message.toList <:+: told.toList
  | .halted line _ _ =>
    (¬ Stops children ∨ Settled (lines line.toList).tail) → line.toList <:+: told.toList
  | .failed f => f.shown.toList <:+: told.toList
  | .interrupted | .completed => True

theorem exists_out_announce (input : SessionInput) (metadata : Json) (p : Pool Twister) :
    ∃ before, (announce input metadata p).host.out = p.host.out ++ before := by
  have printed (line : String) (h : Host) : ∃ text, (h.printErr line).out = h.out ++ text :=
    ⟨_, Host.out_printErr line h⟩
  obtain ⟨header, first⟩ := printed _ p.host
  obtain ⟨starting, second⟩ := printed (startingText p.settings.workers) _
  exact ⟨header ++ starting, second.trans (by rw [first, String.append_assoc])⟩

/-- The report that halts the run is printed, unless a child stops the run. -/
theorem exists_out_of_runs
    (started : Pool.start settings false (Pool.sourcesFor settings input.ownSeed) h = (.ok p, h'))
    (alone : ¬ Stops input.children) (runs : Runs input p course q)
    (halted : course = .halted line verdict case) :
    ∃ before, q.host.out = h.out ++ before ++ ("\n" ++ line ++ "\n") := by
  cases runs with
  | interrupted => cases halted
  | unqueried => cases halted
  | @ended metadata flow q' _ queried ran =>
    obtain rfl : flow = .halted line verdict case := by
      cases flow <;> cases halted
      rfl
    have asked := (ready_of_start started).of_query queried
    obtain ⟨heading, announced⟩ := exists_out_announce input metadata q'
    have fresh := asked.fresh_announce input metadata
    obtain ⟨s, looped, rfl⟩ := Pool.runWorker_of_alone fresh.opened fresh.halted alone
      (announce input metadata q').settings.workers_pos ran
    have closes := Pool.closes_runWorker (t := ⟨0, input.children⟩) fresh.opened fresh.halted looped
    obtain ⟨before, out⟩ := closes.2.2 alone
    refine ⟨heading ++ before, ?_⟩
    rw [Pool.host_stop, out, announced, asked.out]
    simp only [String.append_assoc]

theorem isInfix_append {part text : String} (within : part.toList <:+: text.toList)
    (before after : String) : part.toList <:+: (before ++ (text ++ after)).toList := by
  simp only [String.toList_append]
  exact within.trans ((List.prefix_append _ _).isInfix.trans (List.suffix_append _ _).isInfix)

/-- A cause behind a label is in a summary that gives both as the reason. -/
theorem isInfix_summary {label cause reason summary : String} {duration : Double}
    {stats events : List (String × Json)} (given : reason = label ++ cause) (single : OneLine label)
    (settled : Settled (lines cause.toList).tail)
    (rendered : Summary.render reason duration stats events = .ok summary) :
    cause.toList <:+: summary.toList := by
  obtain ⟨first, _, shape⟩ := lines_append_of_oneLine single cause.toList
  have settled' : Settled (lines reason.toList).tail := by
    rw [given, String.toList_append, shape]
    exact settled
  have whole := Summary.isInfix_render settled' rendered
  rw [given, String.toList_append] at whole
  exact (List.suffix_append _ _).isInfix.trans whole

theorem not_runs_unbuilt {f : Failure} : ¬ Runs input p (.unbuilt f) q := by
  intro runs
  generalize same : Course.unbuilt f = course at runs
  cases runs with
  | interrupted => cases same
  | unqueried => cases same
  | @ended _ flow => cases flow <;> cases same

/-- What a session with a log prints of the cause of its failure. -/
theorem explains_of_returns (shares : h.shared = settings.logFile.isSome)
    (logs : settings.logFile.isSome = true) (returns : Returns input settings h course host calls)
    (out : host.out = h.out ++ told) : Explains input.children told course := by
  cases returns with
  | @unbuilt f h' started =>
    have after := start_snd settings (Pool.sourcesFor settings input.ownSeed) h
    rw [started] at after
    cases after
    exact (String.append_right_inj h.out).mp (out.symm.trans String.append_empty.symm)
  | @summed p q _ _ summary started runs rendered =>
    obtain ⟨opening, _, printed, shares'⟩ := exists_opens started shares runs
    have whole : told = opening ++ (summary ++ "\n") := by
      refine (String.append_right_inj h.out).mp (out.symm.trans ?_)
      rw [out_printErr shares', printed, aside, if_pos logs, String.append_assoc]
    cases course with
    | unbuilt f => exact absurd runs not_runs_unbuilt
    | unqueried f =>
      intro settled
      have given : Course.reason (.unqueried f) = "Error: " ++ f.message := rfl
      rw [whole]
      exact isInfix_append (isInfix_summary given (by decide) settled rendered) _ _
    | interrupted => trivial
    | halted line verdict case =>
      rintro (alone | settled)
      · obtain ⟨before, printed'⟩ := exists_out_of_runs started alone runs rfl
        have ended : opening = before ++ ("\n" ++ (line ++ "\n")) := by
          refine (String.append_right_inj h.out).mp ((printed.symm.trans printed').trans ?_)
          simp only [String.append_assoc]
        have within := isInfix_append (List.infix_rfl (l := line.toList)) (before ++ "\n")
          ("\n" ++ (summary ++ "\n"))
        rw [whole, ended]
        simpa only [String.append_assoc] using within
      · have given : Course.reason (.halted line verdict case) = "Halted: " ++ line := rfl
        rw [whole]
        exact isInfix_append (isInfix_summary given (by decide) settled rendered) _ _
    | failed f =>
      have given : Course.reason (.failed f) = "Halted: " ++ f.shown := rfl
      have settled : Settled (lines f.shown.toList).tail := by
        rw [lines_of_oneLine f.oneLine_shown]
        exact settled_nil
      show f.shown.toList <:+: told.toList
      rw [whole]
      exact isInfix_append (isInfix_summary given (by decide) settled rendered) _ _
    | completed => trivial

/-- What the log of a session that fails says of the cause. For every command line with a log file
that opens, with any number of workers that run one after the other, whatever the files, the
versions and the children are like: when the session returns one, it has taken one of four courses,
and the log holds the failure of the worker, the last report, or the message of the failure that the
collection of the metadata has ended with, but nothing at all if the pool could not be made. The
path of the log must not lead to the event log or to a file that a child has been started on. -/
theorem explains_run (plain : h.transcript = none)
    (begun : begin? input.argv h = some (settings, host)) (log : settings.logFile = some path)
    (apart : Apart settings path (run input h).calls (run input h).host.files)
    (returned : (run input h).ending = .status 1) :
    ∃ course told, course? input settings host = some course ∧ course.status = 1 ∧
      LogHolds path told (run input h).host.files ∧ Explains input.children told course := by
  rw [run_of_begin begun] at returned apart ⊢
  obtain ⟨course, host', calls, returns, takes, status, concluded⟩ := exists_returns returned
  rw [concluded] at apart ⊢
  have files : (conclude settings course.status host' calls).host.files = host'.files :=
    files_finish settings host'
  rw [files] at apart ⊢
  obtain ⟨l, place, mirrors⟩ := mirrors_of_begin plain begun log
  obtain ⟨⟨told, out, held, _⟩, place'⟩ := logHolds_of_returns place mirrors returns apart
  rw [← out_of_begin plain begun] at out
  refine ⟨course, told, takes, status.symm, ⟨l, place', held⟩, ?_⟩
  exact explains_of_returns (shares_of_begin plain begun) (by rw [log]; rfl) returns out

/-- A session with a log file whose version queries are not even begun. -/
def refusedInput : SessionInput :=
  { crashingInput with versions := fun _ => .failed nullFailure }

/-- Its log holds the message of that failure. -/
theorem explains_refused_query :
    ∃ settings host told, begin? refusedInput.argv emptyHost = some (settings, host) ∧
      course? refusedInput settings host = some (.unqueried nullFailure) ∧
      LogHolds (.ofText "/log") told (run refusedInput emptyHost).host.files ∧
      "embedded null byte".toList <:+: told.toList := by
  obtain ⟨settings, host, p, h', begun, log, noEvents, started⟩ : ∃ settings host p h',
      begin? refusedInput.argv emptyHost = some (settings, host) ∧
        settings.logFile = some (.ofText "/log") ∧ settings.healthLog = none ∧
        Pool.start settings false (Pool.sourcesFor settings refusedInput.ownSeed) host =
          (.ok p, h') :=
    ⟨_, _, _, _, rfl, by decide, by decide, rfl⟩
  have queried : (query refusedInput p).1 = .error nullFailure := rfl
  obtain ⟨returned, calls⟩ := run_of_unqueried begun started queried
  obtain ⟨course, told, takes, _, held, explained⟩ := explains_run rfl begun log
    (fun l _ => ⟨fun log given => (by rw [noEvents] at given; cases given),
      fun call member => (by rw [calls] at member; cases member)⟩) returned
  have unqueried : course? refusedInput settings host = some (.unqueried nullFailure) := by
    unfold course?
    rw [started]
    rfl
  rw [unqueried] at takes
  cases takes
  exact ⟨settings, host, told, begun, unqueried, held, explained settled_nil⟩

/-- A session whose scratch directory is asked for in the place of a file. -/
def occupiedInput : SessionInput where
  argv := ["--workers", "1", "--seed", "7", "--scratch-dir", "/sbx/s", "--log-file", "/sbx/run.log"]
  facts := ⟨"h", "p", 1, "r", "/sbx", none, none, 0⟩
  versions := fun _ => .exited 0 "1.0" ""
  children := .exiting 1 1
  ownSeed := fun worker => worker
  duration := 0
  fuel := 1

/-- A host with a file in that place. -/
def occupiedHost : Host :=
  { files := ⟨[(["s", "sbx"], .file "x"), (["sbx"], .directory)], ["sbx"]⟩, time := "" }

/-- The session fails, and its log says nothing. -/
theorem unexplained_occupied_scratch :
    ∃ settings host f, begin? occupiedInput.argv occupiedHost = some (settings, host) ∧
      course? occupiedInput settings host = some (.unbuilt f) ∧
      f.message = "[Errno 17] File exists: '/sbx/s'" ∧
      (run occupiedInput occupiedHost).ending = .status 1 ∧
      Apart settings (.ofText "/sbx/run.log") (run occupiedInput occupiedHost).calls
        (run occupiedInput occupiedHost).host.files ∧
      LogHolds (.ofText "/sbx/run.log") "" (run occupiedInput occupiedHost).host.files ∧
      ¬ f.message.toList <:+: "".toList := by
  obtain ⟨settings, host, begun, scratch, noEvents, files⟩ : ∃ settings host,
      begin? occupiedInput.argv occupiedHost = some (settings, host) ∧
        settings.execution.scratchDir = .ofText "/sbx/s" ∧ settings.healthLog = none ∧
        host.files = occupiedHost.files.put ["run.log", "sbx"] (.file "") :=
    ⟨_, _, rfl, by decide, by decide, by decide⟩
  have unmade : makeDirectory true (.ofText "/sbx/s")
      (occupiedHost.files.put ["run.log", "sbx"] (.file "")) =
        (.error (SystemError.exists.failure (.ofText "/sbx/s")),
          occupiedHost.files.put ["run.log", "sbx"] (.file "")) := rfl
  have started : Pool.start settings false (Pool.sourcesFor settings occupiedInput.ownSeed) host =
      (.error (SystemError.exists.failure (.ofText "/sbx/s")), host) := by
    unfold Pool.start
    rw [scratch, files, unmade]
    dsimp only
    rw [← files]
  have ended := (run_of_begin begun).trans (runSettings_of_unbuilt started)
  have takes : course? occupiedInput settings host =
      some (.unbuilt (SystemError.exists.failure (.ofText "/sbx/s"))) := by
    unfold course?
    rw [started]
  have kept : (conclude settings 1
      (tellFailure (SystemError.exists.failure (.ofText "/sbx/s")) host) []).host.files =
        occupiedHost.files.put ["run.log", "sbx"] (.file "") :=
    (files_finish settings _).trans files
  rw [ended]
  refine ⟨settings, host, _, begun, takes, by decide, rfl, fun l _ => ⟨fun log given => ?_,
    fun call member => ?_⟩, ⟨["run.log", "sbx"], ?_⟩, by decide⟩
  · rw [noEvents] at given
    cases given
  · cases member
  · rw [kept]
    exact ⟨rfl, rfl⟩

end Session

end CrashDiff
