import CrashDiff.Proofs.Files.Ways
import CrashDiff.Proofs.Run.ExitStatus
import CrashDiff.Proofs.Run.Mirror
import CrashDiff.Proofs.Run.Sections

/-!
# The full log of a session

A session with a log file mirrors its output in it, from the time when the streams are shared to the
time when they are restored. Whatever course the session takes, the closed log then holds the text
that it has put on the output stream, and nothing of what was there before. Without a log file the
output stream gets the progress stream only.

Results:
1. `performAll_of_runAll`: a run of all workers as steps.
2. `exists_prints`: what a session puts on the output stream on each course.
3. `mirrored_run`: the log, the output stream and the restored streams.
-/

namespace CrashDiff

open FileSystem Happening

/-! ## All workers as steps -/

theorem Step.performAll_append {σ : Type} [DrawSource σ] {steps more : List Step} {p q : Pool σ}
    (first : performAll steps p = some q) :
    performAll (steps ++ more) p = performAll more q := by
  induction steps generalizing p with
  | nil =>
    cases first
    rfl
  | cons s steps ih =>
    rw [performAll] at first
    rw [List.cons_append, performAll]
    cases next : s.perform p with
    | none =>
      rw [next] at first
      cases first
    | some r =>
      rw [next] at first
      exact ih first

namespace Pool

variable {σ : Type} [DrawSource σ] {p q : Pool σ} {children : Children} {fuel worker count : Nat}
  {flow : Flow} {t : Turn}

/-- A loop that comes to an end leaves the run halted. -/
theorem halted_of_runWorker (ran : p.runWorker t.children t.worker fuel = some (.ok flow, q)) :
    q.halted = true := by
  rcases exists_last_call (motive := fun _ => True) trivial (fun _ _ _ _ _ => trivial) ran with
    ⟨_, _, halted⟩ | ⟨i, _, _, _, ⟨halts, answer, rfl⟩ | ⟨f, _, gaveUp⟩⟩
  · exact halted
  · obtain ⟨answer', q, outcome, ends⟩ := exists_ends i.turn.children i.turn.worker i.before
    have after : i.after = q := congrArg Prod.snd outcome
    have same : i.answer = answer' := congrArg Prod.fst outcome
    rw [answer] at same
    subst same
    rw [after]
    cases ends with
    | discarded => cases halts
    | reported => cases halts
    | halted => rfl
  · have halted := (halted_giveUp t.worker f i.after).1
    rw [gaveUp] at halted
    have accepts : i.after.events.accepts = true := by
      cases taken : i.after.events.accepts with
      | true => rfl
      | false =>
        rw [giveUp_of_refuses taken] at gaveUp
        cases gaveUp
    rw [halted, accepts, Bool.or_true]

/-- Workers do nothing once the run has been halted. -/
theorem performAll_of_halted (halted : p.halted = true) (workers : List Nat) :
    Step.performAll (workers.map fun w => .run ⟨w, children⟩ (fuel + 1)) p = some p := by
  induction workers with
  | nil => rfl
  | cons w workers ih =>
    have idle : (Step.run ⟨w, children⟩ (fuel + 1)).perform p = some p := by
      simp [Step.perform, runWorker, halted]
    rw [List.map_cons, Step.performAll, idle]
    exact ih

theorem performAll_of_runFrom
    (ran : p.runFrom children fuel worker count = some (.ok flow, q)) :
    Step.performAll ((List.range' worker count).map fun w => .run ⟨w, children⟩ fuel) p =
      some q := by
  induction count generalizing p worker with
  | zero =>
    cases ran
    rfl
  | succ count ih =>
    rw [runFrom] at ran
    cases looped : p.runWorker children worker fuel with
    | none =>
      rw [looped] at ran
      cases ran
    | some result =>
      obtain ⟨answer, r⟩ := result
      have step : (Step.run ⟨worker, children⟩ fuel).perform p = some r := by
        simp [Step.perform, looped]
      rw [List.range'_succ, List.map_cons, Step.performAll, step]
      rw [looped] at ran
      cases answer with
      | error f => cases ran
      | ok flow' =>
        dsimp only at ran ⊢
        split at ran
        · cases ran
          -- The other workers find the run halted.
          have halted := halted_of_runWorker (t := ⟨worker, children⟩) looped
          obtain ⟨fuel, rfl⟩ : ∃ n, fuel = n + 1 := by
            cases fuel with
            | zero => cases looped
            | succ n => exact ⟨n, rfl⟩
          exact performAll_of_halted halted _
        · exact ih ran

/-- A run of all workers is made of the runs of the workers in turn, and a stop. -/
theorem performAll_of_runAll (ran : p.runAll children fuel = some (.ok flow, q)) :
    Step.performAll (((List.range p.settings.workers).map fun w => .run ⟨w, children⟩ fuel) ++
      [.stop]) p = some q := by
  obtain ⟨⟨answer, r⟩, ended, same⟩ := Option.map_eq_some_iff.mp ran
  cases same
  rw [List.range_eq_range', Step.performAll_append (performAll_of_runFrom ended)]
  rfl

end Pool

/-! ## The log -/

/-- A transcript that has been set up is at the begin of an empty file. -/
theorem Transcript.start_eq_ok {path : Path} {fs fs' : FileSystem} {t : Transcript}
    (started : start path fs = (.ok t, fs')) :
    ∃ l, t = ⟨some l, 0, false⟩ ∧ fs'.IsPlace path l ∧ fs'.contents? l = some "" := by
  unfold start create at started
  cases null : hasNull path with
  | true =>
    rw [null] at started
    cases started
  | false =>
    cases located : fs.locateFile path with
    | error e =>
      rw [null, located] at started
      cases started
    | ok l =>
      rw [null, located] at started
      cases started
      obtain ⟨place, other⟩ := locateFile_eq_ok.mp located
      exact ⟨l, rfl, (SameTree.put_file other "").isPlace place,
        contents?_eq_some.mpr (lookup_put_self (ne_nil_of_not_directory other))⟩

namespace Session

variable {input : SessionInput} {settings : RunSettings} {h h' host : Host} {p q : Pool Twister}
  {course : Course} {calls : List Call} {l : Location} {base : String} {path : Path} {code : Nat}

/-! ## What is printed -/

/-- What is told beside the progress stream. It gets to the output stream if there is a log. -/
def aside (settings : RunSettings) (text : String) : String :=
  if settings.logFile.isSome then text else ""

/-- The runs of all workers in turn, and the stop of the run. -/
def steps (input : SessionInput) (settings : RunSettings) : List Step :=
  ((List.range settings.workers).map fun w => .run ⟨w, input.children⟩ input.fuel) ++ [.stop]

/-- What happens in a session, as far as the progress stream may tell of it. -/
def happenings (input : SessionInput) (settings : RunSettings) (h : Host) : List Happening :=
  match Pool.start settings false (Pool.sourcesFor settings input.ownSeed) h with
  | (.error _, _) => []
  | (.ok p, _) =>
    match query input p with
    | (.error _, _) => []
    | (.ok metadata, q) => Step.happeningsOfAll (steps input settings) (announce input metadata q)

/-- What a session with a pool puts on the output stream before its summary.

* `ended`: the header, the announcement of the workers, and what happens while they run; the traces
  of failures are shown behind their reports if there is a log. -/
inductive Opens (input : SessionInput) (settings : RunSettings) (h : Host) : Course → String → Prop
  | unqueried (f : Failure) : Opens input settings h (.unqueried f) ""
  | interrupted :
      Opens input settings h .interrupted (aside settings "\n[!] Fuzzing stopped by user.\n")
  | ended {course : Course} {metadata : Json} {messages : List Message} {header : String}
      (flow : Flow) : course = .ofFlow flow →
      Metadata.collect settings input.facts input.versions = (.ok metadata, messages) →
      Header.render (commandWords input.argv) settings.logFile metadata = .ok header →
      Opens input settings h course
        (aside settings (header ++ "\n" ++ (startingText settings.workers ++ "\n")) ++
          shown settings.logFile.isSome false (happenings input settings h))

/-- What a session puts on the output stream on a course. -/
inductive Prints (input : SessionInput) (settings : RunSettings) (h : Host) :
    Course → String → Prop
  | unbuilt {f : Failure} {h' : Host} :
      Pool.start settings false (Pool.sourcesFor settings input.ownSeed) h = (.error f, h') →
      Prints input settings h (.unbuilt f) ""
  | summed {p q : Pool Twister} {h' : Host} {course : Course} {opening summary : String} :
      Pool.start settings false (Pool.sourcesFor settings input.ownSeed) h = (.ok p, h') →
      Runs input p course q → Opens input settings h course opening →
      Summary.render course.reason (seconds input.duration) q.stats.fields
        (EventCounts.fields q.events.counts) = .ok summary →
      Prints input settings h course (opening ++ aside settings (summary ++ "\n"))

theorem out_printErr (shares : h.shared = settings.logFile.isSome) (line : String) :
    (h.printErr line).out = h.out ++ aside settings (line ++ "\n") := by
  rw [Host.out_printErr, shares, aside]

theorem aside_append (settings : RunSettings) (text more : String) :
    aside settings text ++ aside settings more = aside settings (text ++ more) := by
  unfold aside
  split
  · rfl
  · exact String.append_empty

/-- What is announced before the workers run. -/
theorem out_announce {metadata : Json} {header : String}
    (rendered : Header.render (commandWords input.argv) p.settings.logFile metadata = .ok header)
    (shares : p.host.shared = p.settings.logFile.isSome) :
    (announce input metadata p).host.out = p.host.out ++
      aside p.settings (header ++ "\n" ++ (startingText p.settings.workers ++ "\n")) := by
  unfold announce
  rw [rendered]
  show ((p.host.printErr header).printErr (startingText p.settings.workers)).out = _
  rw [out_printErr ((Host.shared_printErr _ _).trans shares), out_printErr shares,
    String.append_assoc, aside_append]

/-- What a run of a pool prints before its summary. -/
theorem exists_opens
    (started : Pool.start settings false (Pool.sourcesFor settings input.ownSeed) h = (.ok p, h'))
    (shares : h.shared = settings.logFile.isSome) (runs : Runs input p course q) :
    ∃ opening, Opens input settings h course opening ∧ q.host.out = h.out ++ opening ∧
      q.host.shared = settings.logFile.isSome := by
  have ready := ready_of_start started
  cases runs with
  | @interrupted f q queried interrupt =>
    have asked := ready.of_query queried
    refine ⟨_, .interrupted, ?_, ?_⟩
    · show (q.stop.host.printErr _).out = _
      rw [Pool.host_stop]
      exact (out_printErr (asked.shared.trans shares) _).trans (congrArg (· ++ _) asked.out)
    · show (q.stop.host.printErr _).shared = _
      rw [Pool.host_stop, Host.shared_printErr]
      exact asked.shared.trans shares
  | unqueried queried other =>
    have asked := ready.of_query queried
    exact ⟨_, .unqueried _, asked.out.trans String.append_empty.symm, asked.shared.trans shares⟩
  | @ended metadata flow q' _ queried ran =>
    have asked := ready.of_query queried
    have happened : happenings input settings h =
        Step.happeningsOfAll (steps input settings) (announce input metadata q') := by
      unfold happenings
      rw [started]
      dsimp only
      rw [queried]
    have answered : (query input p).1 = .ok metadata := congrArg Prod.fst queried
    have collected : Metadata.collect settings input.facts input.versions =
        (.ok metadata, (Metadata.collect settings input.facts input.versions).2) :=
      Prod.ext (ready.fresh.settings ▸ answered) rfl
    obtain ⟨header, rendered⟩ := Header.render_of_collect collected (commandWords input.argv)
      settings.logFile
    have given : q'.settings = settings := asked.fresh.settings
    have fresh := asked.fresh_announce input metadata
    have announced := out_announce (given.symm ▸ rendered) (given.symm ▸ asked.shared.trans shares)
    have shared := (asked.shared_announce input metadata).trans shares
    have performed : Step.performAll (steps input settings) (announce input metadata q') =
        some q := by
      have ended := Pool.performAll_of_runAll ran
      rwa [fresh.settings] at ended
    have tells := Pool.tells_performAll performed
    refine ⟨_, .ended flow rfl collected rendered, ?_, tells.shared.trans shared⟩
    rw [tells.out, shared, fresh.opened, announced, happened, given, asked.out,
      String.append_assoc]

/-- A session that makes its pool makes directories, or fails to. -/
theorem start_snd (settings : RunSettings) (sources : Nat → Twister) (h : Host) :
    (Pool.start settings false sources h).2 = { h with
      files := (makeDirectory true settings.execution.scratchDir h.files).2 } := by
  unfold Pool.start
  split <;> simp [*]

/-- What a session prints before it closes its transcript. -/
theorem exists_prints (shares : h.shared = settings.logFile.isSome)
    (returns : Returns input settings h course host calls) :
    ∃ told, Prints input settings h course told ∧ host.out = h.out ++ told ∧
      host.shared = settings.logFile.isSome := by
  cases returns with
  | @unbuilt f h' started =>
    have same : h'.out = h.out ∧ h'.shared = h.shared := by
      have after := start_snd settings (Pool.sourcesFor settings input.ownSeed) h
      rw [started] at after
      cases after
      exact ⟨rfl, rfl⟩
    exact ⟨"", .unbuilt started, same.1.trans String.append_empty.symm, same.2.trans shares⟩
  | summed started runs rendered =>
    obtain ⟨opening, opens, out, shares'⟩ := exists_opens started shares runs
    refine ⟨_, .summed started runs opens rendered, ?_, (Host.shared_printErr _ _).trans shares'⟩
    rw [out_printErr shares', out, String.append_assoc]

/-- Nothing happens in a pool whose metadata cannot be collected. -/
theorem happenings_of_unqueried {f : Failure}
    (started : Pool.start settings false (Pool.sourcesFor settings input.ownSeed) h = (.ok p, h'))
    (queried : query input p = (.error f, q)) : happenings input settings h = [] := by
  unfold happenings
  rw [started]
  dsimp only
  rw [queried]

/-- Without a log, a session prints the story of the progress stream. -/
theorem Prints.eq_story {told : String} (none : settings.logFile = none)
    (prints : Prints input settings h course told) :
    told = textOf (Happening.told (happenings input settings h)) := by
  have silent (text : String) : aside settings text = "" := by rw [aside, none]; rfl
  cases prints with
  | unbuilt started =>
    unfold happenings
    rw [started]
    rfl
  | summed started runs opens _ =>
    rw [silent, String.append_empty]
    cases runs with
    | interrupted queried _ =>
      rw [happenings_of_unqueried started queried]
      cases opens with
      | interrupted => exact silent _
      | ended flow same => cases flow <;> cases same
    | unqueried queried _ =>
      rw [happenings_of_unqueried started queried]
      cases opens with
      | unqueried => rfl
      | ended flow same => cases flow <;> cases same
    | @ended _ flow _ _ _ _ =>
      have story : shown settings.logFile.isSome false (happenings input settings h) =
          textOf (Happening.told (happenings input settings h)) := by
        rw [none]
        exact shown_unshared false _
      cases flow <;> cases opens <;> rw [silent, String.empty_append, story]

/-! ## The log during a session -/

/-- A path leads to a file with the text. -/
def LogHolds (path : Path) (text : String) (fs : FileSystem) : Prop :=
  ∃ l, fs.IsPlace path l ∧ fs.contents? l = some text

/-- The path leads neither to the event log of a session nor to a file that it has started a child
on. -/
def Apart (settings : RunSettings) (path : Path) (calls : List Call) (fs : FileSystem) : Prop :=
  ∀ l, fs.IsPlace path l →
    (∀ log ∈ settings.healthLog, ¬ fs.IsPlace log l) ∧ ∀ call ∈ calls, ¬ call.StartsOn fs l

theorem out_of_begin (plain : h.transcript = none)
    (begun : begin? input.argv h = some (settings, host)) : host.out = h.out := by
  obtain ⟨arguments, _, _, opened⟩ := arguments_of_begin begun
  unfold openTranscript at opened
  split at opened
  · cases opened
    rfl
  · dsimp only at opened
    split at opened
    · cases opened
    · cases opened
      simp [Host.out_printErr, Host.shared, plain]

/-- From its begin on, a session mirrors its output at the place of the log file. -/
theorem mirrors_of_begin (plain : h.transcript = none)
    (begun : begin? input.argv h = some (settings, host)) (log : settings.logFile = some path) :
    ∃ l, host.files.IsPlace path l ∧ host.Mirrors l h.out := by
  have out := out_of_begin plain begun
  obtain ⟨arguments, _, _, opened⟩ := arguments_of_begin begun
  unfold openTranscript at opened
  rw [log] at opened
  dsimp only at opened
  split at opened
  · cases opened
  · rename_i t files started
    cases opened
    obtain ⟨l, rfl, place, empty⟩ := Transcript.start_eq_ok started
    exact ⟨l, place, "", out.trans String.append_empty.symm, empty, rfl⟩

theorem follows_writeErr (text : String) (sound : p.Sound) :
    Pool.Follows l base p (withHost (fun h => h.writeErr text) p) :=
  .of_idle ((Pool.confined_writeErr text sound).mono fun _ _ => trivial) rfl
    fun _ mirrors => mirrors.writeErr text

theorem follows_printErr (line : String) (sound : p.Sound) :
    Pool.Follows l base p (withHost (fun h => h.printErr line) p) := by
  have first : Pool.Follows l base p (withHost (fun h => h.writeErr line) p) :=
    follows_writeErr line sound
  exact first.trans (follows_writeErr "\n" (first.confined.sound sound))

theorem follows_of_query {answer : Except Failure Json} (queried : query input p = (answer, q)) :
    Pool.Follows l base p q := by
  obtain ⟨messages, rfl⟩ := eq_of_query queried
  have files := files_logAll messages p.host
  exact .of_idle (.of_eq rfl rfl rfl files (transcript_logAll messages p.host)) rfl
    fun _ mirrors => mirrors.of_spared (out_logAll messages p.host) (congrArg (·.lookup l) files)
      (transcript_logAll messages p.host)

/-- A run of a pool keeps up the mirror on each course. -/
theorem follows_of_runs (sound : p.Sound) (runs : Runs input p course q) :
    Pool.Follows l base p q := by
  cases runs with
  | @interrupted f q queried _ =>
    have stopped : Pool.Follows l base p q.stop :=
      (follows_of_query queried).trans (Pool.follows_stop q)
    exact stopped.trans (follows_printErr _ (stopped.confined.sound sound))
  | unqueried queried _ =>
    exact (follows_of_query queried).trans (.of_idle (.of_eq rfl rfl rfl rfl rfl) rfl
      fun _ mirrors => mirrors.of_spared rfl rfl rfl)
  | @ended metadata flow q _ queried ran =>
    have asked : Pool.Follows l base p q := follows_of_query queried
    have headed := asked.trans (follows_printErr
      ((Header.render (commandWords input.argv) q.settings.logFile metadata).toOption.getD "")
      (asked.confined.sound sound))
    have announced : Pool.Follows l base p (announce input metadata q) :=
      headed.trans (follows_printErr _ (headed.confined.sound sound))
    exact announced.trans (Pool.follows_performAll (announced.confined.sound sound)
      (Pool.performAll_of_runAll ran))

theorem mirrors_of_start (settings : RunSettings) (sources : Nat → Twister)
    (mirrors : h.Mirrors l base) :
    (Pool.start settings false sources h).2.Mirrors l base ∧
      ∀ path, h.files.IsPlace path l →
        (Pool.start settings false sources h).2.files.IsPlace path l := by
  have grows := grows_makeDirectory true settings.execution.scratchDir h.files
  have stays := workingDirectory_makeDirectory true settings.execution.scratchDir h.files
  rw [start_snd]
  refine ⟨mirrors.of_spared rfl ?_ rfl, fun path place => grows.isPlace stays place⟩
  rcases grows l with same | ⟨absent, _⟩
  · exact same
  · obtain ⟨text, _, file, _⟩ := mirrors
    rw [contents?_eq_some.mp file] at absent
    cases absent

theorem files_finish (settings : RunSettings) (h : Host) :
    (finish settings h).1.files = h.files := by
  unfold finish
  split <;> rfl

theorem transcript_finish (shares : h.shared = settings.logFile.isSome) :
    (finish settings h).1.transcript = none := by
  unfold finish
  cases log : settings.logFile with
  | none =>
    rw [log] at shares
    exact Option.isNone_iff_eq_none.mp (by simpa [Host.shared] using shares)
  | some path => rfl

/-- The log holds what has been printed, if the session has put nothing else in its place. -/
theorem logHolds_of_returns {path : Path} (place : h.files.IsPlace path l)
    (mirrors : h.Mirrors l base) (returns : Returns input settings h course host calls)
    (apart : Apart settings path calls host.files) :
    host.Mirrors l base ∧ host.files.IsPlace path l := by
  cases returns with
  | unbuilt started =>
    have made := mirrors_of_start settings (Pool.sourcesFor settings input.ownSeed) mirrors
    rw [started] at made
    exact ⟨made.1.of_spared rfl rfl rfl, made.2 path place⟩
  | @summed p q _ _ summary started runs _ =>
    have fresh := Pool.fresh_of_start started
    obtain ⟨mirrors', place'⟩ : p.host.Mirrors l base ∧ p.host.files.IsPlace path l := by
      have made := mirrors_of_start settings (Pool.sourcesFor settings input.ownSeed) mirrors
      rw [started] at made
      obtain ⟨files, _, rfl, rfl⟩ := Pool.start_cases started
      exact ⟨made.1, made.2 path place⟩
    have sound := Pool.sound_of_mirrors mirrors'
    have ran : Pool.Follows l base p q := follows_of_runs sound runs
    have told : Pool.Follows l base p (withHost (fun h => h.printErr summary) q) :=
      ran.trans (follows_printErr summary (ran.confined.sound sound))
    have place'' := told.confined.isPlace_iff.mpr place'
    refine ⟨told.mirrors ?_ mirrors', place''⟩
    obtain ⟨notRecorded, notStaged⟩ := apart l place''
    rintro (⟨log, given, there⟩ | ⟨call, member, starts⟩)
    · rw [told.confined.logPath, fresh.events] at given
      exact notRecorded log given there
    · exact notStaged call member starts

/-- The log of a session, and what it leaves on the output stream. For every command line that asks
for a run, with any number of workers that run one after the other, whatever the versions and the
children do: when the session returns, both standard streams are as they were before.

* The output stream got what the course of the session prints.
* With a log file, the log is closed, and its content is what the output stream got. The path of the
  log must not lead to the event log or to a file that a child has been started on.
* Without a log file, the output stream got the story that the progress stream tells. -/
theorem mirrored_run (plain : h.transcript = none)
    (begun : begin? input.argv h = some (settings, host))
    (apart : ∀ path ∈ settings.logFile,
      Apart settings path (run input h).calls (run input h).host.files)
    (returned : (run input h).ending = .status code) :
    (run input h).host.transcript = none ∧
      ∃ course told, course? input settings host = some course ∧
        Prints input settings host course told ∧ (run input h).host.out = h.out ++ told ∧
        match settings.logFile with
        | none => (run input h).log = none ∧
            told = textOf (Happening.told (happenings input settings host))
        | some path => ∃ t, (run input h).log = some t ∧ t.closed = true ∧
            LogHolds path told (run input h).host.files := by
  rw [run_of_begin begun] at returned apart ⊢
  obtain ⟨course, host', calls, returns, takes, _, concluded⟩ := exists_returns returned
  rw [concluded] at apart ⊢
  have shares := shares_of_begin plain begun
  obtain ⟨told, prints, out, shares'⟩ := exists_prints shares returns
  rw [out_of_begin plain begun] at out
  refine ⟨transcript_finish shares', course, told, takes, prints, ?_, ?_⟩
  · exact (finish_out settings host').trans out
  · cases log : settings.logFile with
    | none =>
      refine ⟨?_, prints.eq_story log⟩
      show (finish settings host').2 = none
      rw [finish, log]
    | some path =>
      obtain ⟨l, place, mirrors⟩ := mirrors_of_begin plain begun log
      have apart' := apart path log
      have files : (conclude settings course.status host' calls).host.files = host'.files :=
        files_finish settings host'
      rw [files] at apart'
      obtain ⟨⟨text, out', held, transcript⟩, place'⟩ :=
        logHolds_of_returns place mirrors returns apart'
      have same : text = told := (String.append_right_inj h.out).mp (out'.symm.trans out)
      refine ⟨⟨some l, text.utf8ByteSize, true⟩, ?_, rfl, l, ?_⟩
      · show (finish settings host').2 = _
        rw [finish, log, transcript]
        rfl
      · rw [files]
        exact ⟨place', same ▸ held⟩

/-- A session whose metadata cannot be collected returns, and has started no child. -/
theorem run_of_unqueried {f : Failure}
    (begun : begin? input.argv h = some (settings, host))
    (started : Pool.start settings false (Pool.sourcesFor settings input.ownSeed) host =
      (.ok p, h')) (queried : (query input p).1 = .error f) :
    (run input h).ending = .status (if f.kind = .interrupt then 0 else 1) ∧
      (run input h).calls = [] := by
  rcases asked : query input p with ⟨answer, q⟩
  rw [asked] at queried
  obtain rfl : answer = .error f := queried
  have ready := (ready_of_start started).of_query asked
  obtain ⟨course, r, runs, status, stats, calls⟩ : ∃ course r, Runs input p course r ∧
      course.status = (if f.kind = .interrupt then 0 else 1) ∧ r.stats = {} ∧ r.calls = [] := by
    by_cases interrupt : f.kind = .interrupt
    · exact ⟨_, _, .interrupted asked interrupt, (if_pos interrupt).symm, ready.fresh.stats,
        ready.calls⟩
    · exact ⟨_, _, .unqueried asked interrupt, (if_neg interrupt).symm, ready.fresh.stats,
        ready.calls⟩
  obtain ⟨perSecond, rated⟩ : ∃ perSecond, Summary.rate (Summary.executed r.stats.fields)
      (seconds input.duration) = .ok perSecond := by
    rw [stats]
    unfold Summary.rate
    split <;> exact ⟨_, rfl⟩
  obtain ⟨summary, rendered⟩ := Summary.exists_render rated _ _
  rw [run_of_begin begun, runSettings_of_runs started runs rendered, ← status]
  exact ⟨rfl, calls⟩

end Session

end CrashDiff
