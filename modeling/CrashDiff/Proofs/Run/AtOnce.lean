import CrashDiff.Proofs.Run.ExitStatus
import CrashDiff.Proofs.Run.Latecomers
import CrashDiff.Proofs.Run.Spoken

/-!
# Sessions with workers at once

A session with a log file mirrors its output in it up to the closing of the log, in whatever order
its threads move. The main thread does not wait for workers that are in a call when the run is
halted, so pieces of their traces may reach the output stream later; the log does not have those.

Results:
1. `opened_of_threads`: what a session has printed when it starts its workers.
2. `unlogged_of_ended`, `logged_of_ended`: what its threads leave when the main thread has returned.
3. `exists_late_end`: a session with a trace that comes late.
4. `mirrored_runAtOnce`: the log, the output stream and the restored streams.
-/

namespace CrashDiff

open FileSystem

namespace Session

variable {input : SessionInput} {schedule : List Mover} {settings : RunSettings}
  {h h' host : Host} {p q : Pool Twister} {l : Location} {base : String} {path : Path} {code : Nat}

/-! ## The start of the workers -/

/-- The text in front of a run: the header, and the announcement of the workers. -/
def Heads (input : SessionInput) (settings : RunSettings) (opening : String) : Prop :=
  ∃ metadata messages header,
    Metadata.collect settings input.facts input.versions = (.ok metadata, messages) ∧
      Header.render (commandWords input.argv) settings.logFile metadata = .ok header ∧
      opening = header ++ "\n" ++ (startingText settings.workers ++ "\n")

/-- A pool whose workers are about to be started, in a session that has had the host `h`. -/
structure Opened (input : SessionInput) (given : RunSettings) (h : Host) (opening : String)
    (p : Pool Twister) : Prop where
  settings : p.settings = given
  counter : p.counter = {}
  logPath : p.events.path = given.healthLog
  heads : Heads input given opening
  out : p.host.out = h.out ++ aside given opening
  shared : p.host.shared = given.logFile.isSome
  mirrors : ∀ l base, h.Mirrors l base → p.host.Mirrors l base ∧
    ∀ path, h.files.IsPlace path l → p.host.files.IsPlace path l

theorem mirrors_of_query {answer : Except Failure Json} (queried : query input p = (answer, q))
    (mirrors : p.host.Mirrors l base) : q.host.Mirrors l base ∧ q.host.files = p.host.files := by
  obtain ⟨messages, rfl⟩ := eq_of_query queried
  have files := files_logAll messages p.host
  exact ⟨mirrors.of_spared (out_logAll messages p.host) (congrArg (·.lookup l) files)
    (transcript_logAll messages p.host), files⟩

theorem mirrors_announce (input : SessionInput) (metadata : Json)
    (mirrors : q.host.Mirrors l base) :
    (announce input metadata q).host.Mirrors l base ∧
      ∀ path, q.host.files.IsPlace path l →
        (announce input metadata q).host.files.IsPlace path l := by
  have headed : Pool.Follows l base q _ := follows_printErr
    ((Header.render (commandWords input.argv) q.settings.logFile metadata).toOption.getD "")
    (Pool.sound_of_mirrors mirrors)
  have announced : Pool.Follows l base q (announce input metadata q) :=
    headed.trans (follows_printErr _ (headed.confined.sound (Pool.sound_of_mirrors mirrors)))
  exact ⟨(mirrors.printErr _).printErr _,
    fun path place => announced.confined.isPlace_iff.mpr place⟩

/-- A session that starts workers has printed the header in front of that. -/
theorem opened_of_threads {start : Threads Twister}
    (threads : threads? input settings h = some start)
    (shares : h.shared = settings.logFile.isSome) :
    ∃ p opening, start = .start p ∧ Opened input settings h opening p := by
  unfold threads? at threads
  split at threads
  · cases threads
  · rename_i p h' started
    split at threads
    · cases threads
    · rename_i metadata q queried
      cases threads
      have ready := ready_of_start started
      have asked := ready.of_query queried
      have fresh := asked.fresh_announce input metadata
      have answered : (query input p).1 = .ok metadata := congrArg Prod.fst queried
      have collected : Metadata.collect settings input.facts input.versions =
          (.ok metadata, (Metadata.collect settings input.facts input.versions).2) :=
        Prod.ext (ready.fresh.settings ▸ answered) rfl
      obtain ⟨header, rendered⟩ := Header.render_of_collect collected (commandWords input.argv)
        settings.logFile
      have given : q.settings = settings := asked.fresh.settings
      have announced : (announce input metadata q).host.out = _ :=
        out_announce (given.symm ▸ rendered) (given.symm ▸ asked.shared.trans shares)
      refine ⟨announce input metadata q, _, rfl, fresh.settings, fresh.counter,
        congrArg EventLog.path fresh.events, ⟨metadata, _, header, collected, rendered, rfl⟩, ?_,
        (asked.shared_announce input metadata).trans shares, fun l base mirrors => ?_⟩
      · rw [announced, asked.out, given]
      · have made := mirrors_of_start settings (Pool.sourcesFor settings input.ownSeed) mirrors
        rw [started] at made
        obtain ⟨files, _, rfl, rfl⟩ := Pool.start_cases started
        obtain ⟨mirrors', same⟩ := mirrors_of_query queried made.1
        obtain ⟨mirrors'', places⟩ := mirrors_announce input metadata mirrors'
        exact ⟨mirrors'', fun path place => places path (same ▸ made.2 path place)⟩

/-- A session that starts no workers starts no children. -/
theorem calls_of_no_threads (none : threads? input settings h = none)
    (returned : (runSettings input settings h).ending = .status code) :
    (runSettings input settings h).calls = [] := by
  obtain ⟨course, host', calls, returns, _, _, concluded⟩ := exists_returns returned
  rw [concluded]
  show calls = []
  cases returns with
  | unbuilt started => rfl
  | summed started runs rendered =>
    have ready := ready_of_start started
    unfold threads? at none
    rw [started] at none
    dsimp only at none
    cases runs with
    | interrupted queried _ => exact (ready.of_query queried).calls
    | unqueried queried _ => exact (ready.of_query queried).calls
    | ended queried _ =>
      rw [queried] at none
      cases none

/-! ## The end of the log -/

/-- The path leads neither to the event log nor to the file of one of the cases that have been
drawn, the first `drawn` ones. -/
def Spares (settings : RunSettings) (path : Path) (drawn : Int) (fs : FileSystem) : Prop :=
  ∀ l, fs.IsPlace path l → (∀ log ∈ settings.healthLog, ¬ fs.IsPlace log l) ∧
    ∀ n : Nat, (n : Int) < drawn →
      ¬ fs.IsPlace (settings.execution.scratchDir.child (Source.fileName n)) l

/-- How many cases a session draws. -/
def drawn (input : SessionInput) (schedule : List Mover) (settings : RunSettings) (h : Host) :
    Int :=
  match threads? input settings h with
  | none => 0
  | some start => (start.run input schedule).pool.counter.value

/-- What a session puts on its progress stream. -/
def progress (input : SessionInput) (schedule : List Mover) (settings : RunSettings) (h : Host) :
    String :=
  match threads? input settings h with
  | none => ""
  | some start => Saying.progressOf (start.run input schedule).said

/-- What a session has printed when its log is closed, and what it has printed since then.

* A session that starts no workers has printed what its course prints, and prints nothing more.
* Otherwise the log is closed in a state of the threads. Until then the header has been printed and
  what the threads have said, in order; the last that the main thread has said is the summary. Since
  then nothing has been printed but pieces of traces of workers that had not come to their end. -/
def Closing (input : SessionInput) (schedule : List Mover) (settings : RunSettings) (h : Host)
    (told late : String) : Prop :=
  match threads? input settings h with
  | none => late = "" ∧
      ∃ course, course? input settings h = some course ∧ Prints input settings h course told
  | some start => ∃ early rest later opening c log path, schedule = early ++ rest ∧
      (start.run input early).main = .restoring c log path ∧
      SumsUp input c (Saying.spokenOf (start.run input early).said) ∧
      Heads input settings opening ∧
      told = opening ++ Saying.shownOf (start.run input early).said ∧
      (start.run input schedule).said = (start.run input early).said ++ later ∧
      late = Saying.shownOf later ∧
      ∀ x ∈ later, x.shown ≠ "" →
        ∃ k text, x = .traced k true text ∧ Threads.Lives k (start.run input early)

theorem happenings_of_no_threads (none : threads? input settings h = none) :
    happenings input settings h = [] := by
  unfold threads? at none
  unfold happenings
  rcases started : Pool.start settings false (Pool.sourcesFor settings input.ownSeed) h
    with ⟨answer, h'⟩
  rw [started] at none
  cases answer with
  | error f => rfl
  | ok p =>
    dsimp only at none ⊢
    rcases queried : query input p with ⟨answer, q⟩
    rw [queried] at none
    cases answer with
    | error f => rfl
    | ok metadata => cases none

/-- A session that returns without having started workers. -/
theorem mirrored_of_no_threads (plain : h.transcript = none)
    (begun : begin? input.argv h = some (settings, host))
    (unstarted : threads? input settings host = none)
    (apart : ∀ path ∈ settings.logFile, Spares settings path 0 (run input h).host.files)
    (returned : (run input h).ending = .status code) :
    (run input h).host.transcript = none ∧
      match settings.logFile with
      | none => (run input h).log = none ∧ (run input h).host.out = h.out
      | some path => ∃ told course, course? input settings host = some course ∧
          Prints input settings host course told ∧
          (∃ t, (run input h).log = some t ∧ t.closed = true) ∧
          LogHolds path told (run input h).host.files ∧ (run input h).host.out = h.out ++ told := by
  have calls : (run input h).calls = [] := by
    rw [run_of_begin begun] at returned ⊢
    exact calls_of_no_threads unstarted returned
  obtain ⟨restored, course, told, takes, prints, out, rest⟩ := mirrored_run plain begun
    (fun path given l place => ⟨(apart path given l place).1, fun call member => by
      rw [calls] at member
      cases member⟩) returned
  refine ⟨restored, ?_⟩
  cases log : settings.logFile with
  | none =>
    rw [log] at rest
    obtain ⟨noLog, story⟩ := rest
    rw [happenings_of_no_threads unstarted] at story
    exact ⟨noLog, by rw [out, story]; exact String.append_empty⟩
  | some path =>
    rw [log] at rest
    obtain ⟨t, kept, closed, holds⟩ := rest
    exact ⟨told, course, takes, prints, ⟨t, kept, closed⟩, holds, out⟩

/-- The threads of a session that has begun keep up the invariant. -/
theorem invariant_of_opened {opening : String} (opened : Opened input settings h opening p)
    (sound : p.Sound) (mirrors : settings.logFile.isSome = true → p.host.Mirrors l base)
    (schedule : List Mover) :
    Threads.Invariant l base input (.start p) schedule (Threads.run input schedule (.start p)) := by
  refine Threads.invariant_run (Threads.invariant_start sound ?_ ?_ ?_) schedule
  · rw [opened.counter]
  · rw [opened.settings]
    exact opened.shared
  · rw [opened.settings]
    exact mirrors

/-- Without a log, what reaches the output stream is what the progress stream gets. -/
theorem shownOf_eq_progressOf {said : List Saying} (plain : ∀ x ∈ said, x.shown = x.onProgress) :
    Saying.shownOf said = Saying.progressOf said :=
  congrArg String.join (List.map_congr_left plain)

/-- What the threads of a session without a log leave when the main thread has returned. -/
theorem unlogged_of_ended {opening : String} {log : Option Transcript}
    (opened : Opened input settings h opening p) (unlogged : settings.logFile = none)
    (ended : (Threads.run input schedule (.start p)).main = .ended (.status code) log) :
    (Threads.run input schedule (.start p)).pool.host.transcript = none ∧ log = none ∧
      (Threads.run input schedule (.start p)).pool.host.out =
        h.out ++ Saying.progressOf (Threads.run input schedule (.start p)).said := by
  have unshared : p.host.transcript = none := by
    have shared := opened.shared
    rw [unlogged] at shared
    exact Option.isNone_iff_eq_none.mp (by simpa [Host.shared] using shared)
  have sound : p.Sound := by
    rintro l ⟨t, given, _⟩
    rw [unshared] at given
    cases given
  have holds : Threads.Invariant [] "" input _ schedule _ :=
    invariant_of_opened opened sound (fun logged => by rw [unlogged] at logged; cases logged)
      schedule
  generalize Threads.run input schedule (.start p) = s at holds ended ⊢
  have given : s.pool.settings.logFile = none := by
    rw [holds.later.confined.settings]
    exact opened.settings ▸ unlogged
  have streams := holds.streams
  rw [ended, given] at streams
  refine ⟨Option.isNone_iff_eq_none.mp (by simpa [Host.shared] using streams.1), streams.2, ?_⟩
  rw [holds.out, ← shownOf_eq_progressOf (holds.plain given)]
  show p.host.out ++ _ = _
  rw [opened.out, aside, unlogged]
  exact congrArg (· ++ _) String.append_empty

/-- What the threads of a session with a log leave when the main thread has returned. -/
theorem logged_of_ended {opening : String} {log : Option Transcript}
    (opened : Opened input settings h opening p) (logged : settings.logFile = some path)
    (threads : threads? input settings h = some (.start p)) (place : h.files.IsPlace path l)
    (mirrors : h.Mirrors l base) (out : h.out = base)
    (ended : (Threads.run input schedule (.start p)).main = .ended (.status code) log)
    (apart : Spares settings path (Threads.run input schedule (.start p)).pool.counter.value
      (Threads.run input schedule (.start p)).pool.host.files) :
    (Threads.run input schedule (.start p)).pool.host.transcript = none ∧
      ∃ told late, Closing input schedule settings h told late ∧
        (∃ t, log = some t ∧ t.closed = true) ∧
        LogHolds path told (Threads.run input schedule (.start p)).pool.host.files ∧
        (Threads.run input schedule (.start p)).pool.host.out = base ++ told ++ late := by
  obtain ⟨mirrors', places⟩ := opened.mirrors l base mirrors
  have holds : Threads.Invariant l base input _ schedule _ :=
    invariant_of_opened opened (Pool.sound_of_mirrors mirrors') (fun _ => mirrors') schedule
  have isSome : settings.logFile.isSome = true := by rw [logged]; rfl
  have given : (Threads.run input schedule (.start p)).pool.settings = settings :=
    holds.later.confined.settings.trans opened.settings
  have place' := holds.later.confined.isPlace_iff.mpr (places path place)
  have free : ¬ (Threads.run input schedule (.start p)).pool.Reserves l := by
    obtain ⟨noEvents, noCases⟩ := apart l place'
    rintro (⟨events, recorded, there⟩ | ⟨n, below, there⟩)
    · rw [holds.later.confined.logPath] at recorded
      exact noEvents events (opened.logPath ▸ recorded) there
    · rw [given] at there
      exact noCases n below there
  have streams := holds.streams
  rw [ended, given, isSome] at streams
  obtain ⟨early, rest, later, rfl, closed⟩ := holds.closed (by rw [ended]; rfl)
    (by rw [given]; exact isSome) (by rw [ended]; simp)
  obtain ⟨told, before, settled⟩ := closed.settled free
  obtain ⟨c, closedLog, closedPath, main⟩ := closed.closing
  have silent : (Threads.start p).main.HasSaid input (Saying.spokenOf (Threads.start p).said) := rfl
  have said := Threads.hasSaid_run silent early
  rw [main] at said
  refine ⟨Option.isNone_iff_eq_none.mp (by simpa [Host.shared] using streams.1), told,
    Saying.shownOf later, ?_, streams.2, ⟨l, place', settled.1⟩, ?_⟩
  · unfold Closing
    rw [threads]
    refine ⟨early, rest, later, opening, c, closedLog, closedPath, rfl, main, said, opened.heads,
      ?_, closed.said, rfl, closed.late⟩
    -- The output stream had got the header when the workers were started.
    have holds' : Threads.Invariant l base input _ early _ :=
      invariant_of_opened opened (Pool.sound_of_mirrors mirrors') (fun _ => mirrors') early
    have printed : p.host.out = base ++ opening := by
      rw [opened.out, out, aside, isSome, if_pos rfl]
    have text := before.symm.trans holds'.out
    rw [show (Threads.start p).pool.host.out = _ from printed, String.append_assoc] at text
    exact (String.append_right_inj base).mp text
  · rw [closed.out, before]

/-! ## A trace that comes late -/

/-- A session with a log file and two workers, none of whose children can be started. -/
def lateInput : SessionInput :=
  { crashingInput with
    argv := ["--workers", "2", "--scratch-dir", "/s", "--log-file", "/log"]
    children := fun _ _ => { ending := .failed (.withText .os "no compiler") } }

/-- Its log is no file of a case. -/
theorem not_isPlace_log {fs : FileSystem} {scratch : Path} (place : fs.IsPlace (.ofText "/log") l)
    (n : Int) : ¬ fs.IsPlace (scratch.child (Source.fileName n)) l := by
  intro there
  rw [show Path.ofText "/log" = (Path.ofText "/").child "log" by decide] at place
  obtain ⟨_, directory, _, _, _, _, here⟩ := isPlace_child_iff.mp place
  obtain ⟨_, directory', _, _, _, _, same⟩ := isPlace_child_iff.mp there
  rw [here] at same
  have letters := congrArg String.toList (List.cons.inj same).1
  simp [Source.fileName, Source.fileNameOf] at letters

/-- The second worker has its trace yet to write when the summary has been printed. -/
theorem exists_late : ∃ settings host p opening schedule c g q said,
    begin? lateInput.argv emptyHost = some (settings, host) ∧
      settings.logFile = some (.ofText "/log") ∧ settings.healthLog = none ∧
      threads? lateInput settings host = some (.start p) ∧
      Opened lateInput settings host opening p ∧
      Threads.run lateInput schedule (.start p) =
        ⟨q, [.finished, .tracing q.host.shared [g.traceLine ++ "\n"] (some g)], [],
          .printing c [], said⟩ ∧
      c.status = 1 := by
  obtain ⟨settings, host, p, h', metadata, q, begun, two, health, log, started, queried, trace⟩ :
      ∃ settings host p h' metadata q,
        begin? lateInput.argv emptyHost = some (settings, host) ∧ settings.workers = 2 ∧
          settings.healthLog = none ∧ settings.logFile = some (.ofText "/log") ∧
          Pool.start settings false (Pool.sourcesFor settings lateInput.ownSeed) host =
            (.ok p, h') ∧ query lateInput p = (.ok metadata, q) ∧
          (announce lateInput metadata q).host.trace = emptyHost.trace :=
    ⟨_, _, _, _, _, _, rfl, rfl, rfl, rfl, rfl, rfl, rfl⟩
  have fresh := ((ready_of_start started).of_query queried).fresh_announce lateInput metadata
  have threads : threads? lateInput settings host = some (.start (announce lateInput metadata q)) :=
    threads?_of_queried started queried
  obtain ⟨p', opening, same, opened⟩ := opened_of_threads threads (shares_of_begin rfl begun)
  obtain rfl : announce lateInput metadata q = p' := congrArg Threads.pool same
  obtain ⟨schedule, c, g, r, said, ran, status⟩ := Threads.exists_tracing lateInput
    (by rw [fresh.settings, two]) fresh.halted
    (EventLog.accepts_iff.mpr (by rw [fresh.events, health]; simp)) (fun _ _ => rfl) (by decide) rfl
  rw [trace] at ran
  exact ⟨settings, host, _, opening, schedule, c, g, r, said, begun, log, health, threads,
    opened, ran, status⟩

/-- It writes its trace behind the closing of the log. -/
theorem exists_late_end : ∃ settings host schedule l g, ∃ q : Pool Twister,
    begin? lateInput.argv emptyHost = some (settings, host) ∧
      settings.logFile = some (.ofText "/log") ∧ settings.healthLog = none ∧
      q.host.files.IsPlace (.ofText "/log") l ∧ q.host.Mirrors l "" ∧
      (runAtOnce lateInput schedule emptyHost).ending = .status 1 ∧
      (runAtOnce lateInput schedule emptyHost).host.files = q.host.files ∧
      (runAtOnce lateInput schedule emptyHost).host.out =
        q.host.out ++ (Failure.traceLine g ++ "\n") := by
  obtain ⟨settings, host, p, opening, schedule, c, g, q, said, begun, log, health, threads,
    opened, ran, status⟩ := exists_late
  obtain ⟨l, place, mirrors⟩ := mirrors_of_begin rfl begun log
  obtain ⟨mirrors', places⟩ := opened.mirrors l _ mirrors
  have holds : Threads.Invariant l "" lateInput _ schedule _ :=
    invariant_of_opened opened (Pool.sound_of_mirrors mirrors') (fun _ => mirrors') schedule
  rw [ran] at holds
  have given : q.settings = settings := holds.later.confined.settings.trans opened.settings
  have logged : q.settings.logFile = some (.ofText "/log") := given ▸ log
  have place' : q.host.files.IsPlace (.ofText "/log") l :=
    holds.later.confined.isPlace_iff.mpr (places _ place)
  have free : ¬ q.Reserves l := by
    rintro (⟨path, recorded, _⟩ | ⟨n, _, there⟩)
    · have silent : q.events.path = none :=
        holds.later.confined.logPath.trans (opened.logPath.trans health)
      rw [silent] at recorded
      cases recorded
    · exact not_isPlace_log place' n there
  have mirrors'' : q.host.Mirrors l "" := holds.mirrors rfl (by rw [logged]; rfl) free
  have shared : q.host.shared = true := by
    obtain ⟨_, _, _, transcript⟩ := mirrors''
    rw [Host.shared, transcript]
    rfl
  rw [shared] at ran
  obtain ⟨more, s, log', ends, ended, files, out⟩ : ∃ more s log', Threads.run lateInput more
      ⟨q, [.finished, .tracing true [g.traceLine ++ "\n"] (some g)], [], .printing c [], said⟩ = s ∧
        s.main = .ended (.status c.status) log' ∧ s.pool.host.files = q.host.files ∧
        s.pool.host.out = q.host.out ++ String.join [g.traceLine ++ "\n"] :=
    Threads.ends_behind_trace lateInput logged mirrors''
      (show 1 < [.finished, .finished].length by decide) [g.traceLine ++ "\n"] (some g) c said
  have reaches : Threads.run lateInput (schedule ++ more) (.start p) = s := by
    rw [Threads.run_append, ran, ends]
  have returned : runAtOnce lateInput (schedule ++ more) emptyHost = _ :=
    (runAtOnce_of_begin begun _).trans (runSettingsAtOnce_of_ended threads reaches ended)
  refine ⟨settings, host, schedule ++ more, l, g, q, begun, log, health, place', mirrors'', ?_⟩
  rw [returned, status]
  exact ⟨rfl, files, by rw [out, String.join_cons]; simp⟩

/-! ## Every session -/

/-- The log of a session with workers at once. For every command line that asks for a run, and every
order in which the threads move: when the main thread returns, both standard streams are as they
were before.

* With a log file, the log is closed, and its content is what the output stream had got when the log
  was closed. What the output stream has got since then are pieces of traces of workers that had not
  come to their end, and that the main thread does not wait for.
* Without a log file, the output stream got what the progress stream got. -/
theorem mirrored_runAtOnce (plain : h.transcript = none)
    (begun : begin? input.argv h = some (settings, host))
    (apart : ∀ path ∈ settings.logFile, Spares settings path
      (drawn input schedule settings host) (runAtOnce input schedule h).host.files)
    (returned : (runAtOnce input schedule h).ending = .status code) :
    (runAtOnce input schedule h).host.transcript = none ∧
      match settings.logFile with
      | none => (runAtOnce input schedule h).log = none ∧
          (runAtOnce input schedule h).host.out =
            h.out ++ progress input schedule settings host
      | some path => ∃ told late, Closing input schedule settings host told late ∧
          (∃ t, (runAtOnce input schedule h).log = some t ∧ t.closed = true) ∧
          LogHolds path told (runAtOnce input schedule h).host.files ∧
          (runAtOnce input schedule h).host.out = h.out ++ told ++ late := by
  have atOnce := runAtOnce_of_begin begun schedule
  cases threads : threads? input settings host with
  | none =>
    have same : runAtOnce input schedule h = run input h := by
      rw [atOnce, run_of_begin begun, runSettingsAtOnce, threads]
    unfold Closing progress
    unfold drawn at apart
    rw [threads] at apart ⊢
    rw [same] at apart returned ⊢
    obtain ⟨restored, rest⟩ := mirrored_of_no_threads plain begun threads apart returned
    refine ⟨restored, ?_⟩
    cases log : settings.logFile with
    | none =>
      rw [log] at rest
      exact ⟨rest.1, rest.2.trans String.append_empty.symm⟩
    | some path =>
      rw [log] at rest
      obtain ⟨told, course, takes, prints, closed, holds, out⟩ := rest
      exact ⟨told, "", ⟨rfl, course, takes, prints⟩, closed, holds,
        out.trans String.append_empty.symm⟩
  | some start =>
    obtain ⟨p, opening, rfl, opened⟩ := opened_of_threads threads (shares_of_begin plain begun)
    unfold runSettingsAtOnce at atOnce
    rw [threads] at atOnce
    dsimp only at atOnce
    unfold drawn at apart
    unfold progress
    rw [threads] at apart ⊢
    dsimp only at apart ⊢
    cases main : (Threads.run input schedule (.start p)).main with
    | ended ending log =>
      rw [main] at atOnce
      rw [atOnce] at apart returned ⊢
      dsimp only at apart returned ⊢
      subst returned
      have out := out_of_begin plain begun
      cases log' : settings.logFile with
      | none =>
        obtain ⟨restored, noLog, printed⟩ := unlogged_of_ended opened log' main
        exact ⟨restored, noLog, out ▸ printed⟩
      | some path =>
        obtain ⟨l, place, mirrors⟩ := mirrors_of_begin plain begun log'
        exact logged_of_ended opened log' threads place mirrors out main (apart path log')
    | _ =>
      rw [main] at atOnce
      rw [atOnce] at returned
      cases returned

/-- The log of a session whose second worker comes late does not hold all that the output stream
got: the trace of that worker is missing. -/
theorem unmirrored_late : ∃ schedule told late,
    (runAtOnce lateInput schedule emptyHost).ending = .status 1 ∧
      LogHolds (.ofText "/log") told (runAtOnce lateInput schedule emptyHost).host.files ∧
      (runAtOnce lateInput schedule emptyHost).host.out = told ++ late ∧ late ≠ "" := by
  obtain ⟨_, _, schedule, l, g, q, _, _, _, place, mirrors, returned, files, out⟩ := exists_late_end
  obtain ⟨told, before, held, _⟩ := mirrors
  refine ⟨schedule, told, g.traceLine ++ "\n", returned, ⟨l, files ▸ ⟨place, held⟩⟩, ?_, ?_⟩
  · rw [out, before, String.empty_append]
  · intro empty
    have letters := congrArg String.toList empty
    simp at letters

/-- What is known of the log of a session holds of that session. -/
theorem mirrored_of_late : ∃ settings host schedule told late,
    begin? lateInput.argv emptyHost = some (settings, host) ∧
      (runAtOnce lateInput schedule emptyHost).ending = .status 1 ∧
      Closing lateInput schedule settings host told late ∧
      (runAtOnce lateInput schedule emptyHost).host.transcript = none ∧
      LogHolds (.ofText "/log") told (runAtOnce lateInput schedule emptyHost).host.files ∧
      (runAtOnce lateInput schedule emptyHost).host.out = told ++ late := by
  obtain ⟨settings, host, schedule, _, _, _, begun, log, health, _, _, returned, _, _⟩ :=
    exists_late_end
  have spares : Spares settings (.ofText "/log") (drawn lateInput schedule settings host)
      (runAtOnce lateInput schedule emptyHost).host.files :=
    fun l place => ⟨fun path given => (by rw [health] at given; cases given),
      fun n _ => not_isPlace_log place n⟩
  obtain ⟨restored, logged⟩ := mirrored_runAtOnce rfl begun (fun path given => by
    rw [log] at given
    cases given
    exact spares) returned
  rw [log] at logged
  obtain ⟨told, late, closing, _, holds, out⟩ := logged
  refine ⟨settings, host, schedule, told, late, begun, returned, closing, restored, holds, ?_⟩
  rw [out, show emptyHost.out = "" from rfl, String.empty_append]

end Session

end CrashDiff
