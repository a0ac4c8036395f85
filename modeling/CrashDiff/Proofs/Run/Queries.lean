import CrashDiff.Proofs.Compiler.Version
import CrashDiff.Proofs.Run.Cause

/-!
# Version queries in a session

A session asks both variants for their versions before its workers are started. If both queries are
answered, the metadata hold both versions, and the workers run. The first failure that passes
through a query ends the session instead: no case is generated, and no compiler is started on one.

Results:
1. `collect_fst`: the metadata, or the first failure that passes through.
2. `runs_of_answered`, `ends_of_escape`: what becomes of a session in either case.
3. `goesOn_of_begin`: all of it.
4. `stopped_by_query`: a session that a query keeps from its workers.
-/

namespace CrashDiff

open Text

namespace Metadata

/-- The first failure that passes through the version queries. -/
def escape? (s : RunSettings) (endings : VersionEndings) : Option Failure :=
  s.execution.variants.findSome? fun v => Version.escape? (endings v)

/-- The metadata show the answers to both queries, unless a failure passes through. -/
theorem collect_fst (s : RunSettings) (facts : HostFacts) (endings : VersionEndings) :
    (collect s facts endings).1 =
      match escape? s endings with
      | none => .ok (ofVersions s facts fun v => Version.shown (endings v))
      | some f => .error f := by
  have baseline := Version.ofEnding_fst s.execution.baseline (endings s.execution.baseline)
  have candidate := Version.ofEnding_fst s.execution.candidate (endings s.execution.candidate)
  unfold collect escape?
  simp only [ExecutionSettings.variants, toolchains, List.findSome?_cons, List.findSome?_nil]
  rcases first : Version.ofEnding s.execution.baseline (endings s.execution.baseline) with
    ⟨answer, logged⟩
  rcases second : Version.ofEnding s.execution.candidate (endings s.execution.candidate) with
    ⟨answer', more⟩
  rw [first] at baseline
  rw [second] at candidate
  dsimp only at baseline candidate
  subst baseline candidate
  cases Version.escape? (endings s.execution.baseline) with
  | some f => rfl
  | none => cases Version.escape? (endings s.execution.candidate) <;> rfl

end Metadata

namespace Session

variable {input : SessionInput} {settings : RunSettings} {h h' host : Host} {p : Pool Twister}

theorem query_fst
    (started : Pool.start settings false (Pool.sourcesFor settings input.ownSeed) host =
      (.ok p, h')) :
    (query input p).1 =
      match Metadata.escape? settings input.versions with
      | none => .ok (Metadata.ofVersions settings input.facts fun v =>
          Version.shown (input.versions v))
      | some f => .error f := by
  have own : p.settings = settings := (Pool.fresh_of_start started).settings
  rw [← own]
  exact Metadata.collect_fst p.settings input.facts input.versions

/-- After two answers the session goes on to its workers. -/
theorem runs_of_answered
    (started : Pool.start settings false (Pool.sourcesFor settings input.ownSeed) host =
      (.ok p, h')) (answered : Metadata.escape? settings input.versions = none) :
    ∃ metadata q, query input p = (.ok metadata, q) ∧
      metadata.get? "toolchains" = some (.obj (settings.execution.variants.map fun v =>
        (v.name, Metadata.toolchain v (Version.shown (input.versions v))))) ∧
      (∃ header, Header.render (commandWords input.argv) settings.logFile metadata = .ok header) ∧
      runPool input p = runWorkers input metadata q ∧
      ∀ course, course? input settings host = some course → ∃ flow, course = .ofFlow flow := by
  have queried := query_fst started
  rw [answered] at queried
  rcases asked : query input p with ⟨answer, q⟩
  rw [asked] at queried
  obtain rfl := queried
  refine ⟨_, q, rfl, ?_, ?_, ?_, ?_⟩
  · simp [Metadata.ofVersions, Json.get?, Json.lookup?]
  · obtain ⟨_, _, rendered⟩ := Header.exists_render (commandWords input.argv) settings.logFile
      settings input.facts fun v => Version.shown (input.versions v)
    exact ⟨_, rendered⟩
  · unfold runPool
    rw [asked]
  · intro course takes
    unfold course? at takes
    rw [started] at takes
    dsimp only at takes
    rw [asked] at takes
    dsimp only at takes
    split at takes
    · rename_i flow _ _
      cases takes
      exact ⟨flow, rfl⟩
    · cases takes

/-- A failure that passes through a query ends the session before any compiler is started. -/
theorem ends_of_escape {f : Failure} (begun : begin? input.argv h = some (settings, host))
    (started : Pool.start settings false (Pool.sourcesFor settings input.ownSeed) host =
      (.ok p, h')) (escaped : Metadata.escape? settings input.versions = some f) :
    (query input p).1 = .error f ∧
      course? input settings host =
        some (if f.kind = .interrupt then .interrupted else .unqueried f) ∧
      (run input h).ending = .status (if f.kind = .interrupt then 0 else 1) ∧
      (run input h).calls = [] := by
  have queried := query_fst started
  rw [escaped] at queried
  refine ⟨queried, ?_, run_of_unqueried begun started queried⟩
  unfold course?
  rw [started]
  rcases asked : query input p with ⟨answer, q⟩
  rw [asked] at queried
  obtain rfl := queried
  simp only [asked]

/-- What version queries mean for a session that has begun its run and made its pool.

* Whatever way the child of a query ends, the query is answered, unless it ends with one of six
  kinds of failures, or with one of another kind that is no failure of the operating system: those
  pass through. An answer is not empty, and has no blanks at its ends.
* If both queries are answered, the metadata show both versions, the header can be made of them,
  and the workers are run.
* Otherwise the session ends with the first failure that passes through, and starts no compiler. -/
theorem goesOn_of_begin (begun : begin? input.argv h = some (settings, host))
    (started : Pool.start settings false (Pool.sourcesFor settings input.ownSeed) host =
      (.ok p, h')) :
    (∀ v e, (Version.ofEnding v e).1 =
      match Version.escape? e with
      | none => .ok (Version.shown e)
      | some f => .error f) ∧
    (∀ e f, Version.escape? e = some f ↔ e = .failed f ∧
      (f.kind ∈ [.value, .runtime, .type, .interrupt, .subprocess, .overflow] ∨
        ∃ kind, f.kind = .other kind ∧ kind.isSystem = false)) ∧
    (∀ e, Version.shown e ≠ "" ∧ trim (Version.shown e) = Version.shown e) ∧
    ((∀ v ∈ settings.execution.variants, Version.escape? (input.versions v) = none) →
      ∃ metadata q, query input p = (.ok metadata, q) ∧
        metadata.get? "toolchains" = some (.obj (settings.execution.variants.map fun v =>
          (v.name, Metadata.toolchain v (Version.shown (input.versions v))))) ∧
        (∃ header, Header.render (commandWords input.argv) settings.logFile metadata =
          .ok header) ∧
        runPool input p = runWorkers input metadata q ∧
        ∀ course, course? input settings host = some course → ∃ flow, course = .ofFlow flow) ∧
    ∀ f, Metadata.escape? settings input.versions = some f →
      (query input p).1 = .error f ∧
      course? input settings host =
        some (if f.kind = .interrupt then .interrupted else .unqueried f) ∧
      (run input h).ending = .status (if f.kind = .interrupt then 0 else 1) ∧
      (run input h).calls = [] := by
  refine ⟨Version.ofEnding_fst, fun e f => Version.escape?_eq_some_iff,
    fun e => ⟨Version.shown_ne_empty e, Version.trim_shown e⟩, fun answered => ?_,
    fun f escaped => ends_of_escape begun started escaped⟩
  exact runs_of_answered started (List.findSome?_eq_none_iff.mpr answered)

/-- A session whose baseline is not found, and whose candidate fails when it is asked. -/
def unknownInput : SessionInput :=
  { crashingInput with
    versions := fun v =>
      if v.name = "baseline" then
        .failed ⟨.fileNotFound, [.int 2, .str "No such file or directory"]⟩
      else .exited 1 "" "no" }

/-- It goes on to its workers, and shows both versions as unknown. -/
theorem goesOn_unknown :
    ∃ settings host p h' metadata q, begin? unknownInput.argv emptyHost = some (settings, host) ∧
      Pool.start settings false (Pool.sourcesFor settings unknownInput.ownSeed) host =
        (.ok p, h') ∧
      query unknownInput p = (.ok metadata, q) ∧
      metadata.get? "toolchains" = some (.obj (settings.execution.variants.map fun v =>
        (v.name, Metadata.toolchain v "unknown"))) ∧
      runPool unknownInput p = runWorkers unknownInput metadata q := by
  obtain ⟨settings, host, p, h', begun, variants, started⟩ : ∃ settings host p h',
      begin? unknownInput.argv emptyHost = some (settings, host) ∧
        settings.execution.variants = [⟨"baseline", "+nightly"⟩, ⟨"candidate", "+stage1"⟩] ∧
        Pool.start settings false (Pool.sourcesFor settings unknownInput.ownSeed) host =
          (.ok p, h') :=
    ⟨_, _, _, _, rfl, by decide, rfl⟩
  obtain ⟨_, _, _, goesOn, _⟩ := goesOn_of_begin begun started
  have answered : ∀ v ∈ settings.execution.variants,
      Version.escape? (unknownInput.versions v) = none := by
    rw [variants]
    decide
  obtain ⟨metadata, q, queried, toolchains, _, runs, _⟩ := goesOn answered
  refine ⟨settings, host, p, h', metadata, q, begun, started, queried, ?_, runs⟩
  rw [toolchains, variants]
  rfl

/-- The query of a baseline with a null character in its words is refused, which is not answered. So
the session ends with the status one, and without any start of a compiler. -/
theorem stopped_by_query :
    ∃ settings host p h', begin? refusedInput.argv emptyHost = some (settings, host) ∧
      Pool.start settings false (Pool.sourcesFor settings refusedInput.ownSeed) host =
        (.ok p, h') ∧
      refusedInput.versions settings.execution.baseline =
        .failed ⟨.value, [.str "embedded null byte"]⟩ ∧
      (Version.ofEnding settings.execution.baseline
        (refusedInput.versions settings.execution.baseline)).1 =
          .error ⟨.value, [.str "embedded null byte"]⟩ ∧
      (run refusedInput emptyHost).ending = .status 1 ∧
      (run refusedInput emptyHost).calls = [] := by
  obtain ⟨settings, host, p, h', begun, started⟩ : ∃ settings host p h',
      begin? refusedInput.argv emptyHost = some (settings, host) ∧
        Pool.start settings false (Pool.sourcesFor settings refusedInput.ownSeed) host =
          (.ok p, h') :=
    ⟨_, _, _, _, rfl, rfl⟩
  have escaped : Metadata.escape? settings refusedInput.versions = some FileSystem.nullFailure :=
    rfl
  obtain ⟨_, _, ending, calls⟩ := ends_of_escape begun started escaped
  exact ⟨settings, host, p, h', begun, started, rfl, rfl, ending, calls⟩

end Session

end CrashDiff
