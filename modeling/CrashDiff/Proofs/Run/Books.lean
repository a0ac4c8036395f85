import CrashDiff.Proofs.Run.Findings
import CrashDiff.Proofs.Run.Points

/-!
# The books of a run

A run is counted in four places: identifiers by the counter, verdicts and failures by the
statistics, findings and failures by the event log, and discarded cases by the points of the
progress stream. Each of them is compared here with the journal of the run.

Results:
1. `count_keysOf`: which events stand for which verdicts.
2. `balanced_runOnce`, `balanced_performAll`: the statistics and the event log say how often each
   thing is in the journal.
3. `books_performAll`: how the four accounts of a run agree.
-/

namespace CrashDiff

open FileSystem Happening JournalEntry

/-! ## What is counted -/

/-- The results of single variants that are unexpected. -/
def DualResult.surprises (result : DualResult) : List VariantResult :=
  [result.baseline, result.candidate].filter fun r => r.outcome = .unexpected

/-- One or two results are unexpected just if the verdict says so. -/
theorem DualResult.length_surprises (result : DualResult) :
    if result.verdict = .unexpectedExit
      then 1 ≤ result.surprises.length ∧ result.surprises.length ≤ 2
      else result.surprises = [] := by
  cases baseline : result.baseline.outcome <;> cases candidate : result.candidate.outcome <;>
    simp [surprises, verdict, Verdict.ofOutcomes, baseline, candidate]

namespace Stats

variable (s : Stats) (verdict other : Verdict)

@[simp] theorem executed_record : (s.record verdict).executed = s.executed + 1 := by
  cases verdict <;> rfl

theorem count_record :
    (s.record verdict).count other = s.count other + if verdict = other then 1 else 0 := by
  cases verdict <;> cases other <;> rfl

@[simp] theorem infrastructureErrors_record :
    (s.record verdict).infrastructureErrors = s.infrastructureErrors := by
  cases verdict <;> rfl

@[simp] theorem count_recordFailure : s.recordFailure.count other = s.count other := by
  cases other <;> rfl

end Stats

/-- Every verdict is one of the five. -/
theorem Verdict.length_eq_counts (verdicts : List Verdict) :
    verdicts.length = verdicts.count .uninteresting + verdicts.count .baselineOnly +
      verdicts.count .candidateOnly + verdicts.count .bothCrashed +
      verdicts.count .unexpectedExit := by
  induction verdicts with
  | nil => rfl
  | cons v verdicts ih =>
    simp only [List.length_cons, List.count_cons, ih]
    cases v <;> simp <;> omega

namespace Pool

variable {σ : Type}

/-- The keys of the events that a verdict is recorded by. -/
theorem keys_findingEvents (case : TestCase) (result : DualResult) :
    (findingEvents case result result.verdict).map Event.key =
      match result.verdict with
      | .uninteresting => []
      | .baselineOnly | .candidateOnly => ["finding.one_sided_crash"]
      | .bothCrashed => ["finding.both_crashed"]
      | .unexpectedExit => List.replicate result.surprises.length "execution.unexpected_exit" := by
  cases result.verdict with
  | unexpectedExit =>
    have key (r : VariantResult) : Event.key (.unexpectedExit r.variant.name r.code case.identifier
      case.path) = "execution.unexpected_exit" := rfl
    simp only [findingEvents, List.map_map, Function.comp_def, key]
    exact List.map_const'
  | _ => rfl

/-- Running the children counts nothing. -/
theorem uncounted_execute (children : Children) (case : TestCase) (p : Pool σ) :
    (p.execute children case).2.stats = p.stats ∧
      (p.execute children case).2.events = p.events := by
  refine (execute_induction (motive := fun q => q.stats = p.stats ∧ q.events = p.events)
    ⟨rfl, rfl⟩ fun v q before => ?_).2
  have launched : (q.launch case v (children case v)).2.stats = q.stats ∧
      (q.launch case v (children case v)).2.events = q.events := by
    unfold launch
    dsimp only
    split <;> split <;> exact ⟨rfl, rfl⟩
  rw [← before.1, ← before.2]
  rcases runVariant_snd children case v q with same | ⟨m, logged⟩
  · rw [same]
    exact launched
  · rw [logged]
    exact launched

theorem stats_recordEvents (events : List Event) (p : Pool σ) :
    (p.recordEvents events).2.stats = p.stats :=
  recordEvents_induction (motive := fun q => q.stats = p.stats) events rfl fun _ _ same => same

end Pool

/-! ## The accounts of a journal -/

section Accounts

variable {σ : Type} [DrawSource σ]

namespace Iteration

/-- The verdict on the case of the call, if it comes to one. -/
def verdict? (i : Iteration σ) : Option Verdict :=
  match i.fate with
  | .judged result => some result.verdict
  | .unstaged _ | .unrun _ => none

/-- The results of single variants behind the verdict that are unexpected. -/
def surprises (i : Iteration σ) : List VariantResult :=
  match i.fate with
  | .judged result => result.surprises
  | .unstaged _ | .unrun _ => []

/-- The keys of the events that the verdict is recorded by. -/
def eventKeys (i : Iteration σ) : List String :=
  match i.fate with
  | .judged result => (Pool.findingEvents i.case result result.verdict).map Event.key
  | .unstaged _ | .unrun _ => []

/-- How often each kind of finding is among the events of a call. -/
theorem count_eventKeys (i : Iteration σ) :
    i.eventKeys.count "finding.one_sided_crash" =
        i.verdict?.toList.count .baselineOnly + i.verdict?.toList.count .candidateOnly ∧
      i.eventKeys.count "finding.both_crashed" = i.verdict?.toList.count .bothCrashed ∧
      i.eventKeys.count "execution.infrastructure_error" = 0 ∧
      i.eventKeys.count "execution.unexpected_exit" = i.surprises.length := by
  unfold eventKeys verdict? surprises
  split
  · rename_i result _
    have few := result.length_surprises
    rw [Pool.keys_findingEvents]
    cases verdict : result.verdict <;> simp [verdict, List.count_replicate] at few ⊢ <;> simp [few]
  · simp
  · simp

theorem length_surprises (i : Iteration σ) :
    i.verdict?.toList.count .unexpectedExit ≤ i.surprises.length ∧
      i.surprises.length ≤ 2 * i.verdict?.toList.count .unexpectedExit := by
  unfold verdict? surprises
  split
  · rename_i result _
    have few := result.length_surprises
    cases verdict : result.verdict <;> simp [verdict] at few ⊢ <;> simp [few]
  · simp
  · simp

end Iteration

namespace JournalEntry

/-- Whether the entry is that of a worker that gives up. -/
def isGaveUp : JournalEntry σ → Bool
  | .gaveUp .. => true
  | .call _ | .stopped => false

/-- The keys of the events that the entry asks to be recorded. -/
def eventKeys : JournalEntry σ → List String
  | .call i => i.eventKeys
  | .gaveUp .. => ["execution.infrastructure_error"]
  | .stopped => []

/-- The verdicts in a journal. -/
def verdictsOf (journal : List (JournalEntry σ)) : List Verdict :=
  (callsOf journal).flatMap fun i => i.verdict?.toList

/-- The unexpected results of single variants in a journal. -/
def surprisesOf (journal : List (JournalEntry σ)) : List VariantResult :=
  (callsOf journal).flatMap Iteration.surprises

/-- The keys of the events in a journal. -/
def keysOf (journal : List (JournalEntry σ)) : List String :=
  journal.flatMap eventKeys

theorem verdictsOf_append (journal more : List (JournalEntry σ)) :
    verdictsOf (journal ++ more) = verdictsOf journal ++ verdictsOf more := by
  rw [verdictsOf, callsOf_append, List.flatMap_append]
  rfl

theorem keysOf_append (journal more : List (JournalEntry σ)) :
    keysOf (journal ++ more) = keysOf journal ++ keysOf more :=
  List.flatMap_append

/-- How often the keys of the four kinds of events are in a journal. -/
theorem count_keysOf (journal : List (JournalEntry σ)) :
    (keysOf journal).count "finding.one_sided_crash" =
        (verdictsOf journal).count .baselineOnly + (verdictsOf journal).count .candidateOnly ∧
      (keysOf journal).count "finding.both_crashed" = (verdictsOf journal).count .bothCrashed ∧
      (keysOf journal).count "execution.infrastructure_error" = journal.countP isGaveUp ∧
      (keysOf journal).count "execution.unexpected_exit" = (surprisesOf journal).length := by
  induction journal with
  | nil => exact ⟨rfl, rfl, rfl, rfl⟩
  | cons entry journal ih =>
    obtain ⟨oneSided, both, failures, unexpected⟩ := ih
    rw [keysOf, List.flatMap_cons, ← keysOf]
    cases entry with
    | stopped => exact ⟨oneSided, both, failures, unexpected⟩
    | gaveUp before worker failure =>
      refine ⟨oneSided, both, ?_, unexpected⟩
      rw [List.count_append, failures, List.countP_cons]
      exact Nat.add_comm 1 _
    | call i =>
      obtain ⟨oneSided', both', failures', unexpected'⟩ := i.count_eventKeys
      simp only [eventKeys, List.count_append, verdictsOf, surprisesOf, callsOf_call,
        List.flatMap_cons, List.length_append] at oneSided both unexpected ⊢
      refine ⟨by omega, by omega, ?_, by omega⟩
      rw [failures, failures', List.countP_cons]
      exact Nat.add_comm 0 _

/-- The unexpected results are one or two for each verdict that tells of them. -/
theorem length_surprisesOf (journal : List (JournalEntry σ)) :
    (verdictsOf journal).count .unexpectedExit ≤ (surprisesOf journal).length ∧
      (surprisesOf journal).length ≤ 2 * (verdictsOf journal).count .unexpectedExit := by
  unfold verdictsOf surprisesOf
  induction callsOf journal with
  | nil => exact ⟨Nat.le_refl 0, Nat.le_refl 0⟩
  | cons i calls ih =>
    have own := i.length_surprises
    simp only [List.flatMap_cons, List.count_append, List.length_append]
    omega

end JournalEntry

namespace Pool

/-- The second pool comes from the first one by the calls of a journal and by what else it notes,
and the statistics and the event log say how often each thing is in the journal. A log that refuses
events counts none of them. -/
structure Balanced (journal : List (JournalEntry σ)) (p q : Pool σ) : Prop where
  logPath : q.events.path = p.events.path
  executed : q.stats.executed = p.stats.executed + (verdictsOf journal).length
  verdict : ∀ v, q.stats.count v = p.stats.count v + (verdictsOf journal).count v
  failures : q.stats.infrastructureErrors =
    p.stats.infrastructureErrors + journal.countP isGaveUp
  events : ∀ key, q.events.counts.count key = p.events.counts.count key +
    if p.events.accepts then (keysOf journal).count key else 0

variable {journal more : List (JournalEntry σ)} {p q r : Pool σ}

theorem Balanced.of_eq (stats : q.stats = p.stats) (events : q.events = p.events) :
    Balanced [] p q where
  logPath := by rw [events]
  executed := by rw [stats]; rfl
  verdict _ := by rw [stats]; rfl
  failures := by rw [stats]; rfl
  events key := by simp [events, keysOf]

theorem Balanced.trans (first : Balanced journal p q) (second : Balanced more q r) :
    Balanced (journal ++ more) p r where
  logPath := second.logPath.trans first.logPath
  executed := by
    rw [second.executed, first.executed, verdictsOf_append, List.length_append, Nat.add_assoc]
  verdict v := by
    rw [second.verdict, first.verdict, verdictsOf_append, List.count_append, Nat.add_assoc]
  failures := by rw [second.failures, first.failures, List.countP_append, Nat.add_assoc]
  events key := by
    rw [second.events, first.events, EventLog.accepts_congr first.logPath, keysOf_append,
      List.count_append, Nat.add_assoc]
    split <;> rfl

/-- A call is balanced if its verdict is counted and its events are recorded. -/
theorem balanced_call {i : Iteration σ} (logPath : q.events.path = i.before.events.path)
    (stats : q.stats = (i.verdict?.map i.before.stats.record).getD i.before.stats)
    (events : ∀ key, q.events.counts.count key = i.before.events.counts.count key +
      if i.before.events.accepts then i.eventKeys.count key else 0) :
    Balanced [.call i] i.before q := by
  have failures : q.stats.infrastructureErrors = i.before.stats.infrastructureErrors := by
    rw [stats]
    cases i.verdict? <;> simp
  have verdicts : verdictsOf [.call i] = i.verdict?.toList := by simp [verdictsOf]
  refine ⟨logPath, ?_, fun v => ?_, failures, fun key => ?_⟩
  · rw [verdicts, stats]
    cases i.verdict? <;> simp
  · rw [verdicts, stats]
    cases i.verdict? <;> simp [Stats.count_record, List.count_singleton]
  · simpa [keysOf, JournalEntry.eventKeys] using events key

/-- Up to its verdict a call counts nothing. -/
theorem uncounted_executed (i : Iteration σ) :
    (i.before.executed i.turn.children i.turn.worker).stats = i.before.stats ∧
      (i.before.executed i.turn.children i.turn.worker).events = i.before.events :=
  uncounted_execute i.turn.children i.case (i.before.staged i.turn.worker)

/-- Every call is counted as far as it comes. -/
theorem balanced_runOnce (i : Iteration σ) : Balanced [.call i] i.before i.after := by
  obtain ⟨sameStats, sameEvents⟩ := uncounted_executed i
  -- Without a verdict nothing is counted, and on a dull case no event is recorded.
  have unjudged {q : Pool σ} (none : i.verdict? = none) (noKeys : i.eventKeys = [])
      (stats : q.stats = i.before.stats) (events : q.events = i.before.events) :
      Balanced [.call i] i.before q :=
    balanced_call (by rw [events]) (by rw [none]; exact stats) (by simp [events, noKeys])
  have judged {q : Pool σ} {result : DualResult} (judged : i.fate = .judged result)
      (stats : q.stats = i.before.stats.record result.verdict)
      (logPath : q.events.path = i.before.events.path)
      (events : ∀ key, q.events.counts.count key = i.before.events.counts.count key +
        if i.before.events.accepts then
          ((findingEvents i.case result result.verdict).map Event.key).count key else 0) :
      Balanced [.call i] i.before q := by
    refine balanced_call logPath ?_ fun key => ?_
    · rw [Iteration.verdict?, judged]
      exact stats
    · rw [Iteration.eventKeys, judged]
      exact events key
  have dull {q : Pool σ} {result : DualResult} (fate : i.fate = .judged result)
      (dull : result.verdict = .uninteresting)
      (stats : q.stats = (i.before.counted i.turn.children i.turn.worker result).stats)
      (events : q.events = (i.before.counted i.turn.children i.turn.worker result).events) :
      Balanced [.call i] i.before q := by
    have events' : q.events = i.before.events := events.trans sameEvents
    refine judged fate (stats.trans (congrArg (Stats.record · _) sameStats)) (by rw [events']) ?_
    simp [events', dull, findingEvents]
  have worthy {q : Pool σ} {result : DualResult} (fate : i.fate = .judged result)
      (stats : q.stats = (i.before.recorded i.turn.children i.turn.worker result).2.stats)
      (events : q.events = (i.before.recorded i.turn.children i.turn.worker result).2.events) :
      Balanced [.call i] i.before q := by
    refine judged fate ?_ ?_ fun key => ?_
    · rw [stats]
      exact (stats_recordEvents _ _).trans (congrArg (Stats.record · _) sameStats)
    · rw [events]
      exact (confined_recordEvents _ _).logPath.trans (congrArg EventLog.path sameEvents)
    · rw [events, ← sameEvents]
      exact count_recordEvents _ key (i.before.counted i.turn.children i.turn.worker result)
  obtain ⟨answer, q, outcome, ends⟩ := exists_ends i.turn.children i.turn.worker i.before
  have after : i.after = q := congrArg Prod.snd outcome
  rw [after]
  cases ends with
  | unstaged unstaged =>
    have fate : i.fate = .unstaged _ := unstaged
    exact unjudged (by simp [Iteration.verdict?, fate]) (by simp [Iteration.eventKeys, fate]) rfl
      rfl
  | unrun unrun =>
    have fate : i.fate = .unrun _ := unrun
    exact unjudged (by simp [Iteration.verdict?, fate]) (by simp [Iteration.eventKeys, fate])
      sameStats sameEvents
  | undeleted fate isDull _ => exact dull fate isDull rfl rfl
  | discarded fate isDull _ => exact dull fate isDull rfl rfl
  | unrecorded fate _ _ => exact worthy fate rfl rfl
  | reported fate _ _ => exact worthy fate rfl rfl
  | halted fate _ _ => exact worthy fate rfl rfl

/-- A worker that gives up is counted as a failure. -/
theorem balanced_giveUp (p : Pool σ) (worker : Nat) (f : Failure) :
    Balanced [.gaveUp p worker f] p (p.giveUp worker f).2 := by
  have noted : Balanced [.gaveUp p worker f] p (p.failureNoted worker f) := by
    refine ⟨(confined_recordEvent _ _).logPath, rfl, fun v => ?_, rfl, fun key => ?_⟩
    · exact Stats.count_recordFailure p.stats v
    · exact count_recordEvent _ key { p with stats := p.stats.recordFailure }
  cases accepts : p.events.accepts with
  | true =>
    -- The report and the trace are not counted.
    rw [giveUp_of_accepts accepts]
    exact ⟨noted.logPath, noted.executed, noted.verdict, noted.failures, noted.events⟩
  | false =>
    rw [giveUp_of_refuses accepts]
    exact noted

theorem balanced_performAll {moves : List Move} (performed : Move.performAll moves p = some q) :
    Balanced (Move.journalOfAll moves p) p q := by
  refine performAll_induction (fun _ => .of_eq rfl rfl) Balanced.trans balanced_runOnce
    balanced_giveUp (fun p => ?_) (fun _ _ => .of_eq rfl rfl) performed
  have same : Balanced [] p p.stop := .of_eq rfl rfl
  exact ⟨same.logPath, same.executed, same.verdict, same.failures, same.events⟩

/-! ## How the accounts agree -/

/-- The statistics and the event log of a pool that has just been started are empty, so afterwards
they are those of the journal. -/
theorem Balanced.totals {given : RunSettings} {own : Nat → σ} (balanced : Balanced journal p q)
    (fresh : Fresh given own p) :
    q.stats.executed = (verdictsOf journal).length ∧
      (∀ v, q.stats.count v = (verdictsOf journal).count v) ∧
      q.stats.infrastructureErrors = journal.countP isGaveUp ∧
      ∀ key, q.events.counts.count key =
        if p.events.accepts then (keysOf journal).count key else 0 := by
  refine ⟨?_, fun v => ?_, ?_, fun key => ?_⟩
  · rw [balanced.executed, fresh.stats]
    exact Nat.zero_add _
  · rw [balanced.verdict, fresh.stats]
    cases v <;> exact Nat.zero_add _
  · rw [balanced.failures, fresh.stats]
    exact Nat.zero_add _
  · rw [balanced.events, fresh.events]
    exact Nat.zero_add _

variable {settings : RunSettings} {substitute : Bool} {sources : Nat → σ} {host h : Host}

/-- A journal has as many verdicts as calls that come to one. -/
theorem length_verdictsOf (journal : List (JournalEntry σ)) :
    (verdictsOf journal).length = (callsOf journal).countP fun i => i.verdict?.isSome := by
  unfold verdictsOf
  induction callsOf journal with
  | nil => rfl
  | cons i calls ih =>
    rw [List.flatMap_cons, List.length_append, ih, List.countP_cons, Nat.add_comm]
    cases i.verdict? <;> rfl

/-- A call adds a point only if its case is dull. On a dull case it adds none just if the file could
not be removed or the stream was closed. -/
theorem isPointed_le_dull (i : Iteration σ) :
    (if i.isPointed then 1 else 0) ≤ i.verdict?.toList.count .uninteresting ∧
      ((if i.isPointed then 1 else 0) = i.verdict?.toList.count .uninteresting ↔
        ∀ result, i.fate = .judged result → result.verdict = .uninteresting →
          i.removal result = .ok () ∧ i.silenced = false) := by
  unfold Iteration.isPointed Iteration.verdict?
  cases fate : i.fate with
  | judged result =>
    by_cases dull : result.verdict = .uninteresting
    · rcases removal : i.removal result with f | u <;> cases silenced : i.silenced <;>
        simp [dull, removal, Except.isOk, Except.toBool]
    · simp [dull]
  | unstaged f => simp
  | unrun f => simp

/-- The points of a story are at most as many as the dull cases, and fewer just if a file could not
be removed or the stream was closed. -/
theorem points_le_dull (calls : List (Iteration σ)) :
    calls.countP Iteration.isPointed ≤
        (calls.flatMap fun i => i.verdict?.toList).count .uninteresting ∧
      (calls.countP Iteration.isPointed =
          (calls.flatMap fun i => i.verdict?.toList).count .uninteresting ↔
        ∀ i ∈ calls, ∀ result, i.fate = .judged result → result.verdict = .uninteresting →
          i.removal result = .ok () ∧ i.silenced = false) := by
  induction calls with
  | nil => simp
  | cons i calls ih =>
    obtain ⟨fewer, exact⟩ := ih
    obtain ⟨fewer', exact'⟩ := isPointed_le_dull i
    rw [List.countP_cons, List.flatMap_cons, List.count_append, List.forall_mem_cons, ← exact,
      ← exact']
    omega

/-- How the four accounts of a run agree, whatever is done with a pool that has just been started.

* The counter says how many calls have been begun.
* The cases with a verdict are those with one of the five verdicts, and as many as the calls that
  come to a verdict.
* A log without a file, or with a path that the operating system can be asked about, has counted
  every finding and every failure of a worker. In a case with a verdict an unexpected exit is
  counted for each variant that has one, so once or twice. A log with another path has counted
  nothing.
* The progress stream tells a story with at most one point for each dull case. It has a point for
  every one of them if and only if the files of all these cases could be removed and the stream was
  open each time. -/
theorem books_performAll (started : start settings substitute sources host = (.ok p, h))
    {moves : List Move} (performed : Move.performAll moves p = some q) :
    ∃ calls story, calls = callsOf (Move.journalOfAll moves p) ∧
      story = told (storyOf (Move.journalOfAll moves p)) ∧
      q.counter.value = calls.length ∧
      q.stats.executed = q.stats.uninteresting + q.stats.baselineOnly + q.stats.candidateOnly +
        q.stats.bothCrashed + q.stats.unexpectedExits ∧
      q.stats.executed = calls.countP (fun i => i.verdict?.isSome) ∧
      ((∀ path ∈ settings.healthLog, hasNull path = false) →
        q.events.counts.count "finding.one_sided_crash" =
            q.stats.baselineOnly + q.stats.candidateOnly ∧
          q.events.counts.count "finding.both_crashed" = q.stats.bothCrashed ∧
          q.events.counts.count "execution.infrastructure_error" =
            q.stats.infrastructureErrors ∧
          q.events.counts.count "execution.unexpected_exit" =
            (calls.flatMap Iteration.surprises).length ∧
          q.stats.unexpectedExits ≤ q.events.counts.count "execution.unexpected_exit" ∧
          q.events.counts.count "execution.unexpected_exit" ≤ 2 * q.stats.unexpectedExits) ∧
      ((∃ path ∈ settings.healthLog, hasNull path = true) →
        ∀ key, q.events.counts.count key = 0) ∧
      q.host.out = p.host.out ++
        (if p.host.shared then shown true false (storyOf (Move.journalOfAll moves p))
          else textOf story) ∧
      story.countP isPoint ≤ q.stats.uninteresting ∧
      (story.countP isPoint = q.stats.uninteresting ↔
        ∀ i ∈ calls, ∀ result, i.fate = .judged result → result.verdict = .uninteresting →
          i.removal result = .ok () ∧ i.silenced = false) := by
  have fresh := fresh_of_start started
  have balanced := balanced_performAll performed
  obtain ⟨_, counter⟩ := (leads_performAll performed).identifiers
  obtain ⟨oneSided, both, failed, unexpected⟩ := count_keysOf (Move.journalOfAll moves p)
  obtain ⟨atLeast, atMost⟩ := length_surprisesOf (Move.journalOfAll moves p)
  obtain ⟨fewer, exact⟩ := points_le_dull (callsOf (Move.journalOfAll moves p))
  obtain ⟨executed, counts, failures, events⟩ := balanced.totals fresh
  have uninteresting := counts .uninteresting
  have baselineOnly := counts .baselineOnly
  have candidateOnly := counts .candidateOnly
  have bothCrashed := counts .bothCrashed
  have unexpectedExits := counts .unexpectedExit
  simp only [Stats.count] at uninteresting baselineOnly candidateOnly bothCrashed unexpectedExits
  have points : (told (storyOf (Move.journalOfAll moves p))).countP isPoint =
      (callsOf (Move.journalOfAll moves p)).countP Iteration.isPointed := by
    rw [← points_eq_countP_told, ← points_performAll performed, fresh.progress]
  refine ⟨_, _, rfl, rfl, ?_, ?_, ?_, fun asked => ?_, fun refusing key => ?_, ?_, ?_, ?_⟩
  · rw [counter, fresh.counter]
    exact Int.zero_add _
  · rw [executed, Verdict.length_eq_counts, uninteresting, baselineOnly, candidateOnly,
      bothCrashed, unexpectedExits]
  · rw [executed, length_verdictsOf]
  · have accepts : p.events.accepts = true := by
      rw [EventLog.accepts_iff, fresh.events]
      exact asked
    simp only [events, accepts, if_true, oneSided, both, failed, unexpected, baselineOnly,
      candidateOnly, bothCrashed, unexpectedExits, failures, true_and]
    exact ⟨rfl, atLeast, atMost⟩
  · obtain ⟨path, given, null⟩ := refusing
    have refuses : p.events.accepts = false := by
      rw [fresh.events, EventLog.accepts, given]
      simp [null]
    rw [events, refuses]
    rfl
  · rw [(tells_journal performed).out, fresh.progress]
    cases p.host.shared with
    | true => rfl
    | false => rw [shown_unshared]; rfl
  · rw [points, uninteresting]
    exact fewer
  · rw [points, uninteresting]
    exact exact

/-- A dull case, a crash on one side, a case that cannot be staged while everything is taken away,
and unexpected exits on both sides. -/
def variedMoves : List Move :=
  [.step (.once ⟨0, .exiting 1 1⟩), .step (.once ⟨1, .exiting 101 1⟩),
    .disturb fun fs => { fs with entries := [] }, .step (.run ⟨1, .exiting 1 1⟩ 2),
    .disturb fun fs => { fs with entries := [(["sbx"], .directory)] },
    .step (.once ⟨0, .exiting 42 42⟩)]

/-- The event log has counted two unexpected exits for the one verdict. -/
theorem books_of_varied_moves :
    ∃ q, Move.performAll variedMoves (small "/sbx" []) = some q ∧
      q.counter.value = 4 ∧ q.stats.executed = 3 ∧ q.stats.baselineOnly = 1 ∧
      q.stats.unexpectedExits = 1 ∧ q.stats.infrastructureErrors = 1 ∧
      q.events.counts.count "finding.one_sided_crash" = 1 ∧
      q.events.counts.count "execution.infrastructure_error" = 1 ∧
      q.events.counts.count "execution.unexpected_exit" = 2 := by
  obtain ⟨q, performed⟩ : ∃ q, Move.performAll variedMoves (small "/sbx" []) = some q := ⟨_, rfl⟩
  obtain ⟨calls, story, rfl, rfl, begun, _, judged, recorded, _⟩ :=
    books_performAll (start_small []) performed
  obtain ⟨oneSided, _, failures, unexpected, _⟩ := recorded (by simp [RunSettings.small])
  obtain ⟨baseline, candidate, exits, errors⟩ : q.stats.baselineOnly = 1 ∧
      q.stats.candidateOnly = 0 ∧ q.stats.unexpectedExits = 1 ∧
      q.stats.infrastructureErrors = 1 := by
    cases performed
    exact ⟨rfl, rfl, rfl, rfl⟩
  have calls : (callsOf (Move.journalOfAll variedMoves (small "/sbx" []))).length = 4 := rfl
  have verdicts : (callsOf (Move.journalOfAll variedMoves (small "/sbx" []))).countP
      (fun i => i.verdict?.isSome) = 3 := rfl
  have surprises : ((callsOf (Move.journalOfAll variedMoves (small "/sbx" []))).flatMap
      Iteration.surprises).length = 2 := rfl
  refine ⟨q, performed, ?_, judged.trans verdicts, baseline, exits, errors, ?_,
    failures.trans errors, unexpected.trans surprises⟩
  · rw [begun, calls]
    rfl
  · rw [oneSided, baseline, candidate]

/-- A log with a null character in its path refuses the event of a crash that has been counted. -/
theorem crash_uncounted_by_refusing_log :
    ∃ p h q, start (σ := Zeros)
        { RunSettings.small (.ofText "/sbx") with healthLog := some (.ofText "/sbx/h\x00") } false
        (fun _ => {}) (small "/sbx" []).host = (.ok p, h) ∧
      Move.performAll [.step (.once ⟨0, .exiting 101 1⟩)] p = some q ∧
      q.stats.baselineOnly + q.stats.candidateOnly = 1 ∧
      q.events.counts.count "finding.one_sided_crash" = 0 :=
  ⟨_, _, _, rfl, rfl, rfl, rfl⟩

end Pool

end Accounts

end CrashDiff
