import CrashDiff.Proofs.Run.Account
import CrashDiff.Proofs.Run.Books
import CrashDiff.Proofs.Run.Trail
import Mathlib.Data.List.Nodup

/-!
# The order of what is recorded

Verdicts, failures and events are counted as they come, from any number of workers and in any
interleaving. The counters are tallies of what was recorded, whatever became of the log file on the
way, and only the events are kept in the order of their first occurrence. The summary sorts them, so
it does not show in which order anything was recorded.

Results:
1. `IsTally.enterAll`: the books are tallies of what has been entered.
2. `IsTally.agree`: what two books for the same postings in two orders have in common.
3. `Json.sortKeys_eq_of_perm`: sorting by distinct keys forgets the order.
4. `summary_of_perm`: the summaries of both are the same.
-/

namespace CrashDiff

/-- Something that is recorded in the course of a run. -/
inductive Posting where
  | verdict (v : Verdict)
  | failure
  | event (e : Event)

namespace Posting

/-- The verdict of an entry for one. -/
def verdict? : Posting → Option Verdict
  | .verdict v => some v
  | _ => none

/-- Whether an entry is for a failure that stopped a worker. -/
def isFailure : Posting → Bool
  | .failure => true
  | _ => false

/-- The key of an entry for an event. -/
def key? : Posting → Option String
  | .event e => some e.key
  | _ => none

end Posting

/-- When an entry is made: the time, and what has happened to the files since the one before. -/
structure Moment where
  time : String
  since : FileSystem → FileSystem

/-- What a run records in: its counters, its event log, and the files that hold the log. -/
structure Ledger where
  stats : Stats := {}
  log : EventLog
  files : FileSystem

namespace Ledger

/-- Makes an entry. A refusal of the event log does not keep anything else from being recorded. -/
def enter (l : Ledger) : Posting × Moment → Ledger
  | (.verdict v, _) => { l with stats := l.stats.record v }
  | (.failure, _) => { l with stats := l.stats.recordFailure }
  | (.event e, moment) =>
    let (_, log, files) := l.log.record moment.time e (moment.since l.files)
    { l with log := log, files := files }

/-- Makes postings one after the other. -/
def enterAll (run : List (Posting × Moment)) (l : Ledger) : Ledger :=
  run.foldl enter l

/-- The summary of a run with these books. -/
def summary (reason : String) (duration : Double) (l : Ledger) :
    Except Summary.SummaryError String :=
  Summary.render reason duration l.stats.fields (EventCounts.fields l.log.counts)

/-- Books without an entry. -/
def fresh (path : Option Path) (files : FileSystem) : Ledger :=
  { log := { path := path }, files := files }

/-! ## Tallies -/

/-- The books hold as many of each kind as there are postings of it; an event log that refuses its
events counts none of them. -/
structure IsTally (postings : List Posting) (l : Ledger) : Prop where
  executed : l.stats.executed = (postings.filterMap Posting.verdict?).length
  verdicts : ∀ v, l.stats.count v = (postings.filterMap Posting.verdict?).count v
  failures : l.stats.infrastructureErrors = postings.countP Posting.isFailure
  events : l.log.counts =
    EventCounts.addAll (if l.log.accepts then postings.filterMap Posting.key? else []) []

variable {postings : List Posting} {l : Ledger}

/-- What becomes of the counts depends on whether the log takes events. -/
theorem record_snd (log : EventLog) (time : String) (e : Event) (fs : FileSystem) :
    (log.record time e fs).2.1 =
      { log with counts := if log.accepts then log.counts.add e.key else log.counts } := by
  have written := EventLog.writeLine_fst log (e.line time) fs
  unfold EventLog.record
  rcases line : log.writeLine (e.line time) fs with ⟨result, files⟩
  rw [line] at written
  split at written
  · cases written
    simp_all
  · cases written
    simp_all

theorem addAll_concat (keys : List String) (key : String) :
    EventCounts.addAll (keys ++ [key]) [] = (EventCounts.addAll keys []).add key := by
  simp [EventCounts.addAll]

theorem log_enter_event (l : Ledger) (e : Event) (moment : Moment) :
    (l.enter (.event e, moment)).log = { l.log with
      counts := if l.log.accepts then l.log.counts.add e.key else l.log.counts } :=
  record_snd l.log moment.time e (moment.since l.files)

/-- One more posting is one more in the tally. -/
theorem IsTally.enter (tally : l.IsTally postings) (posting : Posting) (moment : Moment) :
    (l.enter (posting, moment)).IsTally (postings ++ [posting]) := by
  obtain ⟨executed, verdicts, failures, events⟩ := tally
  cases posting with
  | verdict v =>
    refine ⟨?_, fun other => ?_, ?_, ?_⟩
    · simp [Ledger.enter, executed, Posting.verdict?]
    · simp [Ledger.enter, Stats.count_record, verdicts, Posting.verdict?, List.count_singleton]
    · simp [Ledger.enter, failures, Posting.isFailure]
    · simpa [Ledger.enter, List.filterMap_cons, Posting.key?] using events
  | failure =>
    refine ⟨?_, fun other => ?_, ?_, ?_⟩
    · simpa [Ledger.enter, Stats.recordFailure, List.filterMap_cons, Posting.verdict?]
        using executed
    · simpa [Ledger.enter, List.filterMap_cons, Posting.verdict?] using verdicts other
    · simp [Ledger.enter, Stats.recordFailure, failures, Posting.isFailure]
    · simpa [Ledger.enter, List.filterMap_cons, Posting.key?] using events
  | event e =>
    refine ⟨?_, fun other => ?_, ?_, ?_⟩
    · simpa [Ledger.enter, List.filterMap_cons, Posting.verdict?] using executed
    · simpa [Ledger.enter, List.filterMap_cons, Posting.verdict?] using verdicts other
    · simpa [Ledger.enter, Posting.isFailure] using failures
    · have same : (l.enter (.event e, moment)).log.accepts = l.log.accepts := by
        rw [log_enter_event]
        rfl
      rw [same, log_enter_event]
      cases accepts : l.log.accepts with
      | true =>
        rw [accepts, if_pos rfl] at events
        simp [events, Posting.key?, addAll_concat]
      | false =>
        rw [accepts, if_neg Bool.false_ne_true] at events
        simp [events]

/-- A run of postings is put into the tally. -/
theorem IsTally.enterAll (tally : l.IsTally postings) (run : List (Posting × Moment)) :
    (l.enterAll run).IsTally (postings ++ run.map Prod.fst) := by
  induction run generalizing l postings with
  | nil => simpa [Ledger.enterAll] using tally
  | cons first rest ih =>
    have later := ih (tally.enter first.1 first.2)
    rw [List.append_assoc] at later
    exact later

theorem isTally_fresh (path : Option Path) (files : FileSystem) :
    (fresh path files).IsTally [] where
  executed := rfl
  verdicts v := by cases v <;> rfl
  failures := rfl
  events := by
    rw [List.filterMap_nil, ite_self]
    rfl

/-! ## Two orders -/

theorem stats_ext {s s' : Stats} (executed : s.executed = s'.executed)
    (verdicts : ∀ v, s.count v = s'.count v)
    (failures : s.infrastructureErrors = s'.infrastructureErrors) : s = s' := by
  cases s
  cases s'
  simp only [Stats.mk.injEq]
  exact ⟨executed, verdicts .uninteresting, verdicts .baselineOnly, verdicts .candidateOnly,
    verdicts .bothCrashed, verdicts .unexpectedExit, failures⟩

/-- The same keys in another order are counted alike, though perhaps not in the same places. -/
theorem perm_addAll {keys keys' : List String} (perm : keys.Perm keys') :
    (EventCounts.addAll keys []).Perm (EventCounts.addAll keys' []) := by
  have distinct (keys : List String) : (EventCounts.addAll keys []).Nodup :=
    (EventCounts.isTally_nil.addAll keys).distinct.of_map
  refine (List.perm_ext_iff_of_nodup (distinct keys) (distinct keys')).mpr fun e => ?_
  obtain ⟨key, n⟩ := e
  rw [EventCounts.mem_addAll_iff, EventCounts.mem_addAll_iff, perm.count_eq]

/-- What two tallies of the same postings have in common. -/
theorem IsTally.agree {l l' : Ledger} {postings postings' : List Posting}
    (tally : l.IsTally postings) (tally' : l'.IsTally postings')
    (perm : postings.Perm postings') (same : l.log.accepts = l'.log.accepts) :
    l.stats = l'.stats ∧ l.log.counts.Perm l'.log.counts := by
  have verdicts := perm.filterMap Posting.verdict?
  constructor
  · refine stats_ext ?_ (fun v => ?_) ?_
    · rw [tally.executed, tally'.executed, verdicts.length_eq]
    · rw [tally.verdicts, tally'.verdicts, verdicts.count_eq]
    · rw [tally.failures, tally'.failures, perm.countP_eq]
  · rw [tally.events, tally'.events, same]
    split
    · exact perm_addAll (perm.filterMap Posting.key?)
    · exact .refl _

end Ledger

/-- Entries with distinct keys are sorted into the same order, wherever each of them stood. -/
theorem Json.sortKeys_eq_of_perm {fields fields' : List (String × Json)}
    (perm : fields.Perm fields') (distinct : (fields.map Prod.fst).Nodup) :
    sortKeys fields = sortKeys fields' := by
  refine List.Perm.eq_of_pairwise ?_ (pairwise_sortKeys fields) (pairwise_sortKeys fields')
    ((sortKeys_perm fields).trans (perm.trans (sortKeys_perm fields').symm))
  intro a b inside inside' low high
  have key : a.1 = b.1 := String.le_antisymm low high
  exact List.inj_on_of_nodup_map distinct ((sortKeys_perm fields).mem_iff.mp inside)
    (perm.mem_iff.mpr ((sortKeys_perm fields').mem_iff.mp inside')) key

namespace Ledger

/-- Sorted counts depend on the tally alone. -/
theorem sortKeys_counts {counts counts' : EventCounts} (perm : counts.Perm counts')
    (distinct : (counts.map Prod.fst).Nodup) :
    Json.sortKeys counts.fields = Json.sortKeys counts'.fields := by
  refine Json.sortKeys_eq_of_perm (perm.map _) ?_
  rw [EventCounts.fields, List.map_map]
  exact distinct

theorem accepts_enter (l : Ledger) (posting : Posting × Moment) :
    (l.enter posting).log.accepts = l.log.accepts := by
  obtain ⟨posting, moment⟩ := posting
  cases posting with
  | verdict v => rfl
  | failure => rfl
  | event e =>
    rw [log_enter_event]
    rfl

theorem accepts_enterAll (run : List (Posting × Moment)) (l : Ledger) :
    (l.enterAll run).log.accepts = l.log.accepts := by
  induction run generalizing l with
  | nil => rfl
  | cons first rest ih => exact (ih (l.enter first)).trans (accepts_enter l first)

/-- Two runs in which the same was recorded, in different orders, at different times and over
different files, have the same summary. Their books are tallies of what was recorded, and there is a
summary if that is less than two to the power of 1023 postings. -/
theorem summary_of_perm {run run' : List (Posting × Moment)} {path path' : Option Path}
    (perm : (run.map Prod.fst).Perm (run'.map Prod.fst))
    (alike : ({ path := path } : EventLog).accepts = ({ path := path' } : EventLog).accepts)
    (files files' : FileSystem) (reason : String) (duration : Double) :
    ((fresh path files).enterAll run).IsTally (run.map Prod.fst) ∧
      ((fresh path files).enterAll run).summary reason duration =
        ((fresh path' files').enterAll run').summary reason duration ∧
      (run.length < Number.twoTo 1023 →
        ∃ text, ((fresh path files).enterAll run).summary reason duration = .ok text) := by
  have tally := (isTally_fresh path files).enterAll run
  have tally' := (isTally_fresh path' files').enterAll run'
  have same : ((fresh path files).enterAll run).log.accepts =
      ((fresh path' files').enterAll run').log.accepts := by
    rw [accepts_enterAll, accepts_enterAll]
    exact alike
  obtain ⟨stats, counts⟩ := tally.agree tally' perm same
  refine ⟨tally, ?_, fun few => ?_⟩
  · have distinct : (((fresh path files).enterAll run).log.counts.map Prod.fst).Nodup := by
      rw [tally.events]
      exact (EventCounts.isTally_nil.addAll _).distinct
    unfold summary Summary.render Summary.assembled
    rw [stats, sortKeys_counts counts distinct]
  · have executed : ((fresh path files).enterAll run).stats.executed < Number.twoTo 1023 := by
      rw [tally.executed]
      refine lt_of_le_of_lt (List.length_filterMap_le _ _) ?_
      simpa using few
    obtain ⟨perSecond, rated⟩ := Summary.exists_rate (n := Summary.executed
      ((fresh path files).enterAll run).stats.fields) executed duration
    exact Summary.exists_render rated reason _

/-- A case that crashed both compilers, the event of it, and the failure of a worker. -/
def crashThenFailure : List (Posting × Moment) :=
  let now : Moment := ⟨"12:00", fun fs => fs⟩
  [(.verdict .bothCrashed, now), (.event (.bothCrashed 0 ⟨.root, ["fuzz0.rs"]⟩), now),
    (.failure, now), (.event (.infrastructureError 1 "OSError()"), now)]

/-- Backwards, the counts of the events stand in another order, and the summary is the same. -/
theorem summary_of_backwards :
    (crashThenFailure.map Prod.fst).Perm (crashThenFailure.reverse.map Prod.fst) ∧
      ((fresh none {}).enterAll crashThenFailure).log.counts ≠
        ((fresh none {}).enterAll crashThenFailure.reverse).log.counts ∧
      ((fresh none {}).enterAll crashThenFailure).summary "Completed" .zero =
        ((fresh none {}).enterAll crashThenFailure.reverse).summary "Completed" .zero := by
  have perm : (crashThenFailure.map Prod.fst).Perm (crashThenFailure.reverse.map Prod.fst) :=
    (List.reverse_perm crashThenFailure).symm.map Prod.fst
  exact ⟨perm, by decide, (summary_of_perm perm rfl {} {} "Completed" .zero).2.1⟩

end Ledger

end CrashDiff
