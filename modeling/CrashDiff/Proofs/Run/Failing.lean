import CrashDiff.Proofs.Run.Books
import CrashDiff.Proofs.Run.Halting

/-!
# Calls that fail

A call can fail when the file of its case is written, when a variant is run, when a finding is
recorded, and when the file is removed. Unless it fails on a finding it has told and recorded
nothing, and has touched no file but that of its case.

Results:
1. `failing_cases`: where a call fails.
2. `holds_source_executed`: what is at the path of a case that children have left alone.
3. `failing_runOnce`: what a call that fails leaves behind.
-/

namespace CrashDiff

open FileSystem

namespace Pool

variable {σ : Type} [DrawSource σ] {q : Pool σ} {i : Iteration σ} {f : Failure}

/-- A call that does not fail on a finding fails when the file of its case is written, when a
variant is run, or when the file is removed. -/
theorem failing_cases (failed : i.before.runOnce i.turn.children i.turn.worker = (.error f, q))
    (dull : ∀ result, i.fate = .judged result → result.verdict = .uninteresting) :
    i.fate = .unstaged f ∧ q = i.before.staged i.turn.worker ∨
      i.fate = .unrun f ∧ q = i.before.executed i.turn.children i.turn.worker ∨
      ∃ result, i.fate = .judged result ∧ i.removal result = .error f ∧
        q = (i.before.discarded i.turn.children i.turn.worker result).2 := by
  obtain ⟨answer, r, outcome, ends⟩ := exists_ends i.turn.children i.turn.worker i.before
  rw [failed] at outcome
  cases outcome
  cases ends with
  | unstaged fate => exact Or.inl ⟨fate, rfl⟩
  | unrun fate => exact Or.inr (Or.inl ⟨fate, rfl⟩)
  | undeleted fate _ removal => exact Or.inr (Or.inr ⟨_, fate, removal, rfl⟩)
  | unrecorded fate worthy _ => exact absurd (dull _ fate) worthy

/-- Nothing is staged by a call that fails to write its file. -/
theorem files_staged_of_unstaged (unstaged : i.fate = .unstaged f) :
    (i.before.staged i.turn.worker).host.files = i.before.host.files := by
  rcases staged_cases i.turn.children i.turn.worker i.before with
    ⟨_, _, same⟩ | ⟨_, _, _, _, stages, _⟩
  · rw [same]
  · exact absurd unstaged (stages f)

/-- If no child has removed the file of a staged case, the path of the case leads to its source
after the runs. -/
theorem holds_source_executed (stages : ∀ f, i.fate ≠ .unstaged f)
    (keeps : ∀ s ∈ i.launches, (i.turn.children i.case s.variant).removesSource = false) :
    ∃ l, (i.before.executed i.turn.children i.turn.worker).host.files.resolve i.case.path = .ok l ∧
      (i.before.executed i.turn.children i.turn.worker).host.files.contents? l =
        some i.case.source := by
  rcases staged_cases i.turn.children i.turn.worker i.before with
    ⟨f, unstaged, _⟩ | ⟨l, _, place, other, _, staged⟩
  · exact absurd unstaged (stages f)
  rw [Iteration.launches_of_staged stages] at keeps
  have same : (i.before.executed i.turn.children i.turn.worker).host.files =
      (i.before.staged i.turn.worker).host.files := files_execute_of_keeping keeps
  have holds : (i.before.staged i.turn.worker).host.files.lookup l =
      some (.file i.case.source) := by
    rw [staged]
    exact lookup_put_self (ne_nil_of_not_directory other)
  refine ⟨l, ?_, by rw [same, contents?_eq_some, holds]⟩
  rw [same]
  refine (resolve_child_iff (Source.fileName_ne_parent _)).mpr ⟨?_, by simp [holds]⟩
  exact (confined_staged i.turn.worker i.before).isPlace_iff.mpr place

/-- A call that fails when the file of its case is written, when a variant is run, or when the file
is removed.

* It prints nothing, and it neither closes the progress stream nor sets the halt flag, unless a
  child stops the run meanwhile.
* It counts and writes no event, and takes one number.
* It touches no file but the one that the path of its case leads to.
* If the file could not be written, no file and no count has changed. If a variant could not be run,
  no count has changed, and the path of the case leads to its source unless a child has removed it.
  If the file could not be removed, the case has been counted as a dull one. -/
theorem failing_runOnce
    (failed : i.before.runOnce i.turn.children i.turn.worker = (.error f, q))
    (dull : ∀ result, i.fate = .judged result → result.verdict = .uninteresting) :
    q.host.out = i.before.host.out ∧
      q.progress.closed = (i.before.progress.closed || i.stopped) ∧
      q.halted = (i.before.halted || i.stopped) ∧
      q.events = i.before.events ∧
      q.counter.value = i.before.counter.value + 1 ∧
      (∀ l, ¬ i.before.host.files.IsPlace i.case.path l →
        q.host.files.lookup l = i.before.host.files.lookup l) ∧
      (i.fate = .unstaged f ∧ q.host.files = i.before.host.files ∧ q.stats = i.before.stats ∨
        (i.fate = .unrun f ∧ q.stats = i.before.stats ∧
          ((∀ s ∈ i.launches, (i.turn.children i.case s.variant).removesSource = false) →
            ∃ l, q.host.files.resolve i.case.path = .ok l ∧
              q.host.files.contents? l = some i.case.source)) ∨
        ∃ result, i.fate = .judged result ∧ i.removal result = .error f ∧
          q.stats = { i.before.stats with
            executed := i.before.stats.executed + 1
            uninteresting := i.before.stats.uninteresting + 1 }) := by
  have counter : q.counter.value = i.before.counter.value + 1 := by
    have next := counter_runOnce i.turn.children i.turn.worker i.before
    rw [failed] at next
    rw [next]
    rfl
  obtain ⟨sameStats, sameEvents⟩ := uncounted_executed i
  rcases failing_cases failed dull with ⟨fate, rfl⟩ | ⟨fate, rfl⟩ | ⟨result, fate, removal, rfl⟩
  · have same := files_staged_of_unstaged fate
    rw [Iteration.stopped_of_unstaged fate, Bool.or_false, Bool.or_false]
    exact ⟨rfl, rfl, rfl, rfl, counter, fun l _ => by rw [same], Or.inl ⟨fate, same, rfl⟩⟩
  · have stages : ∀ f, i.fate ≠ .unstaged f := by simp [fate]
    exact ⟨out_executed _ _ _, closed_executed stages, halted_executed stages, sameEvents, counter,
      (confined_executed _ _ _).elsewhere, Or.inr (Or.inl ⟨fate, sameStats,
        holds_source_executed stages⟩)⟩
  · have stages : ∀ f, i.fate ≠ .unstaged f := by simp [fate]
    refine ⟨out_discarded _ _ _ _, closed_executed stages, halted_executed stages, sameEvents,
      counter, (confined_discarded _ _ _ _).elsewhere, Or.inr (Or.inr ⟨result, fate, removal, ?_⟩)⟩
    have counted : (i.before.discarded i.turn.children i.turn.worker result).2.stats =
        (i.before.executed i.turn.children i.turn.worker).stats.record result.verdict := rfl
    rw [counted, sameStats, dull result fate]
    rfl

/-- Children of which the candidate cannot be run; it may stop the run on top of that. -/
def withoutCandidate (stopsRun : Bool) : Children := fun _ v =>
  if v.name = "baseline" then { ending := .exited (some 1) }
  else { ending := .failed (.withText .os "no compiler"), stopsRun := stopsRun }

theorem removesSource_withoutCandidate (stopsRun : Bool) (case : TestCase) (v : Variant) :
    (withoutCandidate stopsRun case v).removesSource = false := by
  unfold withoutCandidate
  split <;> rfl

/-- The case is left for a look at it, and nothing else has become of the call. -/
theorem failing_without_candidate :
    ∃ q, (small "/sbx" []).runOnce (withoutCandidate false) 0 =
        (.error (.withText .os "no compiler"), q) ∧
      q.host.out = "" ∧ q.halted = false ∧ q.progress.closed = false ∧ q.events = {} ∧
      q.counter.value = 1 ∧ q.stats = {} ∧
      ∃ l, q.host.files.resolve ((small "/sbx" []).caseOf 0).path = .ok l ∧
        q.host.files.contents? l = some ((small "/sbx" []).caseOf 0).source := by
  have fate : Iteration.fate ⟨small "/sbx" [], ⟨0, withoutCandidate false⟩⟩ =
      .unrun (.withText .os "no compiler") := rfl
  obtain ⟨q, failed⟩ : ∃ q, (small "/sbx" []).runOnce (withoutCandidate false) 0 =
      (.error (.withText .os "no compiler"), q) := ⟨_, rfl⟩
  obtain ⟨out, closed, halted, events, counter, _, place⟩ :=
    @failing_runOnce Zeros _ q ⟨small "/sbx" [], ⟨0, withoutCandidate false⟩⟩ _ failed
      fun result judged => by rw [fate] at judged; cases judged
  rcases place with ⟨unstaged, _⟩ | ⟨_, stats, holds⟩ | ⟨result, judged, _⟩
  · rw [fate] at unstaged
    cases unstaged
  · exact ⟨q, failed, out, halted, closed, events, counter, stats, holds fun s _ =>
      removesSource_withoutCandidate false ((small "/sbx" []).caseOf 0) s.variant⟩
  · rw [fate] at judged
    cases judged

/-- A stop of the run by a child takes effect even if the call fails, and an event log at the path
of the case is replaced by its source. -/
theorem not_unchanged_by_failing_call :
    (∃ q, (small "/sbx" []).runOnce (withoutCandidate true) 0 =
        (.error (.withText .os "no compiler"), q) ∧
      (small "/sbx" []).halted = false ∧ q.halted = true ∧
      (small "/sbx" []).progress.closed = false ∧ q.progress.closed = true) ∧
    ∃ p h q, start (σ := Zeros)
        { RunSettings.small (.ofText "/sbx") with healthLog := some (.ofText "/sbx/fuzz0.rs") }
        false (fun _ => {}) (small "/sbx" [(["fuzz0.rs", "sbx"], .file "\x7b\x7d\n")]).host =
          (.ok p, h) ∧
      p.runOnce (withoutCandidate false) 0 = (.error (.withText .os "no compiler"), q) ∧
      p.host.files.contents? ["fuzz0.rs", "sbx"] = some "\x7b\x7d\n" ∧
      q.host.files.contents? ["fuzz0.rs", "sbx"] ≠ some "\x7b\x7d\n" :=
  ⟨⟨_, rfl, rfl, rfl, rfl, rfl⟩, _, _, _, rfl, rfl, rfl, by decide +kernel⟩

end Pool

end CrashDiff
