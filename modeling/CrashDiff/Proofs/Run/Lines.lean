import CrashDiff.Proofs.Files.Path
import CrashDiff.Proofs.Run.Ending

/-!
# Lines of reports

A report is made of the names of the variants, the path of a case, and of numbers. So it is a single
line whenever the names and the scratch directory are.

Results:
1. `variants_of_judged`: a verdict is on the two variants of the settings.
2. `oneLine_reportOf`, `oneLine_failureLine`: reports are single lines.
-/

namespace CrashDiff

open Text

/-- The names in the reports of a run have no line feed in them. -/
structure RunSettings.OnOneLine (s : RunSettings) : Prop where
  scratchDir : OneLine s.execution.scratchDir.toText
  baseline : OneLine s.execution.baseline.name
  candidate : OneLine s.execution.candidate.name

/-! ## Lines of reports -/

namespace Report

theorem oneLine_codeText (code : Option Int) : OneLine (Outcome.codeText code) := by
  cases code with
  | none => decide
  | some n => exact oneLine_numeral n

theorem oneLine_detail {result : DualResult} (baseline : OneLine result.baseline.variant.name)
    (candidate : OneLine result.candidate.variant.name) : OneLine (detail result) := by
  unfold detail
  rw [oneLine_intercalate_iff (by decide)]
  intro part member
  obtain ⟨r, inBoth, rfl⟩ := List.mem_map.mp member
  have name : OneLine r.variant.name := by
    rcases List.mem_cons.mp (List.mem_filter.mp inBoth).1 with rfl | later
    · exact baseline
    · rw [List.mem_singleton.mp later]
      exact candidate
  simp only [oneLine_append]
  exact ⟨⟨name, by decide⟩, oneLine_codeText r.code⟩

/-- A report has no line feed in it if the names in it have none. -/
theorem oneLine_lineOf {result : DualResult} {path : Path} (verdict : Verdict) (identifier : Int)
    (place : OneLine path.toText) (baseline : OneLine result.baseline.variant.name)
    (candidate : OneLine result.candidate.variant.name) :
    OneLine (lineOf verdict identifier path result) := by
  have empty : OneLine "" := by decide
  have label : ∀ text, label? result.baseline.variant.name result.candidate.variant.name verdict =
      some text → OneLine text := by
    intro text found
    cases verdict with
    | uninteresting => cases found
    | baselineOnly =>
      cases found
      simp only [oneLine_append]
      exact ⟨⟨by decide, baseline⟩, by decide⟩
    | candidateOnly =>
      cases found
      simp only [oneLine_append]
      exact ⟨⟨by decide, candidate⟩, by decide⟩
    | bothCrashed =>
      cases found
      decide
    | unexpectedExit =>
      cases found
      decide
  have extra : OneLine (if verdict = .unexpectedExit then detail result else "") := by
    split
    · exact oneLine_detail baseline candidate
    · exact empty
  unfold lineOf line?
  generalize (if verdict = .unexpectedExit then detail result else "") = shown at extra
  cases found : label? result.baseline.variant.name result.candidate.variant.name verdict with
  | none => exact empty
  | some text =>
    simp only [Option.map_some, Option.getD_some, oneLine_append]
    refine ⟨⟨⟨⟨⟨label text found, by decide⟩, oneLine_numeral identifier⟩, by decide⟩, place⟩, ?_⟩
    split
    · exact empty
    · simp only [oneLine_append]
      exact ⟨⟨by decide, extra⟩, by decide⟩

end Report

theorem Pool.oneLine_failureLine (worker : Nat) (f : Failure) :
    OneLine (Pool.failureLine worker f) := by
  have number := oneLine_append.mpr
    ⟨show OneLine "[!!!] Worker " by decide, oneLine_numeral worker⟩
  have cause := oneLine_append.mpr
    ⟨number, show OneLine " stopped by an infrastructure error: " by decide⟩
  exact oneLine_append.mpr ⟨cause, f.oneLine_shown⟩

/-! ## The variants of results -/

namespace Pool

variable {σ : Type} {children : Children} {case : TestCase} {p : Pool σ}

theorem variant_of_runVariant {v : Variant} {result : VariantResult}
    (ran : (p.runVariant children case v).1 = .ok result) : result.variant = v := by
  unfold runVariant at ran
  dsimp only at ran
  rcases launched : p.launch case v (children case v) with ⟨answer, q⟩
  rw [launched] at ran
  cases answer with
  | error f => cases ran
  | ok u =>
    have own (code : Option Int) : (q.resultOf v (children case v) code).variant = v := by
      unfold resultOf
      split <;> rfl
    dsimp only at ran
    split at ran
    · cases ran
    · split at ran
      · cases ran
        exact own _
      · cases ran
        exact own _

/-- The results of a case are those of the two variants of the settings. -/
theorem variants_of_execute {result : DualResult}
    (ran : (p.execute children case).1 = .ok result) :
    result.baseline.variant = p.settings.execution.baseline ∧
      result.candidate.variant = p.settings.execution.candidate := by
  unfold execute ExecutionSettings.runBoth at ran
  dsimp only at ran
  rcases first : p.runVariant children case p.settings.execution.baseline with ⟨answer, q⟩
  rw [first] at ran
  cases answer with
  | error f => cases ran
  | ok baseline =>
    dsimp only at ran
    rcases second : q.runVariant children case p.settings.execution.candidate with ⟨answer, r⟩
    rw [second] at ran
    cases answer with
    | error f => cases ran
    | ok candidate =>
      cases ran
      exact ⟨variant_of_runVariant (congrArg Prod.fst first),
        variant_of_runVariant (congrArg Prod.fst second)⟩

variable [DrawSource σ] {worker : Nat}

theorem variants_of_judged {result : DualResult}
    (judged : p.fate children worker = .judged result) :
    result.baseline.variant = p.settings.execution.baseline ∧
      result.candidate.variant = p.settings.execution.candidate := by
  have settings : (p.staged worker).settings = p.settings := (confined_staged worker p).settings
  rw [← settings]
  unfold fate at judged
  split at judged
  · cases judged
  · split at judged
    · cases judged
    · rename_i ran
      cases judged
      exact variants_of_execute ran

theorem oneLine_reportOf {result : DualResult} (judged : p.fate children worker = .judged result)
    (single : p.settings.OnOneLine) : OneLine (p.reportOf worker result) := by
  obtain ⟨baseline, candidate⟩ := variants_of_judged judged
  refine Report.oneLine_lineOf _ _ ?_ (baseline ▸ single.baseline) (candidate ▸ single.candidate)
  rw [caseOf_path, Path.oneLine_toText_iff]
  intro name member
  rcases List.mem_append.mp member with directory | file
  · exact Path.oneLine_toText_iff.mp single.scratchDir name directory
  · rw [List.mem_singleton.mp file]
    exact Source.oneLine_fileName _

end Pool

end CrashDiff
