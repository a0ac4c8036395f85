import CrashDiff.Proofs.Run.Compilation

/-!
# The contract of exit codes

Settings promise that the crash code means a crash, that the normal codes and the ends by a signal
mean none, and that every other code is unexpected. A signal is looked for first. So the promise is
kept by settings with a crash code that is not negative, and by no others: a negative crash code is
accepted, but never seen.

Results:
1. `ofCode_eq_crashed_iff`, `ofCode_eq_notCrashed_iff`, `ofCode_eq_promised_iff`: what an exit code
   means, and when it means what is promised.
2. `ofCodes_eq_promised`, `ofCodes_of_negative`, `ofCodes_swap`: the verdict on two exit codes.
3. `judged_codes`: the verdict of a call is the one on the exit codes of its children.
4. `contract_of_accept`: the contract of accepted settings.
-/

namespace CrashDiff

/-! ## Outcomes -/

namespace Outcome

variable {s : ExecutionSettings} {code : Option Int}

/-- The outcome that settings promise for an exit code. -/
def promised (s : ExecutionSettings) (code : Option Int) : Outcome :=
  if code = some s.crashCode then .crashed
  else
    match code with
    | none => .notCrashed
    | some n => if n < 0 ∨ n ∈ s.normalCodes then .notCrashed else .unexpected

theorem ofCode_eq_crashed_iff :
    ofCode s code = .crashed ↔ code = some s.crashCode ∧ 0 ≤ s.crashCode := by
  cases code with
  | none => simp [ofCode]
  | some n =>
    unfold ofCode
    dsimp only
    split_ifs with signal crash normal
    · simp only [Option.some.injEq, false_iff]
      rintro ⟨rfl, notNegative⟩
      exact absurd signal (Int.not_lt.mpr notNegative)
    · subst crash
      simpa using signal
    · simp [crash]
    · simp [crash]

theorem ofCode_eq_notCrashed_iff (valid : s.Valid) :
    ofCode s code = .notCrashed ↔
      code = none ∨ ∃ n, code = some n ∧ (n < 0 ∨ n ∈ s.normalCodes) := by
  cases code with
  | none => simp [ofCode]
  | some n =>
    unfold ofCode
    dsimp only
    split_ifs with signal crash normal
    · simp [signal]
    · subst crash
      simp [signal, valid.crashCode_distinct]
    · simp [normal]
    · simp [signal, normal]

theorem promised_eq_crashed_iff : promised s code = .crashed ↔ code = some s.crashCode := by
  unfold promised
  split_ifs with crash
  · simp [crash]
  · cases code with
    | none => simp
    | some n =>
      dsimp only
      split <;> simp [crash]

/-- An exit code that is not the crash code means what is promised. -/
theorem ofCode_eq_promised (other : code ≠ some s.crashCode) : ofCode s code = promised s code := by
  unfold promised
  rw [if_neg other]
  cases code with
  | none => rfl
  | some n =>
    have notCrash : n ≠ s.crashCode := fun same => other (congrArg some same)
    unfold ofCode
    by_cases signal : n < 0 <;> by_cases normal : n ∈ s.normalCodes <;>
      simp [signal, normal, notCrash]

/-- Exit codes mean what is promised just if the crash code is not negative. -/
theorem ofCode_eq_promised_iff :
    (∀ code, ofCode s code = promised s code) ↔ 0 ≤ s.crashCode := by
  constructor
  · intro kept
    have crash : promised s (some s.crashCode) = .crashed := promised_eq_crashed_iff.mpr rfl
    exact (ofCode_eq_crashed_iff.mp ((kept _).trans crash)).2
  · intro notNegative code
    by_cases crash : code = some s.crashCode
    · rw [promised_eq_crashed_iff.mpr crash]
      exact ofCode_eq_crashed_iff.mpr ⟨crash, notNegative⟩
    · exact ofCode_eq_promised crash

end Outcome

/-! ## Verdicts -/

namespace Verdict

variable {s : ExecutionSettings}

/-- The verdict on the exit codes of the baseline and the candidate. -/
def ofCodes (s : ExecutionSettings) (baseline candidate : Option Int) : Verdict :=
  ofOutcomes (.ofCode s baseline) (.ofCode s candidate)

/-- The verdict that settings promise: it depends on which variants end with the crash code, unless
an exit code is unexpected. -/
def promised (s : ExecutionSettings) (baseline candidate : Option Int) : Verdict :=
  if Outcome.promised s baseline = .unexpected ∨ Outcome.promised s candidate = .unexpected then
    .unexpectedExit
  else
    match decide (baseline = some s.crashCode), decide (candidate = some s.crashCode) with
    | true, true => .bothCrashed
    | true, false => .baselineOnly
    | false, true => .candidateOnly
    | false, false => .uninteresting

/-- The verdict with the variants exchanged. -/
def swapped : Verdict → Verdict
  | .baselineOnly => .candidateOnly
  | .candidateOnly => .baselineOnly
  | .uninteresting => .uninteresting
  | .bothCrashed => .bothCrashed
  | .unexpectedExit => .unexpectedExit

theorem ofOutcomes_swap (baseline candidate : Outcome) :
    ofOutcomes candidate baseline = (ofOutcomes baseline candidate).swapped := by
  cases baseline <;> cases candidate <;> rfl

theorem ofCodes_swap (s : ExecutionSettings) (baseline candidate : Option Int) :
    ofCodes s candidate baseline = (ofCodes s baseline candidate).swapped :=
  ofOutcomes_swap _ _

theorem ofCodes_eq_promised (notNegative : 0 ≤ s.crashCode) (baseline candidate : Option Int) :
    ofCodes s baseline candidate = promised s baseline candidate := by
  have kept := Outcome.ofCode_eq_promised_iff.mpr notNegative
  have crash (code : Option Int) : decide (code = some s.crashCode) =
      decide (Outcome.promised s code = .crashed) := by
    simp only [Outcome.promised_eq_crashed_iff]
  unfold ofCodes promised
  rw [kept, kept, crash, crash]
  cases Outcome.promised s baseline <;> cases Outcome.promised s candidate <;> rfl

/-- Without crashes only two verdicts are left. -/
theorem ofCodes_of_negative (negative : s.crashCode < 0) (baseline candidate : Option Int) :
    ofCodes s baseline candidate = .uninteresting ∨
      ofCodes s baseline candidate = .unexpectedExit := by
  have unseen (code : Option Int) : Outcome.ofCode s code ≠ .crashed := fun crashed =>
    absurd (Outcome.ofCode_eq_crashed_iff.mp crashed).2 (Int.not_le.mpr negative)
  have baseline' := unseen baseline
  have candidate' := unseen candidate
  unfold ofCodes
  cases outcome : Outcome.ofCode s baseline <;> cases outcome' : Outcome.ofCode s candidate <;>
    simp_all [ofOutcomes]

end Verdict

/-! ## Calls -/

namespace Pool

variable {σ : Type} {children : Children} {case : TestCase} {v : Variant} {p q : Pool σ}

/-- A variant that has a result has exited. -/
theorem exited_of_runVariant {result : VariantResult}
    (ran : p.runVariant children case v = (.ok result, q)) :
    ∃ code, (children case v).ending = .exited code ∧
      result = p.resultOf v (children case v) code := by
  have launched := confined_launch case v (children case v) p
  unfold runVariant at ran
  dsimp only at ran
  rcases start : p.launch case v (children case v) with ⟨answer, r⟩
  rw [start] at ran launched
  cases answer with
  | error f => cases ran
  | ok u =>
    have same (code : Option Int) : r.resultOf v (children case v) code =
        p.resultOf v (children case v) code := by
      unfold resultOf
      rw [launched.settings, launched.substitute]
    cases ending : (children case v).ending with
    | failed f =>
      rw [ending] at ran
      cases ran
    | exited code =>
      rw [ending] at ran
      refine ⟨code, rfl, ?_⟩
      rw [← same]
      dsimp only at ran
      split at ran <;> cases ran <;> rfl

/-- Both variants have exited on a case with results. -/
theorem exited_of_execute {result : DualResult}
    (ran : (p.execute children case).1 = .ok result) :
    ∃ baseline candidate,
      (children case p.settings.execution.baseline).ending = .exited baseline ∧
      (children case p.settings.execution.candidate).ending = .exited candidate ∧
      result.baseline = p.resultOf p.settings.execution.baseline
        (children case p.settings.execution.baseline) baseline ∧
      result.candidate = p.resultOf p.settings.execution.candidate
        (children case p.settings.execution.candidate) candidate := by
  have confined := confined_runVariant children case p.settings.execution.baseline p
  unfold execute ExecutionSettings.runBoth at ran
  dsimp only at ran
  rcases first : p.runVariant children case p.settings.execution.baseline with ⟨answer, r⟩
  rw [first] at ran confined
  cases answer with
  | error f => cases ran
  | ok one =>
    dsimp only at ran
    rcases second : r.runVariant children case p.settings.execution.candidate with ⟨answer', r'⟩
    rw [second] at ran
    cases answer' with
    | error f => cases ran
    | ok two =>
      cases ran
      obtain ⟨baseline, exited, one⟩ := exited_of_runVariant first
      obtain ⟨candidate, exited', two⟩ := exited_of_runVariant second
      refine ⟨baseline, candidate, exited, exited', one, ?_⟩
      rw [two]
      unfold resultOf
      rw [confined.settings, confined.substitute]

/-- The verdict of a call that runs the compilers is the one on the exit codes of both children. -/
theorem judged_codes [DrawSource σ] {i : Iteration σ} {result : DualResult}
    (real : i.before.substitute = false) (judged : i.fate = .judged result) :
    ∃ baseline candidate,
      (i.turn.children i.case i.before.settings.execution.baseline).ending = .exited baseline ∧
      (i.turn.children i.case i.before.settings.execution.candidate).ending = .exited candidate ∧
      result.verdict = Verdict.ofCodes i.before.settings.execution baseline candidate := by
  have staged := confined_staged i.turn.worker i.before
  have ran : ((i.before.staged i.turn.worker).execute i.turn.children i.case).1 = .ok result := by
    unfold Iteration.fate fate at judged
    split at judged
    · cases judged
    · split at judged
      · cases judged
      · rename_i ran
        cases judged
        exact ran
  obtain ⟨baseline, candidate, exited, exited', one, two⟩ := exited_of_execute ran
  rw [staged.settings] at exited exited' one two
  refine ⟨baseline, candidate, exited, exited', ?_⟩
  have settled (v : Variant) (child : Child) (code : Option Int) :
      ((i.before.staged i.turn.worker).resultOf v child code).outcome =
        .ofCode i.before.settings.execution code := by
    unfold resultOf
    rw [staged.settings, staged.substitute, real]
    rfl
  rw [DualResult.verdict, one, two, settled, settled]
  rfl

end Pool

/-! ## The contract -/

/-- What exit codes mean under accepted settings.

* They mean what is promised just if the crash code is not negative; then some exit code means a
  crash, and otherwise none. In either case a variant has not crashed just if it has no exit code,
  or a negative one, or a normal one.
* The verdict is then the one that is promised. With a negative crash code there is never a finding.
* Exchanging the exit codes exchanges the verdicts on crashes on one side, and keeps the others.
* All this holds of the calls of a pool with these settings. -/
theorem contract_of_accept {s : ExecutionSettings} {checked : { s : ExecutionSettings // s.Valid }}
    (accepted : s.accept = .ok checked) :
    checked.1 = s ∧
      ((∀ code, Outcome.ofCode s code = .promised s code) ↔ 0 ≤ s.crashCode) ∧
      ((∃ code, Outcome.ofCode s code = .crashed) ↔ 0 ≤ s.crashCode) ∧
      (∀ code, Outcome.ofCode s code = .notCrashed ↔
        code = none ∨ ∃ n, code = some n ∧ (n < 0 ∨ n ∈ s.normalCodes)) ∧
      (0 ≤ s.crashCode → ∀ baseline candidate,
        Verdict.ofCodes s baseline candidate = .promised s baseline candidate) ∧
      (s.crashCode < 0 → ∀ baseline candidate,
        Verdict.ofCodes s baseline candidate = .uninteresting ∨
          Verdict.ofCodes s baseline candidate = .unexpectedExit) ∧
      (∀ baseline candidate, Verdict.ofCodes s candidate baseline =
        (Verdict.ofCodes s baseline candidate).swapped) ∧
      ∀ {σ : Type} [DrawSource σ] (i : Iteration σ) (result : DualResult),
        i.before.settings.execution = s → i.before.substitute = false → i.fate = .judged result →
        ∃ baseline candidate,
          (i.turn.children i.case s.baseline).ending = .exited baseline ∧
          (i.turn.children i.case s.candidate).ending = .exited candidate ∧
          result.verdict = Verdict.ofCodes s baseline candidate := by
  have same : checked.1 = s := by
    unfold ExecutionSettings.accept at accepted
    split_ifs at accepted
    cases accepted
    rfl
  have valid : s.Valid := same ▸ checked.2
  refine ⟨same, Outcome.ofCode_eq_promised_iff, ⟨?_, fun notNegative => ?_⟩,
    fun _ => Outcome.ofCode_eq_notCrashed_iff valid, Verdict.ofCodes_eq_promised,
    Verdict.ofCodes_of_negative, Verdict.ofCodes_swap s, fun i result given real judged => ?_⟩
  · rintro ⟨code, crashed⟩
    exact (Outcome.ofCode_eq_crashed_iff.mp crashed).2
  · exact ⟨_, Outcome.ofCode_eq_crashed_iff.mpr ⟨rfl, notNegative⟩⟩
  · obtain ⟨baseline, candidate, exits⟩ := Pool.judged_codes real judged
    rw [given] at exits
    exact ⟨baseline, candidate, exits⟩

/-- The settings that are used without further ado keep their promise. -/
theorem contract_of_default :
    ExecutionSettings.accept {} = .ok ⟨{}, ExecutionSettings.valid_default⟩ ∧
      Verdict.ofCodes {} (some 101) none = .baselineOnly ∧
      Verdict.ofCodes {} none (some 101) = .candidateOnly := by
  have accepted : ExecutionSettings.accept {} = .ok ⟨{}, ExecutionSettings.valid_default⟩ := rfl
  obtain ⟨_, _, _, _, promised, _, swap, _⟩ := contract_of_accept accepted
  have verdict : Verdict.ofCodes {} (some 101) none = .baselineOnly :=
    (promised (by decide) _ _).trans rfl
  exact ⟨accepted, verdict, by rw [swap, verdict]; rfl⟩

/-- A negative crash code is accepted, and a crash is taken for a dull end. -/
theorem negative_crash_unseen :
    ∃ checked, ExecutionSettings.accept { crashCode := -6 } = .ok checked ∧
      Outcome.ofCode checked.1 (some (-6)) = .notCrashed ∧
      Outcome.promised checked.1 (some (-6)) = .crashed ∧
      Verdict.ofCodes checked.1 (some (-6)) (some 0) = .uninteresting ∧
      Verdict.promised checked.1 (some (-6)) (some 0) = .baselineOnly :=
  ⟨_, rfl, rfl, rfl, rfl, rfl⟩

end CrashDiff
