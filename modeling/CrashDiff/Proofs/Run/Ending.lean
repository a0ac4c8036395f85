import CrashDiff.Proofs.Run.Staging

/-!
# How calls end

All that a call of a worker can come to, with its answer and the pool that it leaves, and what
follows for the files: a call touches the file of its case, the event log and the transcript, and
so does a schedule.

Results:
1. `runOnce_ends`: every call ends in one of seven ways.
2. `confined_runOnce`, `confined_play`: the footprint of a call and of a schedule.
-/

namespace CrashDiff

open FileSystem

theorem Verdict.action_eq_discard_iff {verdict : Verdict} {haltOnCandidate : Bool} :
    verdict.action haltOnCandidate = .discard ↔ verdict = .uninteresting := by
  cases verdict <;> cases haltOnCandidate <;> decide

theorem Verdict.ne_uninteresting_of_action {verdict : Verdict} {haltOnCandidate : Bool}
    (kept : verdict.action haltOnCandidate ≠ .discard) : verdict ≠ .uninteresting :=
  fun dull => kept (action_eq_discard_iff.mpr dull)

namespace Pool

variable {σ : Type} [DrawSource σ] {children : Children} {worker : Nat} {p q : Pool σ}

/-- The pool after the verdict of the next call of a worker has been counted. -/
def counted (children : Children) (worker : Nat) (result : DualResult) (p : Pool σ) : Pool σ :=
  { p.executed children worker with
    stats := (p.executed children worker).stats.record result.verdict }

/-- The removal of the file of the next call of a worker. -/
def discarded (children : Children) (worker : Nat) (result : DualResult) (p : Pool σ) :
    Except Failure Unit × Pool σ :=
  (p.counted children worker result).removeFile (p.caseOf worker).path

/-- The recording of the events of the next call of a worker. -/
def recorded (children : Children) (worker : Nat) (result : DualResult) (p : Pool σ) :
    Except Failure Unit × Pool σ :=
  (p.counted children worker result).recordEvents
    (findingEvents (p.caseOf worker) result result.verdict)

/-- The report of the next call of a worker. -/
def reportOf (worker : Nat) (result : DualResult) (p : Pool σ) : String :=
  Report.lineOf result.verdict (p.caseOf worker).identifier (p.caseOf worker).path result

/-- `Ends children worker p answer q`: the next call of the worker answers `answer` and leaves the
pool `q`.

* `unstaged`, `unrun`: it fails before there is a verdict.
* `undeleted`, `discarded`: the case is dull, and its file cannot be removed or is removed.
* `unrecorded`: the case is worth a look, but its events cannot be recorded.
* `reported`, `halted`: the case is reported, and the run goes on or is halted. -/
inductive Ends (children : Children) (worker : Nat) (p : Pool σ) :
    Except Failure Flow → Pool σ → Prop
  | unstaged {f : Failure} : p.fate children worker = .unstaged f →
      Ends children worker p (.error f) (p.staged worker)
  | unrun {f : Failure} : p.fate children worker = .unrun f →
      Ends children worker p (.error f) (p.executed children worker)
  | undeleted {result : DualResult} {f : Failure} : p.fate children worker = .judged result →
      result.verdict = .uninteresting → (p.discarded children worker result).1 = .error f →
      Ends children worker p (.error f) (p.discarded children worker result).2
  | discarded {result : DualResult} : p.fate children worker = .judged result →
      result.verdict = .uninteresting → (p.discarded children worker result).1 = .ok () →
      Ends children worker p (.ok .goOn) ((p.discarded children worker result).2.notify .point)
  | unrecorded {result : DualResult} {f : Failure} : p.fate children worker = .judged result →
      result.verdict ≠ .uninteresting → (p.recorded children worker result).1 = .error f →
      Ends children worker p (.error f) (p.recorded children worker result).2
  | reported {result : DualResult} : p.fate children worker = .judged result →
      result.verdict.action p.settings.haltOnCandidate = .report →
      (p.recorded children worker result).1 = .ok () →
      Ends children worker p (.ok .goOn)
        ((p.recorded children worker result).2.notify (.report (p.reportOf worker result)))
  | halted {result : DualResult} : p.fate children worker = .judged result →
      result.verdict.action p.settings.haltOnCandidate = .halt →
      (p.recorded children worker result).1 = .ok () →
      Ends children worker p
        (.ok (.halted (p.reportOf worker result) result.verdict (p.caseOf worker)))
        { (p.recorded children worker result).2.notify (.lastReport (p.reportOf worker result)) with
          halted := true }

/-! ## The footprint before the verdict -/

theorem confined_counted (children : Children) (worker : Nat) (result : DualResult) (p : Pool σ) :
    Confined (p.host.files.IsPlace (p.caseOf worker).path) p
      (p.counted children worker result) :=
  (confined_executed children worker p).trans (.of_eq rfl rfl rfl rfl rfl)

/-- Every call of a worker ends in one of the seven ways. -/
theorem runOnce_ends (children : Children) (worker : Nat) (p : Pool σ) :
    Ends children worker p (p.runOnce children worker).1 (p.runOnce children worker).2 := by
  rw [runOnce_eq]
  cases fate : p.fate children worker with
  | unstaged f => exact .unstaged fate
  | unrun f => exact .unrun fate
  | judged result =>
    have settings := (confined_counted children worker result p).settings
    show Ends children worker p
      ((p.counted children worker result).act (p.caseOf worker) result result.verdict).1
      ((p.counted children worker result).act (p.caseOf worker) result result.verdict).2
    -- From here on only the action that the verdict asks for matters.
    unfold act
    rw [settings]
    split
    · rename_i discard
      have dull := Verdict.action_eq_discard_iff.mp discard
      rcases removal : (p.counted children worker result).removeFile (p.caseOf worker).path with
        ⟨answer, q⟩
      have here : p.discarded children worker result = (answer, q) := removal
      cases answer with
      | error f =>
        have ending := Ends.undeleted fate dull (congrArg Prod.fst here)
        rw [here] at ending
        exact ending
      | ok u =>
        have ending := Ends.discarded fate dull (congrArg Prod.fst here)
        rw [here] at ending
        exact ending
    · rename_i action worthy
      have notDull := Verdict.ne_uninteresting_of_action worthy
      rcases recording : (p.counted children worker result).recordEvents
        (findingEvents (p.caseOf worker) result result.verdict) with ⟨answer, q⟩
      have here : p.recorded children worker result = (answer, q) := recording
      cases answer with
      | error f =>
        have ending := Ends.unrecorded fate notDull (congrArg Prod.fst here)
        rw [here] at ending
        exact ending
      | ok u =>
        dsimp only
        split
        · rename_i report
          have ending := Ends.reported fate report (congrArg Prod.fst here)
          rw [here] at ending
          exact ending
        · rename_i noReport
          have halt : result.verdict.action p.settings.haltOnCandidate = .halt := by
            cases action : result.verdict.action p.settings.haltOnCandidate with
            | discard => exact absurd action worthy
            | report => exact absurd action noReport
            | halt => rfl
          have ending := Ends.halted fate halt (congrArg Prod.fst here)
          rw [here] at ending
          exact ending

theorem exists_ends (children : Children) (worker : Nat) (p : Pool σ) :
    ∃ answer q, p.runOnce children worker = (answer, q) ∧ Ends children worker p answer q :=
  ⟨_, _, rfl, runOnce_ends children worker p⟩

/-- How a call on a dull case ends if the file of the case can be removed. -/
theorem runOnce_of_dull {result : DualResult} (judged : p.fate children worker = .judged result)
    (dull : result.verdict = .uninteresting)
    (removed : (p.discarded children worker result).1 = .ok ()) :
    p.runOnce children worker =
      (.ok .goOn, (p.discarded children worker result).2.notify .point) := by
  rw [runOnce_eq, judged]
  show (p.counted children worker result).act (p.caseOf worker) result result.verdict = _
  unfold discarded at removed ⊢
  rw [act, dull, Verdict.action]
  rcases removal : (p.counted children worker result).removeFile (p.caseOf worker).path with
    ⟨answer, q⟩
  rw [removal] at removed
  cases answer with
  | error f => cases removed
  | ok u => rfl

/-! ## The footprint of a call -/

theorem confined_discarded (children : Children) (worker : Nat) (result : DualResult)
    (p : Pool σ) :
    Confined (p.host.files.IsPlace (p.caseOf worker).path) p
      (p.discarded children worker result).2 := by
  have counted := confined_counted children worker result p
  refine counted.trans ((confined_removeFile _ _).mono fun l place => ?_)
  exact counted.isPlace_iff.mp place

/-- What a call of a worker may touch besides the event log. -/
def Touches (worker : Nat) (p : Pool σ) (l : Location) : Prop :=
  p.host.files.IsPlace (p.caseOf worker).path l ∨ p.host.LogsAt l

theorem confined_recorded (children : Children) (worker : Nat) (result : DualResult)
    (p : Pool σ) :
    Confined (fun l => p.Touches worker l ∨ p.RecordsAt l) p
      (p.recorded children worker result).2 := by
  have counted : Confined (fun l => p.Touches worker l ∨ p.RecordsAt l) p
      (p.counted children worker result) :=
    (confined_counted children worker result p).mono fun l place => Or.inl (Or.inl place)
  refine counted.trans ((confined_recordEvents _ _).mono fun l records => ?_)
  exact Or.inr (counted.recordsAt_iff.mp records)

/-- A call touches the file of its case, the transcript and the event log. -/
theorem confined_runOnce (children : Children) (worker : Nat) (sound : p.Sound) :
    Confined (fun l => p.Touches worker l ∨ p.RecordsAt l) p (p.runOnce children worker).2 := by
  obtain ⟨answer, q, outcome, ends⟩ := exists_ends children worker p
  rw [outcome]
  have own (l : Location) (place : p.host.files.IsPlace (p.caseOf worker).path l) :
      p.Touches worker l ∨ p.RecordsAt l := Or.inl (Or.inl place)
  have transcript (l : Location) (logs : p.host.LogsAt l) :
      p.Touches worker l ∨ p.RecordsAt l := Or.inl (Or.inr logs)
  cases ends with
  | unstaged _ => exact (confined_staged worker p).mono own
  | unrun _ => exact (confined_executed children worker p).mono own
  | undeleted _ _ _ => exact (confined_discarded children worker _ p).mono own
  | discarded _ _ _ =>
    exact ((confined_discarded children worker _ p).mono own).notify sound transcript _
  | unrecorded _ _ _ => exact confined_recorded children worker _ p
  | reported _ _ _ =>
    exact (confined_recorded children worker _ p).notify sound transcript _
  | halted _ _ _ =>
    exact ((confined_recorded children worker _ p).notify sound transcript _).trans
      (.of_eq rfl rfl rfl rfl rfl)

end Pool

end CrashDiff
