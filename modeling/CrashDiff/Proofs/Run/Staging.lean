import CrashDiff.Proofs.Run.Footprint

/-!
# From the staging of a case to the end of its runs

What a call of a worker does before there is a verdict: it writes the source of its case at the
place of its path, and starts the children on it. The file stays there unless a child removes it.

Results:
1. `calls_execute`: the noted starts are those that the pool keeps an account of.
2. `files_execute_of_keeping`, `files_execute_of_removing`: the files after both runs.
3. `staged_cases`: the source of the case is at the place of its path, or staging failed.
-/

namespace CrashDiff

open FileSystem

namespace Pool

variable {σ : Type} {children : Children} {case : TestCase} {v : Variant} {p q : Pool σ}
  {touched : Location → Prop} {l : Location} {text : String}

/-! ## The account of starts -/

@[simp] theorem calls_stop (p : Pool σ) : p.stop.calls = p.calls := rfl

@[simp] theorem calls_removeFile (path : Path) (p : Pool σ) :
    (p.removeFile path).2.calls = p.calls := rfl

theorem calls_launch (case : TestCase) (v : Variant) (child : Child) (p : Pool σ) :
    (p.launch case v child).2.calls = p.calls ++ [p.callOf case v] := by
  unfold launch callOf
  dsimp only
  split <;> split <;> simp

theorem calls_runVariant (children : Children) (case : TestCase) (v : Variant) (p : Pool σ) :
    (p.runVariant children case v).2.calls = p.calls ++ [p.callOf case v] := by
  rcases runVariant_snd children case v p with same | ⟨m, logged⟩
  · rw [same, calls_launch]
  · rw [logged]
    exact calls_launch case v _ p

/-- The start of a child depends on the settings only. -/
theorem Confined.callOf_eq (step : Confined touched p q) (case : TestCase) (v : Variant) :
    q.callOf case v = p.callOf case v := by
  simp only [callOf, step.settings, step.substitute]

theorem calls_execute (children : Children) (case : TestCase) (p : Pool σ) :
    (p.execute children case).2.calls =
      p.calls ++ (p.launches children case).map fun s => p.callOf case s.variant := by
  have first : (p.afterBaseline children case).calls =
      p.calls ++ [p.callOf case p.settings.execution.baseline] := calls_runVariant _ _ _ p
  rcases launches_cases children case p with ⟨f, _, starts, ran⟩ | ⟨starts, ran⟩
  · rw [starts, ran]
    exact first
  · have second := (confined_runVariant children case p.settings.execution.baseline p).callOf_eq
      case p.settings.execution.candidate
    rw [starts, ran, calls_runVariant, first]
    simpa [afterBaseline] using second

theorem calls_recordEvents (events : List Event) (p : Pool σ) :
    (p.recordEvents events).2.calls = p.calls :=
  recordEvents_induction (motive := fun q => q.calls = p.calls) events rfl fun _ _ same => same

/-! ## The files after the runs -/

theorem files_launch (case : TestCase) (v : Variant) (child : Child) (p : Pool σ) :
    (p.launch case v child).2.host.files =
      if child.removesSource then (FileSystem.remove case.path p.host.files).2
      else p.host.files := by
  unfold launch removeFile Host.remove
  dsimp only
  split
  · dsimp only
    rw [host_stop_if]
    obtain ⟨result, fs⟩ := FileSystem.remove case.path p.host.files
    cases result <;> rfl
  · rw [host_stop_if]

theorem files_runVariant (children : Children) (case : TestCase) (v : Variant) (p : Pool σ) :
    (p.runVariant children case v).2.host.files =
      if (children case v).removesSource then (FileSystem.remove case.path p.host.files).2
      else p.host.files := by
  rcases runVariant_snd children case v p with same | ⟨m, logged⟩
  · rw [same, files_launch]
  · rw [logged, ← files_launch]
    exact Host.files_log m _

theorem files_runVariant_of_keeping (keeps : (children case v).removesSource = false) :
    (p.runVariant children case v).2.host.files = p.host.files := by
  rw [files_runVariant, keeps]
  rfl

theorem files_runVariant_of_absent (place : p.host.files.IsPlace case.path l)
    (absent : p.host.files.lookup l = none) :
    (p.runVariant children case v).2.host.files = p.host.files := by
  obtain ⟨f, failed⟩ := remove_of_absent place absent
  rw [files_runVariant, failed]
  split <;> rfl

theorem files_runVariant_of_removing (noNull : hasNull case.path = false)
    (place : p.host.files.IsPlace case.path l) (file : p.host.files.lookup l = some (.file text))
    (removes : (children case v).removesSource = true) :
    (p.runVariant children case v).2.host.files = p.host.files.erase l := by
  rw [files_runVariant, removes, remove_of_file noNull place file]
  rfl

theorem removeFile_of_file {path : Path} (noNull : hasNull path = false)
    (place : p.host.files.IsPlace path l) (file : p.host.files.lookup l = some (.file text)) :
    p.removeFile path = (.ok (), { p with host := { p.host with
      files := p.host.files.erase l
      transcript := p.host.transcript.map (·.forget l) } }) := by
  simp only [removeFile, Host.remove, remove_of_file noNull place file]

theorem lookup_removeFile {path : Path} (noNull : hasNull path = false)
    (place : p.host.files.IsPlace path l) (other : p.host.files.lookup l ≠ some .directory) :
    (p.removeFile path).2.host.files.lookup l = none := by
  cases entry : p.host.files.lookup l with
  | none =>
    obtain ⟨f, failed⟩ := remove_of_absent place entry
    simp only [removeFile, Host.remove, failed]
    exact entry
  | some e =>
    cases e with
    | directory => exact absurd entry other
    | file text =>
      rw [removeFile_of_file noNull place entry]
      exact lookup_erase_self (ne_nil_of_not_directory other)

/-- No child finds the files changed by itself, nor the second one by the first one if that one
leaves the file of the case alone. -/
theorem files_start_of_keeping {case : TestCase} {q : Pool σ} {s : Launch σ}
    (started : s ∈ q.launches children case)
    (keeps : s.variant = q.settings.execution.baseline ∨
      (children case q.settings.execution.baseline).removesSource = false) :
    s.pool.host.files = q.host.files := by
  have distinct := q.settings.execution_valid.names_distinct
  rcases launches_cases children case q with ⟨f, _, starts, _⟩ | ⟨starts, _⟩
  · rw [starts, List.mem_singleton] at started
    rw [started]
  · rw [starts] at started
    rcases List.mem_cons.mp started with rfl | later
    · rfl
    · rw [List.mem_singleton] at later
      subst later
      rcases keeps with same | keeps
      · exact absurd (congrArg Variant.name same).symm distinct
      · exact files_runVariant_of_keeping keeps

/-- Children that leave the file of the case alone leave all files alone. -/
theorem files_execute_of_keeping
    (keeps : ∀ s ∈ p.launches children case, (children case s.variant).removesSource = false) :
    (p.execute children case).2.host.files = p.host.files := by
  rcases launches_cases children case p with ⟨f, _, starts, ran⟩ | ⟨starts, ran⟩
  · rw [ran]
    exact files_runVariant_of_keeping (keeps ⟨_, p⟩ (by simp [starts]))
  · have first : (p.afterBaseline children case).host.files = p.host.files :=
      files_runVariant_of_keeping (keeps ⟨_, p⟩ (by simp [starts]))
    have second := keeps ⟨p.settings.execution.candidate, p.afterBaseline children case⟩
      (by simp [starts])
    rw [ran, files_runVariant_of_keeping second, first]

/-- If some child removes the file of the case, it is gone after the runs. -/
theorem files_execute_of_removing (noNull : hasNull case.path = false)
    (place : p.host.files.IsPlace case.path l) (file : p.host.files.lookup l = some (.file text))
    (removes : ∃ s ∈ p.launches children case, (children case s.variant).removesSource = true) :
    (p.execute children case).2.host.files = p.host.files.erase l := by
  have below := ne_nil_of_not_directory (lookup_ne_directory_of_file file)
  obtain ⟨s, started, removes⟩ := removes
  rcases launches_cases children case p with ⟨f, _, starts, ran⟩ | ⟨starts, ran⟩
  · rw [starts, List.mem_singleton] at started
    subst started
    rw [ran]
    exact files_runVariant_of_removing noNull place file removes
  · rw [ran]
    by_cases first : (children case p.settings.execution.baseline).removesSource = true
    · -- The first child has removed the file, and the second one finds nothing to remove.
      have gone : (p.afterBaseline children case).host.files = p.host.files.erase l :=
        files_runVariant_of_removing noNull place file first
      have place' : (p.afterBaseline children case).host.files.IsPlace case.path l :=
        (confined_runVariant children case _ p).isPlace_iff.mpr place
      rw [files_runVariant_of_absent place' (by rw [gone, lookup_erase_self below]), gone]
    · have kept : (p.afterBaseline children case).host.files = p.host.files :=
        files_runVariant_of_keeping (by simpa using first)
      have second : (children case p.settings.execution.candidate).removesSource = true := by
        rw [starts] at started
        rcases List.mem_cons.mp started with rfl | later
        · exact absurd removes first
        · rw [List.mem_singleton.mp later] at removes
          exact removes
      rw [files_runVariant_of_removing noNull (kept ▸ place) (kept ▸ file) second, kept]

/-! ## The case of a call -/

variable [DrawSource σ] {worker : Nat}

@[simp] theorem caseOf_identifier (worker : Nat) (p : Pool σ) :
    (p.caseOf worker).identifier = p.counter.value := rfl

theorem caseOf_path (worker : Nat) (p : Pool σ) : (p.caseOf worker).path =
    p.settings.execution.scratchDir.child (Source.fileName p.counter.value) := rfl

theorem confined_staged (worker : Nat) (p : Pool σ) :
    Confined (p.host.files.IsPlace (p.caseOf worker).path) p (p.staged worker) := by
  have drawn : Confined (p.host.files.IsPlace (p.caseOf worker).path) p (p.nextCase worker).2 :=
    confined_nextCase worker p
  refine drawn.trans ((confined_stage (p.caseOf worker) _).mono fun l place => ?_)
  exact drawn.isPlace_iff.mp place

theorem confined_executed (children : Children) (worker : Nat) (p : Pool σ) :
    Confined (p.host.files.IsPlace (p.caseOf worker).path) p (p.executed children worker) := by
  have staged := confined_staged worker p
  refine staged.trans ((confined_execute children _ _).2.mono fun l place => ?_)
  exact staged.isPlace_iff.mp place

/-- The source of the case is at the place of its path, or staging has failed. -/
theorem staged_cases (children : Children) (worker : Nat) (p : Pool σ) :
    (∃ f, p.fate children worker = .unstaged f ∧ (p.staged worker).host = p.host) ∨
      ∃ l, hasNull (p.caseOf worker).path = false ∧
        p.host.files.IsPlace (p.caseOf worker).path l ∧
        p.host.files.lookup l ≠ some .directory ∧
        (∀ f, p.fate children worker ≠ .unstaged f) ∧
        (p.staged worker).host =
          { p.host with files := p.host.files.put l (.file (p.caseOf worker).source) } := by
  unfold fate staged stage
  show (∃ f, _ ∧ ({ p.host with files := _ } : Host) = _) ∨ _
  have sameHost : (p.nextCase worker).2.host = p.host := rfl
  rw [sameHost]
  rcases write_cases (p.caseOf worker).path (p.caseOf worker).source p.host.files with
    ⟨f, failed⟩ | ⟨l, noNull, place, other, wrote⟩
  · rw [failed]
    exact Or.inl ⟨f, rfl, rfl⟩
  · rw [wrote]
    refine Or.inr ⟨l, noNull, place, other, fun f => ?_, rfl⟩
    dsimp only
    split
    · intro impossible
      cases impossible
    · intro impossible
      cases impossible

/-- A case can be staged wherever no directory is in the way. -/
theorem staged_of_isPlace (children : Children)
    (noNull : hasNull (p.caseOf worker).path = false)
    (place : p.host.files.IsPlace (p.caseOf worker).path l)
    (other : p.host.files.lookup l ≠ some .directory) :
    (∀ f, p.fate children worker ≠ .unstaged f) ∧
      (p.staged worker).host =
        { p.host with files := p.host.files.put l (.file (p.caseOf worker).source) } := by
  have stages : (p.nextCase worker).2.stage (p.caseOf worker) = (.ok (), {
      (p.nextCase worker).2 with
      host := { p.host with files := p.host.files.put l (.file (p.caseOf worker).source) } }) := by
    have wrote := write_of_isPlace noNull place other (p.caseOf worker).source
    have files : (p.nextCase worker).2.host.files = p.host.files := rfl
    simp only [stage, files, wrote]
    rfl
  refine ⟨fun f => ?_, by rw [staged, stages]⟩
  unfold fate
  rw [stages]
  dsimp only
  split <;> simp

/-- Both variants are started on a staged case, unless the baseline cannot be run. -/
theorem variants_launches (stages : ∀ f, p.fate children worker ≠ .unstaged f) :
    ((p.staged worker).launches children (p.caseOf worker)).map (·.variant) =
        [p.settings.execution.baseline, p.settings.execution.candidate] ∨
      ((p.staged worker).launches children (p.caseOf worker)).map (·.variant) =
        [p.settings.execution.baseline] ∧ ∃ f, p.fate children worker = .unrun f := by
  have settings : (p.staged worker).settings = p.settings := (confined_staged worker p).settings
  rcases launches_cases children (p.caseOf worker) (p.staged worker) with
    ⟨f, _, starts, ran⟩ | ⟨starts, _⟩
  · refine Or.inr ⟨by rw [starts, ← settings]; rfl, f, ?_⟩
    unfold fate at stages ⊢
    rcases write : ((p.nextCase worker).2.stage (p.caseOf worker)).1 with f' | u
    · rw [write] at stages
      exact absurd rfl (stages f')
    · dsimp only
      rw [ran]
  · exact Or.inl (by rw [starts, ← settings]; rfl)

end Pool

end CrashDiff
