import CrashDiff.Proofs.Files.Path
import CrashDiff.Proofs.Run.Ending

/-!
# What the compilers read

A child is started in the scratch directory and is given the path of the file of a case, which lies
below the path of the scratch directory. A relative path is so followed twice: first to the
directory, and from there to the file.

Results:
1. `calls_runOnce`: the starts of children that a call adds to the account of the pool.
2. `reads_staged_iff`: a child finds the staged file if and only if the path of the scratch
   directory leads from there to the same directory again.
3. `not_reads_staged_of_relative`: it does not for a relative path of one name.
-/

namespace CrashDiff

open FileSystem

namespace Call

/-- The files as a child finds them: its relative paths start in the directory that it is started
in. -/
def view (call : Call) (fs : FileSystem) : Except SystemError FileSystem :=
  match call.directory with
  | none => .ok fs
  | some directory =>
    match fs.resolve (.ofText directory) with
    | .error e => .error e
    | .ok here => .ok { fs with workingDirectory := here }

/-- The location of the file that a child is given by its last word. -/
def source (call : Call) (fs : FileSystem) : Except SystemError Location :=
  match call.view fs with
  | .error e => .error e
  | .ok seen => seen.resolve (.ofText (call.words.getLast?.getD ""))

end Call

namespace ExecutionSettings

/-- A variant that is started on a file in the scratch directory finds it just if the path of the
scratch directory leads back to the directory. -/
theorem source_call_iff {s : ExecutionSettings} {fs : FileSystem} {name : String} {l : Location}
    (canonical : s.scratchDir.Canonical) (proper : Path.IsProper name)
    (place : fs.IsPlace (s.scratchDir.child name) l) (present : (fs.lookup l).isSome)
    (v : Variant) :
    (s.call v (s.scratchDir.child name)).source fs = .ok l ↔ fs.LeadsBack s.scratchDir := by
  obtain ⟨here, rfl, found, _⟩ := place.exists_parent
  have seen : (s.call v (s.scratchDir.child name)).view fs =
      .ok { fs with workingDirectory := here } := by
    simp only [Call.view, call, Path.ofText_toText canonical, found]
  have word : (s.call v (s.scratchDir.child name)).words.getLast?.getD "" =
      (s.scratchDir.child name).toText := by
    have split : (s.call v (s.scratchDir.child name)).words =
        (s.compiler :: v.selector :: s.fixedArgs) ++ [(s.scratchDir.child name).toText] := rfl
    rw [split, List.getLast?_concat, Option.getD_some]
  rw [Call.source, seen, word]
  dsimp only
  rw [Path.ofText_toText (canonical.child proper)]
  exact resolve_child_from_iff place present

end ExecutionSettings

namespace Pool

variable {σ : Type} [DrawSource σ] {children : Children} {worker : Nat} {p : Pool σ}

/-! ## The account of starts after a call -/

/-- A call of a worker that stages its case adds the starts of the children on it. -/
theorem calls_runOnce (stages : ∀ f, p.fate children worker ≠ .unstaged f) :
    (p.runOnce children worker).2.calls = p.calls ++
      ((p.staged worker).launches children (p.caseOf worker)).map
        fun s => p.callOf (p.caseOf worker) s.variant := by
  have before : (p.staged worker).calls = p.calls := rfl
  have same (v : Variant) : (p.staged worker).callOf (p.caseOf worker) v =
      p.callOf (p.caseOf worker) v := (confined_staged worker p).callOf_eq _ v
  have ran : (p.executed children worker).calls = p.calls ++
      ((p.staged worker).launches children (p.caseOf worker)).map
        fun s => p.callOf (p.caseOf worker) s.variant := by
    rw [executed, calls_execute, before]
    simp only [same]
  rw [← ran]
  obtain ⟨answer, q, outcome, ends⟩ := exists_ends children worker p
  rw [outcome]
  cases ends with
  | unstaged fate => exact absurd fate (stages _)
  | unrun _ => rfl
  | undeleted _ _ _ => rfl
  | discarded _ _ _ => rfl
  | unrecorded _ _ _ => exact calls_recordEvents _ _
  | reported _ _ _ => exact calls_recordEvents _ _
  | halted _ _ _ => exact calls_recordEvents _ _

/-! ## The file that the children read -/

/-- Whenever a worker stages a case, both variants are started on it, unless the baseline cannot be
run, and the pool takes account of the starts. At each of them the staged file holds the source of
the case, as long as no child has removed it. The child finds the staged file under the path that
it is given if and only if the path of the scratch directory leads from the directory to the
directory again, which is always so for a path from the root. -/
theorem reads_staged_iff (scratch : ∃ text, p.settings.execution.scratchDir = .ofText text)
    (compilers : p.substitute = false) (stages : ∀ f, p.fate children worker ≠ .unstaged f) :
    ∃ file starts, (p.staged worker).host.files.resolve (p.caseOf worker).path = .ok file ∧
      starts = (p.staged worker).launches children (p.caseOf worker) ∧
      (starts.map (·.variant) =
          [p.settings.execution.baseline, p.settings.execution.candidate] ∨
        starts.map (·.variant) = [p.settings.execution.baseline] ∧
          ∃ f, p.fate children worker = .unrun f) ∧
      (p.runOnce children worker).2.calls =
        p.calls ++ starts.map (fun s => p.callOf (p.caseOf worker) s.variant) ∧
      (∀ s ∈ starts,
        (s.variant = p.settings.execution.baseline ∨
          (children (p.caseOf worker) p.settings.execution.baseline).removesSource = false) →
        s.pool.host.files.contents? file = some (p.caseOf worker).source ∧
        ((p.callOf (p.caseOf worker) s.variant).source s.pool.host.files = .ok file ↔
          p.host.files.LeadsBack p.settings.execution.scratchDir)) ∧
      (p.settings.execution.scratchDir.anchor ≠ .relative →
        p.host.files.LeadsBack p.settings.execution.scratchDir) := by
  rcases staged_cases children worker p with ⟨f, fate, _⟩ | ⟨file, _, place, other, _, staged⟩
  · exact absurd fate (stages f)
  have below := ne_nil_of_not_directory other
  have after := confined_staged worker p
  obtain ⟨here, _, found, directory⟩ := place.exists_parent
  have place' := after.isPlace_iff.mpr place
  have holds : (p.staged worker).host.files.lookup file =
      some (.file (p.caseOf worker).source) := by
    rw [staged]
    exact lookup_put_self below
  refine ⟨file, _, ?_, rfl, variants_launches stages, calls_runOnce stages,
    fun s started keeps => ?_, fun absolute => leadsBack_of_absolute absolute found⟩
  · exact (resolve_child_iff (Source.fileName_ne_parent _)).mpr ⟨place', by simp [holds]⟩
  · have settings := after.settings
    have unchanged : s.pool.host.files = (p.staged worker).host.files :=
      files_start_of_keeping started (by rw [settings]; exact keeps)
    rw [unchanged, contents?_eq_some]
    refine ⟨holds, ?_⟩
    have canonical : p.settings.execution.scratchDir.Canonical := by
      obtain ⟨text, read⟩ := scratch
      rw [read]
      exact Path.canonical_ofText text
    have call : p.callOf (p.caseOf worker) s.variant =
        p.settings.execution.call s.variant (p.caseOf worker).path := by
      simp [callOf, compilers]
    -- The directories have not changed since the call began, so the path still leads the same way.
    rw [call, caseOf_path]
    rw [ExecutionSettings.source_call_iff canonical (Source.isProper_fileName _) place'
      (by simp [holds])]
    exact ⟨after.tree.symm.leadsBack (after.tree.resolve found directory)
        ((after.tree.directory_iff here).mpr directory),
      after.tree.leadsBack found directory⟩

/-- Both children find the file below a scratch directory that is named from the root. -/
theorem reads_staged_of_root :
    ∃ file, ((small "/sbx" []).staged 0).host.files.resolve ((small "/sbx" []).caseOf 0).path =
        .ok file ∧
      ∀ s ∈ ((small "/sbx" []).staged 0).launches (.exiting 1 101) ((small "/sbx" []).caseOf 0),
        ((small "/sbx" []).callOf ((small "/sbx" []).caseOf 0) s.variant).source
          s.pool.host.files = .ok file := by
  obtain ⟨file, starts, found, rfl, _, _, reads, absolute⟩ :=
    @reads_staged_iff Zeros _ (.exiting 1 101) 0 (small "/sbx" []) ⟨"/sbx", rfl⟩ rfl
      fun f unstaged => by cases unstaged
  refine ⟨file, found, fun s started => ?_⟩
  exact ((reads s started (Or.inr rfl)).2).mpr (absolute fun relative => by cases relative)

/-- No child finds the staged file below the scratch directory `rel` of the working directory: the
path `rel/fuzz0.rs` starts in `/sbx/rel` for it. -/
theorem not_reads_staged_of_relative :
    ((small "rel" [(["rel", "sbx"], .directory)]).staged 0).host.files.resolve
        ((small "rel" [(["rel", "sbx"], .directory)]).caseOf 0).path =
      .ok ["fuzz0.rs", "rel", "sbx"] ∧
    (((small "rel" [(["rel", "sbx"], .directory)]).staged 0).launches (.exiting 1 101)
        ((small "rel" [(["rel", "sbx"], .directory)]).caseOf 0)).map (fun s =>
      ((small "rel" [(["rel", "sbx"], .directory)]).callOf
        ((small "rel" [(["rel", "sbx"], .directory)]).caseOf 0) s.variant).source
          s.pool.host.files) =
      [.error .notFound, .error .notFound] :=
  ⟨rfl, rfl⟩

end Pool

end CrashDiff
