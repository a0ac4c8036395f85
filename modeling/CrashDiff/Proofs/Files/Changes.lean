import CrashDiff.Proofs.Files.Places

/-!
# What operations change

An operation on a file fails and changes nothing, or it changes the entry at the place of its path
and no other one. Making directories adds directories and changes no entry.

Results:
1. `write_cases`, `append_cases`, `remove_cases`: what each operation on a file can do.
2. `write_of_isPlace`, `remove_of_file`: when it succeeds.
3. `grows_makeDirectory`: what is there stays when a directory is made.
-/

namespace CrashDiff.FileSystem

variable {fs fs' fs'' : FileSystem} {p : Path} {l : Location}

/-! ## Entries -/

theorem put_put (fs : FileSystem) (l : Location) (first second : Entry) :
    (fs.put l first).put l second = fs.put l second := by
  simp [put, List.filter_filter]

theorem erase_put (fs : FileSystem) (l : Location) (entry : Entry) :
    (fs.put l entry).erase l = fs.erase l := by
  simp [put, erase, List.filter_filter]

theorem erase_of_lookup_eq_none (absent : fs.lookup l = none) : fs.erase l = fs := by
  have below : l ≠ [] := by
    rintro rfl
    simp [lookup] at absent
  have others : ∀ e ∈ fs.entries, e.1 ≠ l := by
    simpa [lookup, below] using absent
  have kept : fs.entries.filter (fun e => e.1 ≠ l) = fs.entries :=
    List.filter_eq_self.mpr fun e member => by simpa using others e member
  simp only [erase, kept]

theorem contents?_eq_some {text : String} :
    fs.contents? l = some text ↔ fs.lookup l = some (.file text) := by
  unfold contents?
  split <;> simp_all

theorem lookup_ne_directory_of_file {text : String} (file : fs.lookup l = some (.file text)) :
    fs.lookup l ≠ some .directory := by
  simp [file]

/-! ## Operations on a file -/

theorem locateFile_eq_ok :
    fs.locateFile p = .ok l ↔ fs.IsPlace p l ∧ fs.lookup l ≠ some .directory := by
  unfold locateFile IsPlace
  cases located : fs.locate p with
  | error e => simp
  | ok target =>
    cases target with
    | special => simp
    | named there =>
      by_cases directory : fs.lookup there = some .directory
      · simp only [isDirectoryAt, directory, decide_true, if_true, Except.ok.injEq,
          Target.named.injEq]
        constructor
        · intro impossible
          cases impossible
        · rintro ⟨rfl, other⟩
          exact absurd directory other
      · simp only [isDirectoryAt, directory, decide_false, Bool.false_eq_true, if_false,
          Except.ok.injEq, Target.named.injEq]
        constructor
        · rintro rfl
          exact ⟨rfl, directory⟩
        · exact And.left

/-- A write makes the text the content at the place of the path, or fails. -/
theorem write_cases (p : Path) (text : String) (fs : FileSystem) :
    (∃ f, write p text fs = (.error f, fs)) ∨
      ∃ l, hasNull p = false ∧ fs.IsPlace p l ∧ fs.lookup l ≠ some .directory ∧
        write p text fs = (.ok (), fs.put l (.file text)) := by
  unfold write create
  cases null : hasNull p with
  | true => exact Or.inl ⟨_, rfl⟩
  | false =>
    cases located : fs.locateFile p with
    | error e => exact Or.inl ⟨_, rfl⟩
    | ok l =>
      obtain ⟨place, other⟩ := locateFile_eq_ok.mp located
      exact Or.inr ⟨l, rfl, place, other, by simp [put_put]⟩

theorem write_of_isPlace (noNull : hasNull p = false) (place : fs.IsPlace p l)
    (other : fs.lookup l ≠ some .directory) (text : String) :
    write p text fs = (.ok (), fs.put l (.file text)) := by
  have located := locateFile_eq_ok.mpr ⟨place, other⟩
  simp [write, create, noNull, located, put_put]

/-- An addition puts the text behind what is at the place of the path, or fails. -/
theorem append_cases (p : Path) (text : String) (fs : FileSystem) :
    (∃ f, append p text fs = (.error f, fs)) ∨
      ∃ l, fs.IsPlace p l ∧ fs.lookup l ≠ some .directory ∧
        append p text fs = (.ok (), fs.put l (.file ((fs.contents? l).getD "" ++ text))) := by
  unfold append
  cases null : hasNull p with
  | true => exact Or.inl ⟨_, rfl⟩
  | false =>
    cases located : fs.locateFile p with
    | error e => exact Or.inl ⟨_, rfl⟩
    | ok l =>
      obtain ⟨place, other⟩ := locateFile_eq_ok.mp located
      exact Or.inr ⟨l, place, other, rfl⟩

/-- A removal takes away the file at the place of the path, or fails. -/
theorem remove_cases (p : Path) (fs : FileSystem) :
    (∃ f, remove p fs = (.error f, fs)) ∨
      ∃ l text, fs.IsPlace p l ∧ fs.lookup l = some (.file text) ∧
        remove p fs = (.ok l, fs.erase l) := by
  unfold remove
  cases null : hasNull p with
  | true => exact Or.inl ⟨_, rfl⟩
  | false =>
    cases located : fs.locate p with
    | error e => exact Or.inl ⟨_, rfl⟩
    | ok target =>
      cases target with
      | special => exact Or.inl ⟨_, rfl⟩
      | named l =>
        cases entry : fs.lookup l with
        | none => exact Or.inl ⟨_, by simp [entry]; rfl⟩
        | some entry' =>
          cases entry' with
          | directory => exact Or.inl ⟨_, by simp [entry]; rfl⟩
          | file text => exact Or.inr ⟨l, text, located, entry, by simp [entry]⟩

theorem remove_of_file {text : String} (noNull : hasNull p = false) (place : fs.IsPlace p l)
    (file : fs.lookup l = some (.file text)) : remove p fs = (.ok l, fs.erase l) := by
  have located : fs.locate p = .ok (.named l) := place
  simp [remove, noNull, located, file]

theorem remove_of_absent (place : fs.IsPlace p l) (absent : fs.lookup l = none) :
    ∃ f, remove p fs = (.error f, fs) := by
  rcases remove_cases p fs with failed | ⟨l', text, place', file, _⟩
  · exact failed
  · rw [place'.unique place, absent] at file
    cases file

/-! ## Making directories -/

/-- Every entry stays as it is, and every new one is a directory. -/
def Grows (fs fs' : FileSystem) : Prop :=
  ∀ l, fs'.lookup l = fs.lookup l ∨ fs.lookup l = none ∧ fs'.lookup l = some .directory

theorem Grows.refl (fs : FileSystem) : Grows fs fs :=
  fun _ => Or.inl rfl

theorem Grows.trans (first : Grows fs fs') (second : Grows fs' fs'') : Grows fs fs'' := by
  intro l
  rcases first l with same | ⟨absent, made⟩
  · rw [← same]
    exact second l
  · rcases second l with same' | ⟨absent', _⟩
    · exact Or.inr ⟨absent, same'.trans made⟩
    · rw [made] at absent'
      cases absent'

theorem grows_makeOne (p : Path) (fs : FileSystem) : Grows fs (makeOne p fs).2 := by
  unfold makeOne locateNew
  cases located : fs.locate p with
  | error e => exact .refl fs
  | ok target =>
    cases target with
    | special => exact .refl fs
    | named here =>
      cases entry : fs.lookup here with
      | some _ => simpa [entry] using Grows.refl fs
      | none =>
        intro l
        by_cases same : l = here
        · subst same
          have below : l ≠ [] := by
            rintro rfl
            simp [lookup] at entry
          simp [entry, lookup_put_self below]
        · simp [entry, lookup_put_of_ne same]

theorem forgive_snd (existing : Bool) (p : Path) (attempt : Except SystemError Unit × FileSystem) :
    (forgive existing p attempt).2 = attempt.2 := by
  obtain ⟨result, fs⟩ := attempt
  cases result with
  | error e =>
    simp only [forgive]
    split <;> rfl
  | ok u => rfl

theorem grows_makeAll (anchor : Anchor) (existing : Bool) (names : List String)
    (fs : FileSystem) : Grows fs (makeAll anchor existing names fs).2 := by
  induction names generalizing existing fs with
  | nil =>
    rw [makeAll, forgive_snd]
    exact grows_makeOne _ fs
  | cons name above ih =>
    rw [makeAll]
    dsimp only
    have first := grows_makeOne ⟨anchor, (name :: above).reverse⟩ fs
    -- If a directory above is missing, the attempt is made again after those have been made.
    split
    · rename_i fs' attempt
      rw [attempt] at first
      have rest := ih true fs'
      split
      · rename_i e fs'' failed
        rw [failed] at rest
        exact first.trans rest
      · rename_i fs'' done
        rw [done] at rest
        rw [forgive_snd]
        exact first.trans (rest.trans (grows_makeOne _ fs''))
    · rw [forgive_snd]
      exact first

/-- Making a directory adds directories and changes no entry. -/
theorem grows_makeDirectory (existing : Bool) (p : Path) (fs : FileSystem) :
    Grows fs (makeDirectory existing p fs).2 := by
  unfold makeDirectory
  split
  · exact .refl fs
  · exact grows_makeAll _ _ _ fs

end CrashDiff.FileSystem
