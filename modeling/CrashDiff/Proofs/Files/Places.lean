import CrashDiff.Files.System
import Mathlib.Tactic.SplitIfs

/-!
# Places of paths

The place of a path is the location that its last name stands for, whether there is an entry or
not. It depends only on the directories and on the working directory, so it stays where it is while
files come and go.

Results:
1. `SameTree.isPlace_iff`: a path keeps its place while only files change.
2. `isPlace_child_iff`: the place of an entry below a path.
3. `resolve_iff_isPlace`: a path leads to its place if there is an entry.
4. `resolve_child_from_iff`: when the path of an entry leads to it from its own directory.
-/

namespace CrashDiff.FileSystem

variable {fs fs' fs'' : FileSystem} {p : Path} {l : Location} {text : String}

/-! ## The same directories -/

/-- Both file systems have the same directories and the same working directory. -/
structure SameTree (fs fs' : FileSystem) : Prop where
  workingDirectory : fs'.workingDirectory = fs.workingDirectory
  directory_iff : ∀ l, fs'.lookup l = some .directory ↔ fs.lookup l = some .directory

theorem SameTree.refl (fs : FileSystem) : SameTree fs fs :=
  ⟨rfl, fun _ => Iff.rfl⟩

theorem SameTree.symm (same : SameTree fs fs') : SameTree fs' fs :=
  ⟨same.workingDirectory.symm, fun l => (same.directory_iff l).symm⟩

theorem SameTree.trans (first : SameTree fs fs') (second : SameTree fs' fs'') : SameTree fs fs'' :=
  ⟨second.workingDirectory.trans first.workingDirectory,
    fun l => (second.directory_iff l).trans (first.directory_iff l)⟩

theorem ne_nil_of_not_directory (other : fs.lookup l ≠ some .directory) : l ≠ [] := by
  rintro rfl
  exact other (by simp [lookup])

theorem SameTree.put_file (other : fs.lookup l ≠ some .directory) (text : String) :
    SameTree fs (fs.put l (.file text)) := by
  refine ⟨rfl, fun l' => ?_⟩
  by_cases here : l' = l
  · subst here
    rw [lookup_put_self (ne_nil_of_not_directory other)]
    simp [other]
  · rw [lookup_put_of_ne here]

theorem SameTree.erase (other : fs.lookup l ≠ some .directory) : SameTree fs (fs.erase l) := by
  refine ⟨rfl, fun l' => ?_⟩
  by_cases here : l' = l
  · subst here
    rw [lookup_erase_self (ne_nil_of_not_directory other)]
    simp [other]
  · rw [lookup_erase_of_ne here]

/-! ## Walking -/

theorem needDirectory_eq_ok : fs.needDirectory l = .ok () ↔ fs.lookup l = some .directory := by
  unfold needDirectory
  split <;> simp [*]

theorem walk_append (here : Location) (names more : List String) :
    fs.walk here (names ++ more) =
      match fs.walk here names with
      | .error e => .error e
      | .ok there => fs.walk there more := by
  induction names generalizing here with
  | nil => rfl
  | cons name names ih =>
    simp only [List.cons_append, walk]
    split
    · rfl
    · split_ifs
      · exact ih _
      · rfl
      · exact ih _
      · rfl

theorem lookup_of_walk {here there : Location} {names : List String} (nonempty : names ≠ [])
    (found : fs.walk here names = .ok there) : fs.lookup here = some .directory := by
  cases names with
  | nil => exact absurd rfl nonempty
  | cons name names =>
    simp only [walk] at found
    split at found
    · cases found
    · rename_i ok
      exact needDirectory_eq_ok.mp ok

/-- A walk to a directory only looks at directories. -/
theorem SameTree.walk (same : SameTree fs fs') {here there : Location} {names : List String}
    (found : fs.walk here names = .ok there) (directory : fs.lookup there = some .directory) :
    fs'.walk here names = .ok there := by
  induction names generalizing here with
  | nil => exact found
  | cons name names ih =>
    have start : fs'.needDirectory here = .ok () :=
      needDirectory_eq_ok.mpr ((same.directory_iff here).mpr (lookup_of_walk (by simp) found))
    have start' : fs.needDirectory here = .ok () :=
      needDirectory_eq_ok.mpr (lookup_of_walk (by simp) found)
    simp only [FileSystem.walk, start'] at found
    simp only [FileSystem.walk, start]
    split_ifs at found with up long present
    · rw [if_pos up]
      exact ih found
    · -- The next name is a directory: it is passed on the way or is the end of it.
      have next : fs.lookup (name :: here) = some .directory := by
        by_cases last : names = []
        · subst last
          simp only [FileSystem.walk, Except.ok.injEq] at found
          rw [found]
          exact directory
        · exact lookup_of_walk last found
      have next' := (same.directory_iff _).mpr next
      rw [if_neg up, if_neg long, if_pos (by simp [next'])]
      exact ih found

/-! ## Places -/

/-- The last name of the path stands for the location, in a directory. -/
def IsPlace (fs : FileSystem) (p : Path) (l : Location) : Prop :=
  fs.locate p = .ok (.named l)

theorem isPlace_iff : fs.IsPlace p l ↔ needShort p = .ok () ∧ ∃ name directory,
    p.names.getLast? = some name ∧ fs.walk (fs.start p) p.names.dropLast = .ok directory ∧
      fs.lookup directory = some .directory ∧ name ≠ ".." ∧
      name.utf8ByteSize ≤ maxNameBytes ∧ l = name :: directory := by
  unfold IsPlace locate
  cases short : needShort p with
  | error e => simp
  | ok u =>
    dsimp only
    cases last : p.names.getLast? with
    | none => simp
    | some name =>
      dsimp only
      cases walked : fs.walk (fs.start p) p.names.dropLast with
      | error e => simp
      | ok directory =>
        dsimp only
        cases here : fs.needDirectory directory with
        | error e =>
          have noDirectory : fs.lookup directory ≠ some .directory := fun h => by
            rw [needDirectory_eq_ok.mpr h] at here
            cases here
          simp [noDirectory]
        | ok u =>
          have isDirectory := needDirectory_eq_ok.mp here
          dsimp only
          split_ifs with up long
          · simp [up]
          · simp [Nat.not_le.mpr long]
          · simp [isDirectory, up, Nat.not_lt.mp long, eq_comm]

theorem IsPlace.unique {l' : Location} (one : fs.IsPlace p l) (other : fs.IsPlace p l') :
    l = l' := by
  have same := one.symm.trans other
  simpa using same

theorem SameTree.start (same : SameTree fs fs') (p : Path) : fs'.start p = fs.start p := by
  simp [FileSystem.start, same.workingDirectory]

theorem SameTree.isPlace (same : SameTree fs fs') (place : fs.IsPlace p l) : fs'.IsPlace p l := by
  obtain ⟨short, name, directory, last, walked, isDirectory, up, long, rfl⟩ := isPlace_iff.mp place
  refine isPlace_iff.mpr ⟨short, name, directory, last, ?_, ?_, up, long, rfl⟩
  · rw [same.start]
    exact same.walk walked isDirectory
  · exact (same.directory_iff directory).mpr isDirectory

theorem SameTree.isPlace_iff (same : SameTree fs fs') : fs'.IsPlace p l ↔ fs.IsPlace p l :=
  ⟨same.symm.isPlace, same.isPlace⟩

@[simp] theorem start_child (p : Path) (name : String) : fs.start (p.child name) = fs.start p := rfl

/-- The place of an entry below a path lies in the directory that the path leads to. -/
theorem isPlace_child_iff {name : String} : fs.IsPlace (p.child name) l ↔
    needShort (p.child name) = .ok () ∧ ∃ directory, fs.walk (fs.start p) p.names = .ok directory ∧
      fs.lookup directory = some .directory ∧ name ≠ ".." ∧
      name.utf8ByteSize ≤ maxNameBytes ∧ l = name :: directory := by
  have last : (p.child name).names.getLast? = some name := List.getLast?_concat
  have front : (p.child name).names.dropLast = p.names := List.dropLast_concat
  rw [isPlace_iff, last, front, start_child]
  constructor
  · rintro ⟨short, other, directory, same, walks⟩
    cases same
    exact ⟨short, directory, walks⟩
  · rintro ⟨short, directory, walks⟩
    exact ⟨short, name, directory, rfl, walks⟩

/-- Entries with different names below a path have different places. -/
theorem IsPlace.child_injective {name other : String} (one : fs.IsPlace (p.child name) l)
    (two : fs.IsPlace (p.child other) l) : name = other := by
  obtain ⟨_, directory, _, _, _, _, here⟩ := isPlace_child_iff.mp one
  obtain ⟨_, directory', _, _, _, _, there⟩ := isPlace_child_iff.mp two
  rw [here] at there
  exact (List.cons.inj there).1

/-- A path that does not end with the parent directory leads to its place, if anything is there. -/
theorem resolve_iff_isPlace {name : String} (last : p.names.getLast? = some name)
    (up : name ≠ "..") :
    fs.resolve p = .ok l ↔ fs.IsPlace p l ∧ (fs.lookup l).isSome := by
  have split : p.names = p.names.dropLast ++ [name] := by
    have nonempty : p.names ≠ [] := by
      rintro empty
      simp [empty] at last
    rw [List.getLast?_eq_some_getLast nonempty, Option.some.injEq] at last
    rw [← last, List.dropLast_concat_getLast nonempty]
  rw [isPlace_iff, resolve]
  cases short : needShort p with
  | error e => simp
  | ok u =>
    dsimp only
    -- Both sides walk to the directory of the last name; only the last step is left to compare.
    rw [split, walk_append, List.dropLast_concat, List.getLast?_concat]
    cases walked : fs.walk (fs.start p) p.names.dropLast with
    | error e => simp
    | ok directory =>
      simp only [walk]
      cases here : fs.needDirectory directory with
      | error e =>
        have noDirectory : fs.lookup directory ≠ some .directory := fun h => by
          rw [needDirectory_eq_ok.mpr h] at here
          cases here
        simp [noDirectory]
      | ok u =>
        have isDirectory := needDirectory_eq_ok.mp here
        dsimp only
        rw [if_neg up]
        split_ifs with long present
        · simp only [Option.some.injEq, Except.ok.injEq, false_iff, not_and]
          rintro ⟨_, _, _, rfl, rfl, _, _, fits, rfl⟩
          exact absurd fits (Nat.not_le.mpr long)
        · constructor
          · intro found
            cases found
            exact ⟨⟨trivial, name, directory, rfl, rfl, isDirectory, up, Nat.not_lt.mp long, rfl⟩,
              present⟩
          · rintro ⟨⟨_, _, _, lasts, walks, _, _, _, rfl⟩, _⟩
            cases lasts
            cases walks
            rfl
        · constructor
          · intro found
            cases found
          · rintro ⟨⟨_, _, _, lasts, walks, _, _, _, rfl⟩, there⟩
            cases lasts
            cases walks
            exact absurd there present

theorem resolve_child_iff {name : String} (up : name ≠ "..") :
    fs.resolve (p.child name) = .ok l ↔ fs.IsPlace (p.child name) l ∧ (fs.lookup l).isSome :=
  resolve_iff_isPlace List.getLast?_concat up

/-! ## From another working directory -/

theorem walk_workingDirectory (fs : FileSystem) (there here : Location) (names : List String) :
    { fs with workingDirectory := there }.walk here names = fs.walk here names := by
  induction names generalizing here with
  | nil => rfl
  | cons name names ih =>
    have directory : { fs with workingDirectory := there }.needDirectory here =
      fs.needDirectory here := rfl
    have entry (l : Location) : { fs with workingDirectory := there }.lookup l = fs.lookup l := rfl
    simp only [walk, directory, entry, ih]

/-- The path leads to a location, and from there to the same location again. -/
def LeadsBack (fs : FileSystem) (p : Path) : Prop :=
  ∃ here, fs.resolve p = .ok here ∧ { fs with workingDirectory := here }.resolve p = .ok here

/-- A path that starts at the root leads to the same location from everywhere. -/
theorem leadsBack_of_absolute {here : Location} (absolute : p.anchor ≠ .relative)
    (found : fs.resolve p = .ok here) : fs.LeadsBack p := by
  refine ⟨here, found, ?_⟩
  have start : fs.start p = [] := by simp [FileSystem.start, absolute]
  have start' : { fs with workingDirectory := here }.start p = [] := by
    simp [FileSystem.start, absolute]
  rw [resolve, start] at found
  rw [resolve, start', walk_workingDirectory]
  exact found

theorem leadsBack_iff {here : Location} (found : fs.resolve p = .ok here) :
    fs.LeadsBack p ↔ { fs with workingDirectory := here }.resolve p = .ok here := by
  constructor
  · rintro ⟨there, found', back⟩
    rw [found, Except.ok.injEq] at found'
    rw [found']
    exact back
  · exact fun back => ⟨here, found, back⟩

theorem SameTree.resolve (same : SameTree fs fs') (found : fs.resolve p = .ok l)
    (directory : fs.lookup l = some .directory) : fs'.resolve p = .ok l := by
  unfold FileSystem.resolve at found ⊢
  cases short : needShort p with
  | error e => simp [short] at found
  | ok u =>
    simp only [short] at found ⊢
    rw [same.start]
    exact same.walk found directory

theorem SameTree.leadsBack (same : SameTree fs fs') {here : Location}
    (found : fs.resolve p = .ok here) (directory : fs.lookup here = some .directory)
    (back : fs.LeadsBack p) : fs'.LeadsBack p := by
  have moved : SameTree { fs with workingDirectory := here }
    { fs' with workingDirectory := here } := ⟨rfl, same.directory_iff⟩
  refine ⟨here, same.resolve found directory, ?_⟩
  exact moved.resolve ((leadsBack_iff found).mp back) directory

/-- The text of a path is at most as long as that of an entry below it. -/
theorem needShort_of_child {name : String} (short : needShort (p.child name) = .ok ()) :
    needShort p = .ok () := by
  have fits : (p.child name).toText.utf8ByteSize ≤ maxPathBytes := by
    refine Nat.not_lt.mp fun long => ?_
    simp [needShort, long] at short
  have shorter : p.toText.utf8ByteSize ≤ maxPathBytes := by
    by_cases bare : p.anchor = .relative ∧ p.names = []
    · have point : p.toText = "." := by simp [Path.toText, bare]
      rw [point]
      decide
    · refine Nat.le_trans ?_ fits
      have text : p.toText = Path.anchorText p.anchor ++ String.intercalate "/" p.names := by
        have named : (decide (p.anchor = .relative) && decide (p.names = [])) = false := by
          simpa using bare
        simp [Path.toText, named]
      have below : (p.child name).toText =
          Path.anchorText p.anchor ++ String.intercalate "/" (p.names ++ [name]) := by
        simp [Path.toText, Path.child]
      rw [text, below]
      by_cases empty : p.names = []
      · simp [empty]
      · simp [String.intercalate_append_of_ne_nil empty]
        omega
  simp [needShort, Nat.not_lt.mpr shorter]

/-- An entry below a path lies in the directory that the path leads to. -/
theorem IsPlace.exists_parent {name : String} (place : fs.IsPlace (p.child name) l) :
    ∃ here, l = name :: here ∧ fs.resolve p = .ok here ∧ fs.lookup here = some .directory := by
  obtain ⟨short, here, walks, directory, _, _, rfl⟩ := isPlace_child_iff.mp place
  refine ⟨here, rfl, ?_, directory⟩
  rw [resolve, needShort_of_child short]
  exact walks

/-- From the directory of an entry, the path of the entry leads to it just if the path of the
directory leads back to the directory. -/
theorem resolve_child_from_iff {name : String} {here : Location}
    (place : fs.IsPlace (p.child name) (name :: here))
    (present : (fs.lookup (name :: here)).isSome) :
    { fs with workingDirectory := here }.resolve (p.child name) = .ok (name :: here) ↔
      fs.LeadsBack p := by
  obtain ⟨short, here', walks, directory, up, fits, same⟩ := isPlace_child_iff.mp place
  cases same
  obtain ⟨_, same, found, _⟩ := place.exists_parent
  cases same
  rw [leadsBack_iff found, resolve_child_iff up, isPlace_child_iff, resolve,
    needShort_of_child short]
  constructor
  · rintro ⟨⟨_, there, walks', _, _, _, same⟩, _⟩
    cases same
    exact walks'
  · intro walks'
    exact ⟨⟨short, here, walks', directory, up, fits, rfl⟩, present⟩

end CrashDiff.FileSystem
