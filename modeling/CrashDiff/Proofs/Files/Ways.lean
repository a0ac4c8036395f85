import CrashDiff.Proofs.Files.Changes
import CrashDiff.Proofs.Files.Path
import Mathlib.Data.List.Basic

/-!
# Ways of paths

The way of a path is what is passed when the path is followed. It depends on the path and on the
working directory alone, and not on what is there.

Results:
1. `walk_congr`: what is found on a way depends on the entries on it.
2. `IsPlace.eq_spot`: the place of a path is the end of its way.
3. `paved_of_makeDirectory`: after a directory has been made there are directories all the way.
4. `Grows.isPlace`: a path keeps its place where directories are made.
-/

namespace CrashDiff

namespace Path

/-- Where a name leads to. -/
def follow (here : Location) (name : String) : Location :=
  if name = ".." then here.tail else name :: here

/-- Where a path starts if the working directory is `home`. -/
def origin (home : Location) (p : Path) : Location :=
  if p.anchor = .relative then home else []

/-- The locations that are passed on the way of a path, from its start to its end. -/
def way (home : Location) (p : Path) : List Location :=
  p.names.scanl follow (p.origin home)

/-- The end of the way of a path. -/
def spot (home : Location) (p : Path) : Location :=
  p.names.foldl follow (p.origin home)

theorem foldl_mem_scanl (here : Location) (names : List String) :
    names.foldl follow here ∈ names.scanl follow here := by
  induction names generalizing here with
  | nil => simp
  | cons name names ih =>
    rw [List.scanl_cons, List.foldl_cons]
    exact List.mem_cons_of_mem _ (ih _)

theorem spot_child {home : Location} {p : Path} {name : String} (up : name ≠ "..") :
    (p.child name).spot home = name :: p.spot home := by
  have names : (p.child name).names = p.names ++ [name] := rfl
  have origin : (p.child name).origin home = p.origin home := rfl
  rw [spot, names, origin, List.foldl_append]
  exact if_neg up

end Path

namespace FileSystem

open CrashDiff.Path

variable {fs fs' : FileSystem} {p : Path} {l here there : Location} {names : List String}

/-! ## Ways -/

/-- What is found on a way depends on the entries on it. -/
theorem walk_congr (same : ∀ k ∈ names.scanl follow here, fs'.lookup k = fs.lookup k) :
    fs'.walk here names = fs.walk here names := by
  induction names generalizing here with
  | nil => rfl
  | cons name names ih =>
    rw [List.scanl_cons] at same
    have rest := ih fun k later => same k (List.mem_cons_of_mem _ later)
    have first : fs'.needDirectory here = fs.needDirectory here := by
      rw [needDirectory, needDirectory, same here List.mem_cons_self]
    rw [walk, walk, first]
    by_cases up : name = ".."
    · rw [if_pos up, if_pos up]
      rw [follow, if_pos up] at rest
      rw [rest]
    · rw [if_neg up, if_neg up]
      rw [follow, if_neg up] at rest
      have next : fs'.lookup (name :: here) = fs.lookup (name :: here) := by
        refine same _ (List.mem_cons_of_mem _ ?_)
        rw [follow, if_neg up]
        cases names <;> simp
      rw [rest, next]

theorem foldl_of_walk (found : fs.walk here names = .ok there) :
    there = names.foldl follow here := by
  induction names generalizing here with
  | nil =>
    cases found
    rfl
  | cons name names ih =>
    rw [walk] at found
    rw [List.foldl_cons, follow]
    split at found
    · cases found
    · split_ifs at found with up long present
      · rw [if_pos up]
        exact ih found
      · rw [if_neg up]
        exact ih found

/-- There are directories all the way to a directory. -/
theorem directories_of_walk (found : fs.walk here names = .ok there)
    (directory : fs.lookup there = some .directory) :
    ∀ k ∈ names.scanl follow here, fs.lookup k = some .directory := by
  induction names generalizing here with
  | nil =>
    cases found
    simpa using directory
  | cons name names ih =>
    rw [List.scanl_cons]
    refine List.forall_mem_cons.mpr ⟨lookup_of_walk (by simp) found, ?_⟩
    rw [walk] at found
    rw [follow]
    split at found
    · cases found
    · split_ifs at found with up long present
      · rw [if_pos up]
        exact ih found
      · rw [if_neg up]
        exact ih found

/-- The place of a path is the end of its way. -/
theorem IsPlace.eq_spot (place : fs.IsPlace p l) : l = p.spot fs.workingDirectory := by
  obtain ⟨_, name, directory, last, walks, _, up, _, rfl⟩ := isPlace_iff.mp place
  have split : p.names = p.names.dropLast ++ [name] :=
    (List.dropLast_append_getLast? name last).symm
  rw [spot, split, List.foldl_append, foldl_of_walk walks]
  exact (if_neg up).symm

/-! ## Directories that have been made -/

/-- There are directories all the way of a path. -/
def Paved (fs : FileSystem) (p : Path) : Prop :=
  ∀ k ∈ p.way fs.workingDirectory, fs.lookup k = some .directory

theorem paved_of_isDirectory (directory : fs.isDirectory p = true) : fs.Paved p := by
  unfold isDirectory resolve at directory
  cases short : needShort p with
  | error e => simp [short] at directory
  | ok u =>
    cases walked : fs.walk (fs.start p) p.names with
    | error e => simp [short, walked] at directory
    | ok there =>
      rw [short] at directory
      simp only [walked, isDirectoryAt, decide_eq_true_eq] at directory
      exact directories_of_walk walked directory

theorem paved_of_makeOne (made : makeOne p fs = (.ok (), fs')) : fs'.Paved p := by
  unfold makeOne locateNew at made
  cases located : fs.locate p with
  | error e => simp [located] at made
  | ok target =>
    cases target with
    | special => simp [located] at made
    | named l =>
      cases entry : fs.lookup l with
      | some e => simp [located, entry] at made
      | none =>
        simp only [located, entry, Option.isSome_none, Bool.false_eq_true, if_false, Prod.mk.injEq,
          true_and] at made
        subst made
        have place : fs.IsPlace p l := located
        have other : fs.lookup l ≠ some .directory := by simp [entry]
        have below := ne_nil_of_not_directory other
        obtain ⟨_, name, directory, last, walks, isDirectory, up, _, rfl⟩ := isPlace_iff.mp place
        have split : p.names = p.names.dropLast ++ [name] :=
          (List.dropLast_append_getLast? name last).symm
        intro k passed
        rw [way, split, List.scanl_append, List.mem_append] at passed
        rcases passed with before | final
        · have there := directories_of_walk walks isDirectory k before
          rw [lookup_put_of_ne, there]
          rintro rfl
          rw [there] at entry
          cases entry
        · change k ∈ (List.scanl follow (p.names.dropLast.foldl follow (fs.start p)) [name]).tail
            at final
          rw [← foldl_of_walk walks] at final
          have reached : k = name :: directory := by simpa [follow, up] using final
          rw [reached, lookup_put_self below]

theorem paved_of_forgive {existing : Bool} {attempt : Except SystemError Unit × FileSystem}
    (paved : ∀ fs, attempt = (.ok (), fs) → fs.Paved p)
    (done : forgive existing p attempt = (.ok (), fs')) : fs'.Paved p := by
  obtain ⟨result, fs⟩ := attempt
  cases result with
  | ok u =>
    cases done
    exact paved _ rfl
  | error e =>
    rw [forgive] at done
    split at done
    · rename_i forgiven
      cases done
      simp only [Bool.and_eq_true] at forgiven
      exact paved_of_isDirectory forgiven.2
    · cases done

theorem paved_of_makeAll {anchor : Anchor} {existing : Bool} {above : List String}
    (done : makeAll anchor existing above fs = (.ok (), fs')) :
    fs'.Paved ⟨anchor, above.reverse⟩ := by
  cases above with
  | nil => exact paved_of_forgive (fun _ made => paved_of_makeOne made) done
  | cons name above =>
    rw [makeAll] at done
    dsimp only at done
    split at done
    · split at done
      · cases done
      · exact paved_of_forgive (fun _ made => paved_of_makeOne made) done
    · exact paved_of_forgive (fun _ made => paved_of_makeOne made) done

/-- After a directory has been made there are directories all the way. -/
theorem paved_of_makeDirectory {existing : Bool}
    (done : makeDirectory existing p fs = (.ok (), fs')) : fs'.Paved p := by
  unfold makeDirectory at done
  split at done
  · cases done
  · have paved := paved_of_makeAll done
    rwa [List.reverse_reverse] at paved

/-! ## Places after directories have been made -/

theorem workingDirectory_makeOne (p : Path) (fs : FileSystem) :
    (makeOne p fs).2.workingDirectory = fs.workingDirectory := by
  unfold makeOne
  split <;> rfl

theorem workingDirectory_makeAll (anchor : Anchor) (existing : Bool) (names : List String)
    (fs : FileSystem) :
    (makeAll anchor existing names fs).2.workingDirectory = fs.workingDirectory := by
  induction names generalizing existing fs with
  | nil =>
    rw [makeAll, forgive_snd]
    exact workingDirectory_makeOne _ fs
  | cons name above ih =>
    rw [makeAll]
    dsimp only
    have first := workingDirectory_makeOne ⟨anchor, (name :: above).reverse⟩ fs
    split
    · rename_i fs' attempt
      rw [attempt] at first
      have rest := ih true fs'
      split
      · rename_i e fs'' failed
        rw [failed] at rest
        exact rest.trans first
      · rename_i fs'' done
        rw [done] at rest
        rw [forgive_snd]
        exact (workingDirectory_makeOne _ fs'').trans (rest.trans first)
    · rw [forgive_snd]
      exact first

theorem workingDirectory_makeDirectory (existing : Bool) (p : Path) (fs : FileSystem) :
    (makeDirectory existing p fs).2.workingDirectory = fs.workingDirectory := by
  unfold makeDirectory
  split
  · rfl
  · exact workingDirectory_makeAll _ _ _ fs

/-- A path keeps its place where directories are made. -/
theorem Grows.isPlace (grows : Grows fs fs') (stays : fs'.workingDirectory = fs.workingDirectory)
    (place : fs.IsPlace p l) : fs'.IsPlace p l := by
  obtain ⟨short, name, directory, last, walks, isDirectory, rest⟩ := isPlace_iff.mp place
  have kept {k : Location} (there : fs.lookup k = some .directory) :
      fs'.lookup k = fs.lookup k := by
    rcases grows k with same | ⟨absent, _⟩
    · exact same
    · rw [there] at absent
      cases absent
  have start : fs'.start p = fs.start p := by rw [FileSystem.start, stays]; rfl
  have passed := directories_of_walk walks isDirectory
  refine isPlace_iff.mpr ⟨short, name, directory, last, ?_, (kept isDirectory).trans isDirectory,
    rest⟩
  rw [start, walk_congr fun k onWay => kept (passed k onWay), walks]

end FileSystem

end CrashDiff
