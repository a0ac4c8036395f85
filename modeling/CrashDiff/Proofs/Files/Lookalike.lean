import CrashDiff.Proofs.Files.Ways

/-!
# File systems that look alike

The files of two runs of one program that keep different logs. They differ in the logs, and perhaps
in what somebody else has done. The way of the directory that the program works in looks the same in
both, so the files that the program puts there can be written and removed in both or in none.

Results:
1. `Lookalike.append_right`: adding to a log changes nothing that matters.
2. `Lookalike.write_cases`: a file is written in both or in none, and then it is the same in both.
3. `Lookalike.remove_cases`: a file that is the same in both is removed from both or from none.
-/

namespace CrashDiff

/-- What two file systems may differ in, if the working directory is `home`.

* `hidden`: locations where anything may differ.
* `logs`: locations where only one of them may have a file, or both have different ones.
* `way_open`, `cases_open`: neither the way of the directory `scratch` nor any file of a case in it
  is hidden. -/
structure Margin (home : Location) (scratch : Path) where
  hidden : Location → Prop
  logs : Location → Prop
  way_open : ∀ l ∈ scratch.way home, ¬ hidden l
  cases_open : ∀ n, ¬ hidden (Source.fileName n :: scratch.spot home)

namespace Margin

variable {home : Location} {scratch : Path} (m : Margin home scratch)

/-- The margin if both file systems have the same at a location. -/
def without (l : Location) : Margin home scratch :=
  { m with logs := fun k => m.logs k ∧ k ≠ l }

/-- The location is in the margin. -/
def Covers (l : Location) : Prop :=
  m.hidden l ∨ m.logs l

end Margin

namespace FileSystem

variable {home : Location} {scratch : Path} {m : Margin home scratch}
  {fs fs' gs : FileSystem} {l : Location} {text text' : String}

/-- Both file systems differ in nothing but the margin. A log is not on the way of the directory
`scratch`, unless there is a directory in its place. -/
structure Lookalike (m : Margin home scratch) (fs fs' : FileSystem) : Prop where
  here : fs.workingDirectory = home
  there : fs'.workingDirectory = home
  directory_iff : ∀ l, ¬ m.hidden l →
    (fs'.lookup l = some .directory ↔ fs.lookup l = some .directory)
  entry : ∀ l, ¬ m.Covers l → fs'.lookup l = fs.lookup l
  way : ∀ l ∈ scratch.way home, m.logs l → fs.lookup l = some .directory

namespace Lookalike

theorem of_paved (here : fs.workingDirectory = home) (paved : fs.Paved scratch) :
    Lookalike m fs fs where
  here := here
  there := here
  directory_iff _ _ := Iff.rfl
  entry _ _ := rfl
  way l passed _ := paved l (here ▸ passed)

theorem symm (alike : Lookalike m fs fs') : Lookalike m fs' fs where
  here := alike.there
  there := alike.here
  directory_iff l visible := (alike.directory_iff l visible).symm
  entry l outside := (alike.entry l outside).symm
  way l passed log := (alike.directory_iff l (m.way_open l passed)).mpr (alike.way l passed log)

/-- The whole way of the directory looks the same. -/
theorem lookup_of_mem_way (alike : Lookalike m fs fs') {l : Location}
    (passed : l ∈ scratch.way home) : fs'.lookup l = fs.lookup l := by
  by_cases log : m.logs l
  · rw [alike.way l passed log]
    exact (alike.directory_iff l (m.way_open l passed)).mpr (alike.way l passed log)
  · exact alike.entry l fun covered => covered.elim (m.way_open l passed) log

/-! ## Changes of one of them -/

/-- In the margin one of them may change, if directories that are not hidden stay what they are. -/
theorem change_right (alike : Lookalike m fs fs') (there : gs.workingDirectory = home)
    (entry : ∀ l, ¬ m.Covers l → gs.lookup l = fs'.lookup l)
    (directory_iff : ∀ l, m.logs l → ¬ m.hidden l →
      (gs.lookup l = some .directory ↔ fs'.lookup l = some .directory)) : Lookalike m fs gs where
  here := alike.here
  there := there
  directory_iff l visible := by
    refine Iff.trans ?_ (alike.directory_iff l visible)
    by_cases log : m.logs l
    · exact directory_iff l log visible
    · rw [entry l fun covered => covered.elim visible log]
  entry l outside := (entry l outside).trans (alike.entry l outside)
  way := alike.way

/-- What is hidden may change in any way. -/
theorem change_hidden (alike : Lookalike m fs fs')
    (stays : gs.workingDirectory = fs'.workingDirectory)
    (visible : ∀ l, ¬ m.hidden l → gs.lookup l = fs'.lookup l) : Lookalike m fs gs :=
  alike.change_right (stays.trans alike.there)
    (fun l outside => visible l fun hidden => outside (.inl hidden))
    fun l _ clear => by rw [visible l clear]

/-- A file may be written in place of a log. -/
theorem put_right (alike : Lookalike m fs fs') (covered : m.Covers l)
    (other : fs'.lookup l ≠ some .directory) (text : String) :
    Lookalike m fs (fs'.put l (.file text)) := by
  refine alike.change_right alike.there (fun k outside => ?_) fun k _ _ =>
    (SameTree.put_file other text).directory_iff k
  refine lookup_put_of_ne ?_
  rintro rfl
  exact outside covered

theorem append_right {path : Path} (alike : Lookalike m fs fs')
    (covered : m.Covers (path.spot home)) (text : String) :
    Lookalike m fs (append path text fs').2 := by
  rcases append_cases path text fs' with ⟨f, failed⟩ | ⟨l, place, other, added⟩
  · rw [failed]
    exact alike
  · rw [added]
    have spot := place.eq_spot
    rw [alike.there] at spot
    rw [← spot] at covered
    exact alike.put_right covered other _

/-! ## Changes of both -/

/-- What becomes the same in both at one location, and stays what it is elsewhere. -/
theorem change_both {gs' : FileSystem} (alike : Lookalike m fs fs')
    (here : gs.workingDirectory = home) (there : gs'.workingDirectory = home)
    (same : gs'.lookup l = gs.lookup l) (elsewhere : ∀ k, k ≠ l → gs.lookup k = fs.lookup k)
    (elsewhere' : ∀ k, k ≠ l → gs'.lookup k = fs'.lookup k) : Lookalike (m.without l) gs gs' where
  here := here
  there := there
  directory_iff k visible := by
    by_cases hit : k = l
    · rw [hit, same]
    · rw [elsewhere k hit, elsewhere' k hit]
      exact alike.directory_iff k visible
  entry k outside := by
    by_cases hit : k = l
    · rw [hit, same]
    · rw [elsewhere k hit, elsewhere' k hit]
      exact alike.entry k fun covered => outside (covered.imp_right fun log => ⟨log, hit⟩)
  way k passed log := by
    rw [elsewhere k log.2]
    exact alike.way k passed log.1

theorem put (alike : Lookalike m fs fs') (l : Location) (entry : Entry) :
    Lookalike (m.without l) (fs.put l entry) (fs'.put l entry) := by
  refine alike.change_both alike.here alike.there ?_ (fun k other => lookup_put_of_ne other)
    fun k other => lookup_put_of_ne other
  by_cases root : l = []
  · simp [lookup, root]
  · rw [lookup_put_self root, lookup_put_self root]

theorem erase (alike : Lookalike m fs fs') (l : Location) :
    Lookalike (m.without l) (fs.erase l) (fs'.erase l) := by
  refine alike.change_both alike.here alike.there ?_ (fun k other => lookup_erase_of_ne other)
    fun k other => lookup_erase_of_ne other
  by_cases root : l = []
  · simp [lookup, root]
  · rw [lookup_erase_self root, lookup_erase_self root]

/-- What is the same at a location may differ there again. -/
theorem widen (alike : Lookalike (m.without l) fs fs')
    (clear : l ∈ scratch.way home → ¬ m.logs l) : Lookalike m fs fs' where
  here := alike.here
  there := alike.there
  directory_iff := alike.directory_iff
  entry k outside := alike.entry k fun covered => outside (covered.imp_right And.left)
  way k passed log := by
    refine alike.way k passed ⟨log, ?_⟩
    rintro rfl
    exact clear passed log

/-- Files with different texts may be written in place of a log that is not on the way. -/
theorem put_texts (alike : Lookalike m fs fs') (covered : m.Covers l)
    (off : l ∉ scratch.way home) (text text' : String) :
    Lookalike m (fs.put l (.file text)) (fs'.put l (.file text')) where
  here := alike.here
  there := alike.there
  directory_iff k visible := by
    by_cases hit : k = l
    · subst hit
      by_cases root : k = []
      · simp [lookup, root]
      · simp [lookup_put_self root]
    · rw [lookup_put_of_ne hit, lookup_put_of_ne hit]
      exact alike.directory_iff k visible
  entry k outside := by
    have other : k ≠ l := by
      rintro rfl
      exact outside covered
    rw [lookup_put_of_ne other, lookup_put_of_ne other]
    exact alike.entry k outside
  way k passed log := by
    have other : k ≠ l := by
      rintro rfl
      exact off passed
    rw [lookup_put_of_ne other]
    exact alike.way k passed log

/-- A file that is not on the way is written in both from an offset on. -/
theorem writeAt (alike : Lookalike m fs fs') (off : l ∉ scratch.way home) (offset : Nat)
    (text : String) : Lookalike m (fs.writeAt l offset text) (fs'.writeAt l offset text) := by
  unfold FileSystem.writeAt
  by_cases covered : m.Covers l
  · exact alike.put_texts covered off _ _
  · have same : fs'.contents? l = fs.contents? l := by
      rw [contents?, contents?, alike.entry l covered]
    rw [same]
    exact (alike.put l _).widen fun passed => absurd passed off

/-! ## Files of cases -/

theorem locate_child (alike : Lookalike m fs fs') (name : String) :
    fs'.locate (scratch.child name) = fs.locate (scratch.child name) := by
  have last : (scratch.child name).names.getLast? = some name := List.getLast?_concat
  have front : (scratch.child name).names.dropLast = scratch.names := List.dropLast_concat
  have starts : fs'.start scratch = fs.start scratch := by
    simp only [FileSystem.start, alike.here, alike.there]
  have walks : fs'.walk (fs.start scratch) scratch.names =
      fs.walk (fs.start scratch) scratch.names := by
    refine walk_congr fun k passed => alike.lookup_of_mem_way ?_
    rw [← alike.here]
    exact passed
  unfold locate
  rw [last, front, start_child, start_child, starts, walks]
  cases needShort (scratch.child name) with
  | error e => rfl
  | ok u =>
    dsimp only
    cases walked : fs.walk (fs.start scratch) scratch.names with
    | error e => rfl
    | ok directory =>
      have ends : directory ∈ scratch.way home := by
        rw [foldl_of_walk walked, ← alike.here]
        exact Path.foldl_mem_scanl _ _
      have first : fs'.needDirectory directory = fs.needDirectory directory := by
        rw [needDirectory, needDirectory, alike.lookup_of_mem_way ends]
      dsimp only
      rw [first]

theorem eq_spot_of_case (alike : Lookalike m fs fs') {n : Int}
    (place : fs.IsPlace (scratch.child (Source.fileName n)) l) :
    l = Source.fileName n :: scratch.spot home := by
  rw [place.eq_spot, alike.here, Path.spot_child (Source.fileName_ne_parent n)]

theorem locateFile_case (alike : Lookalike m fs fs') (n : Int) :
    fs'.locateFile (scratch.child (Source.fileName n)) =
      fs.locateFile (scratch.child (Source.fileName n)) := by
  unfold locateFile
  rw [alike.locate_child]
  cases located : fs.locate (scratch.child (Source.fileName n)) with
  | error e => rfl
  | ok target =>
    cases target with
    | special => rfl
    | named l =>
      have visible : ¬ m.hidden l := by
        rw [alike.eq_spot_of_case located]
        exact m.cases_open n
      have same : fs'.isDirectoryAt l = fs.isDirectoryAt l := by
        simp only [isDirectoryAt, alike.directory_iff l visible]
      dsimp only
      rw [same]

/-- The file of a case is written in both or in none. -/
theorem write_cases (alike : Lookalike m fs fs') (n : Int) (text : String) :
    (∃ f, write (scratch.child (Source.fileName n)) text fs = (.error f, fs) ∧
      write (scratch.child (Source.fileName n)) text fs' = (.error f, fs')) ∨
    ∃ l, fs.IsPlace (scratch.child (Source.fileName n)) l ∧ fs.lookup l ≠ some .directory ∧
      write (scratch.child (Source.fileName n)) text fs = (.ok (), fs.put l (.file text)) ∧
      write (scratch.child (Source.fileName n)) text fs' = (.ok (), fs'.put l (.file text)) := by
  unfold write create
  rw [alike.locateFile_case]
  cases hasNull (scratch.child (Source.fileName n)) with
  | true => exact .inl ⟨_, rfl, rfl⟩
  | false =>
    cases located : fs.locateFile (scratch.child (Source.fileName n)) with
    | error e => exact .inl ⟨_, rfl, rfl⟩
    | ok l =>
      obtain ⟨place, other⟩ := locateFile_eq_ok.mp located
      exact .inr ⟨l, place, other, by simp [put_put], by simp [put_put]⟩

/-- The file of a case that is the same in both is removed from both or from none. -/
theorem remove_cases (alike : Lookalike m fs fs') (n : Int)
    (same : ∀ l, fs.IsPlace (scratch.child (Source.fileName n)) l → fs'.lookup l = fs.lookup l) :
    (∃ f, remove (scratch.child (Source.fileName n)) fs = (.error f, fs) ∧
      remove (scratch.child (Source.fileName n)) fs' = (.error f, fs')) ∨
    ∃ l, fs.IsPlace (scratch.child (Source.fileName n)) l ∧ fs.lookup l ≠ some .directory ∧
      remove (scratch.child (Source.fileName n)) fs = (.ok l, fs.erase l) ∧
      remove (scratch.child (Source.fileName n)) fs' = (.ok l, fs'.erase l) := by
  unfold remove
  rw [alike.locate_child]
  cases hasNull (scratch.child (Source.fileName n)) with
  | true => exact .inl ⟨_, rfl, rfl⟩
  | false =>
    cases located : fs.locate (scratch.child (Source.fileName n)) with
    | error e => exact .inl ⟨_, rfl, rfl⟩
    | ok target =>
      cases target with
      | special => exact .inl ⟨_, rfl, rfl⟩
      | named l =>
        dsimp only
        rw [same l located]
        cases entry : fs.lookup l with
        | none => exact .inl ⟨_, rfl, rfl⟩
        | some e =>
          cases e with
          | directory => exact .inl ⟨_, rfl, rfl⟩
          | file text => exact .inr ⟨l, located, by simp [entry], rfl, rfl⟩

end Lookalike

end FileSystem

end CrashDiff
