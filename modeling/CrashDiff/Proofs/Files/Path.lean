import CrashDiff.Program.TestCase
import CrashDiff.Proofs.Text.OneLine

/-!
# Paths and their texts

A path that was read from a text is canonical: no name is empty, a single point or holds a slash.

Results:
1. `canonical_ofText`: every text is read as a canonical path.
2. `ofText_toText`: a canonical path is read back from its text.
3. `Source.fileName_injective`: no two identifiers share a file name.
-/

namespace CrashDiff

open Text

namespace Path

/-! ## Canonical paths -/

/-- A name that a path keeps when it is read. -/
structure IsProper (name : String) : Prop where
  ne_empty : name ≠ ""
  ne_point : name ≠ "."
  no_slash : '/' ∉ name.toList

/-- All names of the path are kept when it is read. -/
def Canonical (p : Path) : Prop :=
  ∀ name ∈ p.names, IsProper name

theorem Canonical.child {p : Path} (canonical : p.Canonical) {name : String}
    (proper : IsProper name) : (p.child name).Canonical := by
  intro other member
  rcases List.mem_append.mp member with old | new
  · exact canonical other old
  · rw [List.mem_singleton.mp new]
    exact proper

theorem components_eq_splitOn (cs : List Char) : components cs = cs.splitOn '/' := by
  induction cs with
  | nil => rfl
  | cons c cs ih =>
    rw [components, List.splitOn_cons_eq_if_modifyHead, ih]
    by_cases slash : c = '/'
    · simp [slash]
    · simp only [slash, if_false, beq_iff_eq]
      cases pieces : cs.splitOn '/' with
      | nil => exact absurd pieces (List.splitOn_ne_nil _ _)
      | cons l ls => rfl

theorem slash_not_mem_of_mem_components {cs l : List Char} (member : l ∈ components cs) :
    '/' ∉ l := by
  induction cs generalizing l with
  | nil =>
    rw [components, List.mem_singleton] at member
    simp [member]
  | cons c cs ih =>
    rw [components] at member
    split at member
    · rcases List.mem_cons.mp member with rfl | later
      · simp
      · exact ih later
    · rename_i other
      split at member
      · rw [List.mem_singleton.mp member]
        simpa using Ne.symm other
      · rename_i first rest pieces
        rcases List.mem_cons.mp member with rfl | later
        · have inFirst : '/' ∉ first := ih (by rw [pieces]; exact List.mem_cons_self)
          simp [inFirst, Ne.symm other]
        · exact ih (by rw [pieces]; exact List.mem_cons_of_mem _ later)

theorem canonical_ofText (text : String) : (ofText text).Canonical := by
  intro name member
  simp only [ofText, List.mem_map, List.mem_filter] at member
  obtain ⟨l, ⟨inComponents, kept⟩, rfl⟩ := member
  simp only [isName, Bool.and_eq_true, bne_iff_ne, ne_eq] at kept
  refine ⟨?_, ?_, ?_⟩
  · intro empty
    exact kept.1 (by simpa using congrArg String.toList empty)
  · intro point
    exact kept.2 (by simpa using congrArg String.toList point)
  · simpa using slash_not_mem_of_mem_components inComponents

/-! ## Reading a text back -/

/-- The names of a path with slashes between them. -/
def joined (names : List String) : List Char :=
  ['/'].intercalate (names.map String.toList)

theorem joined_head? {names : List String} (proper : ∀ name ∈ names, IsProper name) :
    (joined names).head? ≠ some '/' := by
  cases names with
  | nil => simp [joined]
  | cons name rest =>
    have own := proper name List.mem_cons_self
    cases letters : name.toList with
    | nil => exact absurd (by simpa using letters) own.ne_empty
    | cons c cs =>
      have other : c ≠ '/' := by
        rintro rfl
        exact own.no_slash (by rw [letters]; exact List.mem_cons_self)
      have first : (joined (name :: rest)).head? = some c := by
        cases rest <;> simp [joined, letters]
      rw [first]
      simpa using other

theorem names_of_joined {names : List String} (proper : ∀ name ∈ names, IsProper name) :
    ((components (joined names)).filter isName).map String.ofList = names := by
  by_cases empty : names = []
  · simp [empty, joined, components, isName]
  · have pieces : components (joined names) = names.map String.toList := by
      rw [components_eq_splitOn, joined]
      refine List.splitOn_intercalate '/' ?_ (by simpa using empty)
      intro l member
      obtain ⟨name, inNames, rfl⟩ := List.mem_map.mp member
      exact (proper name inNames).no_slash
    have kept : (names.map String.toList).filter isName = names.map String.toList := by
      refine List.filter_eq_self.mpr ?_
      intro l member
      obtain ⟨name, inNames, rfl⟩ := List.mem_map.mp member
      have own := proper name inNames
      have notPoint : name.toList ≠ ['.'] := fun point =>
        own.ne_point (String.toList_inj.mp (by simpa using point))
      simpa [isName, own.ne_empty] using notPoint
    rw [pieces, kept, List.map_map]
    simp [Function.comp_def]

theorem anchorOf_of_head? {cs : List Char} (start : cs.head? ≠ some '/') :
    anchorOf cs = .relative ∧ anchorOf ('/' :: cs) = .root ∧
      anchorOf ('/' :: '/' :: cs) = .doubleRoot := by
  cases cs with
  | nil => exact ⟨rfl, rfl, rfl⟩
  | cons c cs =>
    have other : c ≠ '/' := by simpa using start
    simp [anchorOf, other]

theorem toList_toText {p : Path} (named : p.anchor = .relative → p.names ≠ []) :
    p.toText.toList = (anchorText p.anchor).toList ++ joined p.names := by
  have kept : (decide (p.anchor = .relative) && decide (p.names = [])) = false := by
    simpa using named
  simp only [toText, kept]
  simp [joined]

/-- A canonical path is read back from its text. -/
theorem ofText_toText {p : Path} (canonical : p.Canonical) : ofText p.toText = p := by
  obtain ⟨anchor, names⟩ := p
  have start := anchorOf_of_head? (joined_head? canonical)
  have kept := names_of_joined canonical
  by_cases bare : anchor = .relative ∧ names = []
  · obtain ⟨rfl, rfl⟩ := bare
    rfl
  · have text := toList_toText (p := ⟨anchor, names⟩) fun relative empty => bare ⟨relative, empty⟩
    have noName : isName [] = false := rfl
    -- The slashes of an anchor leave empty components in front, which are no names.
    cases anchor with
    | relative =>
      simp only [anchorText, String.toList_empty, List.nil_append] at text
      simp only [ofText, text, start.1, kept]
    | root =>
      have letters : (anchorText .root).toList = ['/'] := rfl
      rw [letters] at text
      simp only [ofText, text, List.cons_append, List.nil_append, start.2.1, components, if_true]
      rw [List.filter_cons_of_neg (by simp [noName]), kept]
    | doubleRoot =>
      have letters : (anchorText .doubleRoot).toList = ['/', '/'] := rfl
      rw [letters] at text
      simp only [ofText, text, List.cons_append, List.nil_append, start.2.2, components, if_true]
      rw [List.filter_cons_of_neg (by simp [noName]), List.filter_cons_of_neg (by simp [noName]),
        kept]

theorem oneLine_toText_iff {p : Path} : OneLine p.toText ↔ ∀ name ∈ p.names, OneLine name := by
  unfold toText
  split
  · rename_i bare
    have empty : p.names = [] := by
      simp only [Bool.and_eq_true, decide_eq_true_eq] at bare
      exact bare.2
    simp only [empty, List.not_mem_nil, false_imp_iff, implies_true, iff_true]
    decide
  · have anchor : OneLine (anchorText p.anchor) := by
      cases p.anchor <;> decide
    rw [oneLine_append, oneLine_intercalate_iff (by decide)]
    exact and_iff_right anchor

end Path

/-! ## File names of cases -/

namespace Source

theorem fileName_injective {m n : Int} (same : fileName m = fileName n) : m = n := by
  have lists := congrArg String.toList same
  simp only [fileName, fileNameOf, String.toList_append, List.append_assoc] at lists
  have tails := List.append_cancel_left lists
  exact numeral_injective (String.toList_inj.mp (List.append_cancel_right tails))

theorem not_mem_fileName {c : Char} (notDigit : c.isDigit = false) (notMinus : c ≠ '-')
    (front : c ∉ "fuzz".toList) (ending : c ∉ ".rs".toList) (n : Int) :
    c ∉ (fileName n).toList := by
  intro member
  simp only [fileName, fileNameOf, String.toList_append, List.mem_append] at member
  rcases member with (inFront | number) | inEnding
  · exact front inFront
  · rcases isDigit_or_minus_of_mem_numeral number with digit | minus
    · simp [notDigit] at digit
    · exact notMinus minus
  · exact ending inEnding

theorem fileName_ne_of_length {s : String} (short : s.length < 7) (n : Int) : fileName n ≠ s := by
  rintro rfl
  simp only [fileName, fileNameOf, String.length_append] at short
  have word : "fuzz".length = 4 := rfl
  have ending : ".rs".length = 3 := rfl
  omega

theorem isProper_fileName (n : Int) : Path.IsProper (fileName n) where
  ne_empty := fileName_ne_of_length (by decide) n
  ne_point := fileName_ne_of_length (by decide) n
  no_slash := not_mem_fileName (by decide) (by decide) (by decide) (by decide) n

theorem fileName_ne_parent (n : Int) : fileName n ≠ ".." :=
  fileName_ne_of_length (by decide) n

theorem oneLine_fileName (n : Int) : OneLine (fileName n) :=
  not_mem_fileName (by decide) (by decide) (by decide) (by decide) n

end Source

end CrashDiff
