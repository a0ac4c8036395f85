import CrashDiff.Proofs.Program.Reader

/-!
# Nothing is lost in a source text

The text of a case tells its identifier, its parameters, its arguments and the number of types, for
any lists of whole numbers that can be written. A text is decoded by reading its structure and
checking that it is one that is rendered: the declared types are numbered from one, and the three
names of functions have the same number.

Results:
1. `decode?_eq_some_iff`: a text is decoded exactly if it is rendered from the decoded content.
2. `compose_of_isShort`, `compose_of_not_isShort`: which contents are written out.
3. `lossless_compose`: decoding undoes writing, and writing undoes decoding.
-/

namespace CrashDiff.Source

/-- What a source text is rendered from. -/
structure Content where
  identifier : Int
  parameters : List Int
  arguments : List Int
  typeCount : Nat
deriving DecidableEq, Repr

namespace Content

/-- The structure of the text with a content. -/
def toStructure (content : Content) : Structure where
  declared := (List.range content.typeCount).map fun (i : Nat) => (i : Int) + 1
  defined := content.identifier
  parameters := content.parameters
  caller := content.identifier
  called := content.identifier
  arguments := content.arguments

/-- The content that the text with a structure would have. -/
def ofStructure (st : Structure) : Content where
  identifier := st.defined
  parameters := st.parameters
  arguments := st.arguments
  typeCount := st.declared.length

theorem ofStructure_toStructure (content : Content) :
    ofStructure content.toStructure = content := by
  cases content
  simp [ofStructure, toStructure]

end Content

/-- The content of a text that is rendered from one. -/
def decode? (text : String) : Option Content :=
  match read? text with
  | some st => if (Content.ofStructure st).toStructure = st then some (.ofStructure st) else none
  | none => none

/-- Rendering gives the text of the structure. -/
theorem text_toStructure (content : Content) :
    content.toStructure.text =
      render content.identifier content.parameters content.arguments content.typeCount := by
  rw [Structure.text, render, layout, Content.toStructure, tagsTo, List.map_map, List.map_map,
    List.map_map, List.map_map, List.map_map]
  rfl

theorem read?_render (content : Content) :
    read? (render content.identifier content.parameters content.arguments content.typeCount) =
      some content.toStructure :=
  read?_eq_some_iff.mpr (text_toStructure content).symm

/-- A text is decoded exactly if it is rendered from the decoded content. -/
theorem decode?_eq_some_iff {text : String} {content : Content} :
    decode? text = some content ↔
      text = render content.identifier content.parameters content.arguments content.typeCount := by
  constructor
  · intro decoded
    rw [decode?] at decoded
    split at decoded
    · rename_i st read
      split at decoded
      · rename_i rendered
        cases decoded
        rw [read?_eq_some_iff.mp read, ← text_toStructure, rendered]
      · cases decoded
    · cases decoded
  · rintro rfl
    simp only [decode?, read?_render, Content.ofStructure_toStructure, if_true]

/-! ## Texts that are written out -/

namespace Content

/-- All numbers of a content can be written, those of its types included. -/
structure IsShort (content : Content) : Prop where
  identifier : Text.isShort content.identifier = true
  parameters : ∀ tag ∈ content.parameters, Text.isShort tag = true
  arguments : ∀ tag ∈ content.arguments, Text.isShort tag = true
  typeCount : Text.isShort content.typeCount = true

/-- The text of a content, with its numbers written out. -/
def compose (content : Content) : Except Failure String :=
  Source.compose (.number content.identifier) (content.parameters.map .number)
    (content.arguments.map .number) content.typeCount

end Content

/-- The tags of types can be written if their count can. -/
theorem all_isShort_tagsTo (typeCount : Nat) :
    (tagsTo typeCount).all Text.isShort = Text.isShort typeCount := by
  rw [Bool.eq_iff_iff, List.all_eq_true, tagsTo]
  simp only [List.mem_map, List.mem_range, forall_exists_index, and_imp,
    forall_apply_eq_imp_iff₂]
  constructor
  · intro tags
    cases typeCount with
    | zero => decide
    | succ n => exact tags n (Nat.lt_succ_self n)
  · intro short i below
    exact Text.isShort_of_natAbs_le short (by omega)

/-- A text is written out as it is rendered, if all its numbers are short enough. -/
theorem compose_of_isShort {content : Content} (short : content.IsShort) :
    content.compose = .ok (render content.identifier content.parameters content.arguments
      content.typeCount) := by
  have types := (all_isShort_tagsTo content.typeCount).trans short.typeCount
  have parameters := List.all_eq_true.mpr short.parameters
  have arguments := List.all_eq_true.mpr short.arguments
  rw [Content.compose, compose, Whole.mapM_written, Whole.mapM_written, Whole.mapM_written, types,
    parameters, arguments, Whole.written_number short.identifier]
  rfl

/-- A text with a number that is too long is not written at all. -/
theorem compose_of_not_isShort {content : Content} (long : ¬ content.IsShort) :
    content.compose = .error .tooLong := by
  rw [Content.compose, compose, Whole.mapM_written, Whole.mapM_written, Whole.mapM_written,
    all_isShort_tagsTo]
  cases types : Text.isShort content.typeCount with
  | false => rfl
  | true =>
    cases parameters : content.parameters.all Text.isShort with
    | false => rfl
    | true =>
      cases arguments : content.arguments.all Text.isShort with
      | false => rfl
      | true =>
        have identifier : Text.isShort content.identifier = false := by
          rw [← Bool.not_eq_true]
          exact fun short => long
            ⟨short, List.all_eq_true.mp parameters, List.all_eq_true.mp arguments, types⟩
        rw [Whole.written_of_long identifier]
        rfl

/-- Writing out a text is lossless.

* A content has a text exactly if all its numbers have few enough digits. Decoding the text gives
  the content back.
* Contents with the same text are the same.
* A text that is decoded to such a content is what the content is written out as again. -/
theorem lossless_compose (content : Content) :
    (content.IsShort → ∃ text, content.compose = .ok text ∧ decode? text = some content) ∧
      (¬ content.IsShort → content.compose = .error .tooLong) ∧
      (∀ (content' : Content) (text : String), content.compose = .ok text →
        content'.compose = .ok text → content' = content) ∧
      ∀ text, content.IsShort → decode? text = some content → content.compose = .ok text := by
  have decoded (c : Content) (text : String) (composed : c.compose = .ok text) :
      decode? text = some c := by
    by_cases short : c.IsShort
    · rw [compose_of_isShort short] at composed
      exact decode?_eq_some_iff.mpr (Except.ok.inj composed).symm
    · rw [compose_of_not_isShort short] at composed
      cases composed
  refine ⟨fun short => ⟨_, compose_of_isShort short, decode?_eq_some_iff.mpr rfl⟩,
    compose_of_not_isShort, fun content' text composed composed' => ?_, fun text short read => ?_⟩
  · exact Option.some.inj ((decoded content' text composed').symm.trans
      (decoded content text composed))
  · rw [compose_of_isShort short, decode?_eq_some_iff.mp read]

/-- A negative identifier, a tag that is named twice and is not declared, and no argument. -/
theorem lossless_of_negative_identifier :
    ∃ text, compose (.number (-7)) [.number 3, .number 3] [] 2 = .ok text ∧
      decode? text = some ⟨-7, [3, 3], [], 2⟩ :=
  (lossless_compose ⟨-7, [3, 3], [], 2⟩).1
    ⟨by decide, by decide, fun tag member => absurd member List.not_mem_nil, by decide⟩

/-- One with 4300 zeros behind it has no text. The truth value that counts as one has a text, but
not that of one, and it is not decoded. -/
theorem uncomposed_of_long_identifier :
    compose (.number (Number.tenTo Text.maxNumeralDigits)) [] [] 1 = .error .tooLong ∧
      Whole.value (.truth true) = 1 ∧
      ∃ text, compose (.truth true) [] [] 1 = .ok text ∧ compose (.number 1) [] [] 1 ≠ .ok text ∧
        decode? text = none := by
  have uncomposed {n : Int} (long : Text.isShort n = false) :
      compose (.number n) [] [] 1 = .error .tooLong := by
    let content : Content := ⟨n, [], [], 1⟩
    have not_short : ¬ content.IsShort := fun short =>
      absurd short.identifier (Bool.eq_false_iff.mp long)
    exact compose_of_not_isShort not_short
  let one : Content := ⟨1, [], [], 1⟩
  have short : one.IsShort := ⟨by decide, by decide, by decide, by decide⟩
  refine ⟨uncomposed Text.isShort_tenTo, rfl, layout ["1"] "True" [] [], rfl, fun same => ?_,
    by decide +kernel⟩
  have text : render 1 [] [] 1 = layout ["1"] "True" [] [] :=
    Except.ok.inj ((compose_of_isShort short).symm.trans same)
  exact absurd text (by decide +kernel)

end CrashDiff.Source
