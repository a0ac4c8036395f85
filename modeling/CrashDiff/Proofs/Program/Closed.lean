import CrashDiff.Proofs.Generation.TypeList
import CrashDiff.Proofs.Program.Lossless
import CrashDiff.Proofs.Run.Bodies

/-!
# Generated programs are closed

The generator draws only tags of types that the text declares, since both get the same number of
types. So a program of a worker never fails for an undeclared name: each type that it names is
declared exactly once, and the function that it calls is the one that it defines.

Results:
1. `isTag_of_body`: the tags that can be drawn for a body.
2. `closed_toStructure`: which rendered programs are closed.
3. `isShort_nextContent_iff`: which cases of the workers can be written.
4. `closed_composeCase`: the programs of the workers are closed.
-/

namespace CrashDiff

namespace Source

theorem typeName_injective {s t : Int} (same : typeName s = typeName t) : s = t := by
  have lists := congrArg String.toList same
  rw [toList_typeName, toList_typeName] at lists
  exact Text.numeral_injective (String.toList_inj.mp (List.tail_eq_of_cons_eq lists))

/-- A program without free names, for an identifier and a number of types. -/
structure Structure.Closed (st : Structure) (identifier : Int) (typeCount : Nat) : Prop where
  /-- The declared types are numbered from one. -/
  declared : st.declared = (List.range typeCount).map fun (i : Nat) => (i : Int) + 1
  /-- No name is declared twice. -/
  once : (st.declared.map typeName).Nodup
  defined : st.defined = identifier
  caller : st.caller = identifier
  called : st.called = st.defined
  parameters : ∀ tag ∈ st.parameters, typeName tag ∈ st.declared.map typeName
  arguments : ∀ tag ∈ st.arguments, typeName tag ∈ st.declared.map typeName

/-- A rendered program is closed if all its tags are those of types. -/
theorem closed_toStructure {content : Content} {s : GenerationSettings}
    (types : content.typeCount = s.typeCount) (parameters : ∀ t ∈ content.parameters, s.IsTag t)
    (arguments : ∀ t ∈ content.arguments, s.IsTag t) :
    content.toStructure.Closed content.identifier content.typeCount := by
  have all : content.toStructure.declared = s.allTags := by
    rw [Content.toStructure, types]
    rfl
  constructor
  · rfl
  · rw [all]
    exact s.nodup_allTags.map fun _ _ => typeName_injective
  · rfl
  · rfl
  · rfl
  · intro t member
    rw [all]
    exact List.mem_map_of_mem (s.mem_allTags_iff.mpr (parameters t member))
  · intro t member
    rw [all]
    exact List.mem_map_of_mem (s.mem_allTags_iff.mpr (arguments t member))

end Source

namespace Draws

/-- Only tags of types are drawn for a body. -/
theorem isTag_of_body {s : GenerationSettings} (valid : s.Valid) {b : Body}
    (yields : (body s).CanYield b) :
    (∀ t ∈ b.parameters, s.IsTag t) ∧ ∀ t ∈ b.arguments, s.IsTag t := by
  simp only [body, canYield_bind_iff, canYield_done_iff] at yields
  obtain ⟨arguments, drawn, parameters, drawn', rfl⟩ := yields
  exact ⟨isTag_of_typeList valid drawn', isTag_of_typeList valid drawn⟩

end Draws

/-- A case that can be written out is the case that is built. -/
theorem TestCase.compose_of_isShort {content : Source.Content} (short : content.IsShort)
    (directory : Path) :
    compose (.number content.identifier) (content.parameters.map .number)
        (content.arguments.map .number) directory content.typeCount =
      .ok (build content.identifier ⟨content.parameters, content.arguments⟩ directory
        content.typeCount) := by
  have values (tags : List Int) : (tags.map Whole.number).map Whole.value = tags := by
    rw [List.map_map]
    exact List.map_id tags
  have source : Source.compose (.number content.identifier) (content.parameters.map .number)
      (content.arguments.map .number) content.typeCount = _ := Source.compose_of_isShort short
  rw [compose, source, Source.composeFileName, Whole.written_number short.identifier, values,
    values]
  rfl

theorem TestCase.compose_of_not_isShort {content : Source.Content} (long : ¬ content.IsShort)
    (directory : Path) :
    compose (.number content.identifier) (content.parameters.map .number)
        (content.arguments.map .number) directory content.typeCount = .error .tooLong := by
  have source : Source.compose (.number content.identifier) (content.parameters.map .number)
      (content.arguments.map .number) content.typeCount = _ := Source.compose_of_not_isShort long
  rw [compose, source]
  rfl

namespace Pool

variable {σ : Type} [DrawSource σ]

/-- The content of the next case of a worker. -/
def nextContent (worker : Nat) (p : Pool σ) : Source.Content :=
  ⟨p.counter.value, (p.nextCase worker).1.parameters, (p.nextCase worker).1.arguments,
    p.settings.generation.typeCount⟩

/-- Only tags of types are drawn for the next case. -/
theorem isTag_of_nextContent (p : Pool σ) (worker : Nat) :
    (∀ t ∈ (p.nextContent worker).parameters, p.settings.generation.IsTag t) ∧
      ∀ t ∈ (p.nextContent worker).arguments, p.settings.generation.IsTag t :=
  Draws.isTag_of_body p.settings.generation_valid
    (Draws.canYield_run (Draws.body p.settings.generation)
      (Draws.feasible_body p.settings.generation_valid) (p.sources worker))

/-- The numbers of the next case can be written if its identifier and the number of types can. -/
theorem isShort_nextContent_iff (p : Pool σ) (worker : Nat) :
    (p.nextContent worker).IsShort ↔
      Text.isShort p.counter.value = true ∧
        Text.isShort p.settings.generation.typeCount = true := by
  refine ⟨fun short => ⟨short.identifier, short.typeCount⟩, fun ⟨identifier, types⟩ => ?_⟩
  have short (tag : Int) (isTag : p.settings.generation.IsTag tag) :
      Text.isShort tag = true := by
    obtain ⟨low, high⟩ := isTag
    exact Text.isShort_of_natAbs_le types (by omega)
  obtain ⟨parameters, arguments⟩ := isTag_of_nextContent p worker
  exact ⟨identifier, fun tag member => short tag (parameters tag member),
    fun tag member => short tag (arguments tag member), types⟩

/-- A case is written out as it is built, if its numbers are short enough. -/
theorem composeCase_of_isShort {p : Pool σ} {worker : Nat}
    (short : (p.nextContent worker).IsShort) :
    (p.composeCase worker).1 = .ok (p.nextCase worker).1 :=
  TestCase.compose_of_isShort short _

theorem composeCase_of_not_isShort {p : Pool σ} {worker : Nat}
    (long : ¬ (p.nextContent worker).IsShort) :
    (p.composeCase worker).1 = .error .tooLong :=
  TestCase.compose_of_not_isShort long _

/-- The program of the next case of a worker is closed, whatever its random source yields.

* It is written exactly if the identifier and the number of types have few enough digits. Then the
  text is that of a structure, and reading it gives the structure back.
* The structure is closed, for the next identifier and the number of types of the settings.
* The lists of the structure are those that the source yields, and those of the case. -/
theorem closed_composeCase (p : Pool σ) (worker : Nat) :
    (Text.isShort p.counter.value = true ∧ Text.isShort p.settings.generation.typeCount = true →
      ∃ case st,
        (p.composeCase worker).1 = .ok case ∧
        case.source = st.text ∧
        Source.read? case.source = some st ∧
        st.Closed p.counter.value p.settings.generation.typeCount ∧
        (⟨st.parameters, st.arguments⟩ : Body) =
          (p.settings.generation.drawBody p.settings.generation_valid (p.sources worker)).1 ∧
        case.identifier = p.counter.value ∧
        case.parameters = st.parameters ∧
        case.arguments = st.arguments) ∧
      (¬ (Text.isShort p.counter.value = true ∧
          Text.isShort p.settings.generation.typeCount = true) →
        (p.composeCase worker).1 = .error .tooLong) := by
  rw [← isShort_nextContent_iff p worker]
  refine ⟨fun short => ?_, composeCase_of_not_isShort⟩
  let content := p.nextContent worker
  obtain ⟨parameters, arguments⟩ := isTag_of_nextContent p worker
  exact ⟨(p.nextCase worker).1, content.toStructure, composeCase_of_isShort short,
    (Source.text_toStructure content).symm, Source.read?_render content,
    Source.closed_toStructure rfl parameters arguments, rfl, rfl, rfl, rfl⟩

/-- The first case of a pool with a single type. -/
theorem closed_first_case :
    ∃ case st, ((small "/sbx" []).composeCase 0).1 = .ok case ∧
      Source.read? case.source = some st ∧ st.Closed 0 1 := by
  obtain ⟨case, st, composed, -, read, closed, -⟩ :=
    (closed_composeCase (small "/sbx" []) 0).1 (by decide)
  exact ⟨case, st, composed, read, closed⟩

/-- A counter that starts with more digits than may be written makes no case. An identifier that is
a truth value makes a case, but the names of its functions have no number. -/
theorem unclosed_of_long_identifier :
    (({ small "/sbx" [] with counter := ⟨Number.tenTo Text.maxNumeralDigits⟩ } : Pool
        Zeros).composeCase 0).1 = .error .tooLong ∧
      ∃ case, TestCase.compose (.truth true) [] [.number 1] (.ofText "/sbx") 1 = .ok case ∧
        case.identifier = 1 ∧ Source.read? case.source = none := by
  refine ⟨composeCase_of_not_isShort fun short => ?_, _, rfl, rfl, by decide +kernel⟩
  exact absurd short.identifier (Bool.eq_false_iff.mp Text.isShort_tenTo)

end Pool

end CrashDiff
