import CrashDiff.Program.Source
import CrashDiff.Proofs.Program.Number

/-!
# The reader of source texts is exact

A structure has one text, and the reader accepts exactly the texts of structures: nothing that it
reads is ambiguous, since no name goes on with a digit, and the brackets, commas and line feeds
around a name are no part of one.

Results:
1. `named?_eq_some_iff`, `items?_eq_some_iff`, `declarations?_eq_some_iff`: what the parts of the
   reader accept.
2. `read?_eq_some_iff`: a text has a structure exactly if it is the text of the structure.
-/

namespace CrashDiff.Source

open Text

variable {word cs rest : List Char} {ns : List Int} {fuel : Nat}

/-! ## Names -/

theorem noDigit_cons {c : Char} (other : isAsciiDigit c = false) (cs : List Char) :
    NoDigit (c :: cs) := by
  rintro d ⟨⟩
  exact other

theorem after?_eq_some_iff : after? word cs = some rest ↔ cs = word ++ rest := by
  induction word generalizing cs with
  | nil => simp [after?]
  | cons w word ih =>
    cases cs with
    | nil => simp [after?]
    | cons c cs =>
      rw [after?, List.cons_append, List.cons.injEq]
      split
      · rename_i same
        rw [ih, eq_comm (a := c)]
        exact (and_iff_right same).symm
      · rename_i other
        constructor
        · rintro ⟨⟩
        · rintro ⟨rfl, -⟩
          exact absurd rfl other

theorem named?_eq_some_iff {n : Int} :
    named? word cs = some (n, rest) ↔ cs = word ++ ((numeral n).toList ++ rest) ∧ NoDigit rest := by
  rw [named?, Option.bind_eq_some_iff]
  constructor
  · rintro ⟨behind, found, number⟩
    obtain ⟨rfl, ends⟩ := number?_eq_some_iff.mp number
    exact ⟨after?_eq_some_iff.mp found, ends⟩
  · rintro ⟨text, ends⟩
    exact ⟨_, after?_eq_some_iff.mpr text, number?_eq_some_iff.mpr ⟨rfl, ends⟩⟩

/-! ## Lists in brackets -/

/-- Further names, each with a comma in front. -/
def moreItemText (word : List Char) (ns : List Int) : List Char :=
  ns.flatMap fun n => [',', ' '] ++ (word ++ (numeral n).toList)

/-- Names with commas between them. -/
def itemText (word : List Char) (ns : List Int) : List Char :=
  [',', ' '].intercalate (ns.map fun n => word ++ (numeral n).toList)

theorem itemText_cons (word : List Char) (n : Int) (ns : List Int) :
    itemText word (n :: ns) = word ++ ((numeral n).toList ++ moreItemText word ns) := by
  induction ns generalizing n with
  | nil => simp [itemText, moreItemText]
  | cons m ns ih =>
    have later := ih m
    rw [itemText, List.map_cons] at later ⊢
    rw [List.map_cons, List.intercalate_cons_cons, later, moreItemText, moreItemText,
      List.flatMap_cons]
    simp only [List.append_assoc]

/-- Behind a name of a list there is a comma or a bracket. -/
theorem noDigit_moreItemText (word : List Char) (ns : List Int) (rest : List Char) :
    NoDigit (moreItemText word ns ++ ')' :: rest) := by
  cases ns with
  | nil => exact noDigit_cons rfl _
  | cons n ns => exact noDigit_cons rfl _

theorem length_le_moreItemText (word : List Char) (ns : List Int) :
    ns.length ≤ (moreItemText word ns).length := by
  induction ns with
  | nil => exact Nat.le_refl 0
  | cons n ns ih =>
    rw [moreItemText, List.flatMap_cons, List.length_append, ← moreItemText]
    simp only [List.length_cons, List.length_append]
    omega

theorem moreItems?_eq_some_iff :
    moreItems? word fuel cs = some (ns, rest) ↔
      ns.length < fuel ∧ cs = moreItemText word ns ++ ')' :: rest := by
  induction fuel generalizing cs ns rest with
  | zero => simp [moreItems?]
  | succ fuel ih =>
    unfold moreItems?
    split
    · rename_i behind
      constructor
      · rintro ⟨⟩
        exact ⟨Nat.succ_pos fuel, rfl⟩
      · rintro ⟨-, text⟩
        cases ns with
        | nil => cases text; rfl
        | cons n ns => cases text
    · rename_i other
      simp only [Option.bind_eq_bind, Option.bind_eq_some_iff, Prod.exists, Option.some.injEq,
        Prod.mk.injEq, after?_eq_some_iff, named?_eq_some_iff, ih]
      constructor
      · rintro ⟨_, rfl, n, _, ⟨rfl, -⟩, ns, _, ⟨enough, rfl⟩, rfl, rfl⟩
        refine ⟨Nat.succ_lt_succ enough, ?_⟩
        simp [moreItemText]
      · rintro ⟨enough, rfl⟩
        cases ns with
        | nil => exact absurd rfl (other rest)
        | cons n ns =>
          refine ⟨_, ?_, n, _, ⟨rfl, noDigit_moreItemText word ns rest⟩, ns, rest,
            ⟨Nat.lt_of_succ_lt_succ enough, rfl⟩, rfl, rfl⟩
          simp [moreItemText]

/-- A list in brackets whose names do not begin with a closing bracket. -/
theorem items?_eq_some_iff {w : Char} (other : w ≠ ')') :
    items? (w :: word) cs = some (ns, rest) ↔ cs = itemText (w :: word) ns ++ ')' :: rest := by
  unfold items?
  split
  · rename_i behind
    constructor
    · rintro ⟨⟩
      rfl
    · intro text
      cases ns with
      | nil => cases text; rfl
      | cons n ns =>
        rw [itemText_cons] at text
        cases text
        exact absurd rfl other
  · rename_i nonempty
    simp only [Option.bind_eq_bind, Option.bind_eq_some_iff, Prod.exists, Option.some.injEq,
      Prod.mk.injEq, named?_eq_some_iff, moreItems?_eq_some_iff]
    constructor
    · rintro ⟨n, _, ⟨rfl, -⟩, ns, _, ⟨-, rfl⟩, rfl, rfl⟩
      rw [itemText_cons]
      simp only [List.append_assoc]
    · rintro rfl
      cases ns with
      | nil => exact absurd rfl (nonempty rest)
      | cons n ns =>
        rw [itemText_cons, List.append_assoc, List.append_assoc]
        refine ⟨n, _, ⟨rfl, noDigit_moreItemText (w :: word) ns rest⟩, ns, rest, ⟨?_, rfl⟩, rfl,
          rfl⟩
        have few := length_le_moreItemText (w :: word) ns
        simp only [List.length_append]
        omega

/-! ## Declarations -/

/-- Declarations, each with its line feed. -/
def declaredText (ns : List Int) : List Char :=
  ns.flatMap fun n => "struct S".toList ++ ((numeral n).toList ++ [';', '\n'])

theorem declaredText_cons (n : Int) (ns : List Int) (rest : List Char) :
    declaredText (n :: ns) ++ rest =
      "struct S".toList ++ ((numeral n).toList ++ ([';', '\n'] ++ (declaredText ns ++ rest))) := by
  rw [declaredText, List.flatMap_cons, ← declaredText]
  simp only [List.append_assoc]

theorem length_le_declaredText (ns : List Int) : ns.length ≤ (declaredText ns).length := by
  induction ns with
  | nil => exact Nat.le_refl 0
  | cons n ns ih =>
    have longer := congrArg List.length (declaredText_cons n ns [])
    simp only [List.append_nil, List.length_append, List.length_cons] at longer ⊢
    omega

/-- Declarations, as many as there are: what is behind them does not begin like one. -/
theorem declarations?_eq_some_iff :
    declarations? fuel cs = some (ns, rest) ↔
      ns ≠ [] ∧ ns.length ≤ fuel ∧ cs = declaredText ns ++ rest ∧ rest.head? ≠ some 's' := by
  induction fuel generalizing cs ns rest with
  | zero =>
    constructor
    · rintro ⟨⟩
    · rintro ⟨nonempty, few, -⟩
      exact absurd (List.length_eq_zero_iff.mp (Nat.le_zero.mp few)) nonempty
  | succ fuel ih =>
    simp only [declarations?, Option.bind_eq_bind, Option.bind_eq_some_iff, Prod.exists,
      after?_eq_some_iff, named?_eq_some_iff]
    constructor
    · rintro ⟨n, _, ⟨rfl, -⟩, behind, rfl, read⟩
      split at read
      · simp only [Option.bind_eq_some_iff, Prod.exists, Option.some.injEq, Prod.mk.injEq, ih]
          at read
        obtain ⟨ns, _, ⟨-, enough, text, ends⟩, rfl, rfl⟩ := read
        refine ⟨List.cons_ne_nil n ns, Nat.succ_le_succ enough, ?_, ends⟩
        rw [declaredText_cons, text]
      · rename_i other
        cases read
        refine ⟨List.cons_ne_nil n [], Nat.le_add_left 1 fuel, (declaredText_cons n [] _).symm, ?_⟩
        intro first
        obtain ⟨behind, rfl⟩ := List.head?_eq_some_iff.mp first
        exact other behind rfl
    · rintro ⟨nonempty, enough, rfl, ends⟩
      cases ns with
      | nil => exact absurd rfl nonempty
      | cons n ns =>
        rw [declaredText_cons]
        refine ⟨n, _, ⟨rfl, noDigit_cons rfl _⟩, _, rfl, ?_⟩
        cases ns with
        | nil =>
          split
          · rename_i first
            exact absurd (congrArg List.head? first) ends
          · rfl
        | cons m ns =>
          have later : declarations? fuel (declaredText (m :: ns) ++ rest) =
              some (m :: ns, rest) :=
            ih.mpr ⟨List.cons_ne_nil m ns, Nat.le_of_succ_le_succ enough, rfl, ends⟩
          obtain ⟨behind, first⟩ : ∃ behind, declaredText (m :: ns) ++ rest = 's' :: behind :=
            ⟨_, rfl⟩
          rw [first] at later ⊢
          simp only [later, Option.bind_some]

/-! ## Structures -/

namespace Structure

/-- The text of a structure. -/
def text (st : Structure) : String :=
  String.intercalate "\n" (st.declared.map fun tag => "struct " ++ typeName tag ++ ";") ++ "\n\n" ++
    "fn foo" ++ numeral st.defined ++ "(" ++
    String.intercalate ", " (st.parameters.map fun tag => "_: " ++ typeName tag) ++
    ") \x7b\x7d\n\n" ++
    "fn test" ++ numeral st.caller ++ "() \x7b foo" ++ numeral st.called ++ "(" ++
    String.intercalate ", " (st.arguments.map typeName) ++ "); \x7d\n"

/-- The text of a structure behind the declarations, in the parts that the reader takes. -/
def functionText (st : Structure) : List Char :=
  "\nfn foo".toList ++ ((numeral st.defined).toList ++ (['('] ++
    (itemText "_: S".toList st.parameters ++ ')' ::
      (" \x7b\x7d\n\nfn test".toList ++ ((numeral st.caller).toList ++
        ("() \x7b foo".toList ++ ((numeral st.called).toList ++ (['('] ++
          (itemText "S".toList st.arguments ++ ')' :: "; \x7d\n".toList)))))))))

end Structure

theorem toList_typeName (tag : Int) : (typeName tag).toList = 'S' :: (numeral tag).toList := by
  rw [typeName, nameOf, String.toList_append]
  rfl

theorem toList_names {name : Int → String}
    (begins : ∀ n, (name n).toList = word ++ (numeral n).toList) (ns : List Int) :
    (String.intercalate ", " (ns.map name)).toList = itemText word ns := by
  rw [String.toList_intercalate, List.map_map, itemText]
  exact congrArg _ (List.map_congr_left fun n _ => begins n)

theorem toList_parameters (ns : List Int) :
    (String.intercalate ", " (ns.map fun tag => "_: " ++ typeName tag)).toList =
      itemText "_: S".toList ns := by
  refine toList_names (fun n => ?_) ns
  rw [String.toList_append, toList_typeName]
  rfl

theorem toList_arguments (ns : List Int) :
    (String.intercalate ", " (ns.map typeName)).toList = itemText "S".toList ns :=
  toList_names toList_typeName ns

/-- The text of declarations in front of a function. Without declarations there is a line feed in
their place. -/
def declarationText (ns : List Int) : List Char :=
  if ns = [] then ['\n'] else declaredText ns

theorem toList_declarations (ns : List Int) :
    (String.intercalate "\n" (ns.map fun tag => "struct " ++ typeName tag ++ ";")).toList ++
      ['\n'] = declarationText ns := by
  cases ns with
  | nil => rfl
  | cons n ns =>
    rw [declarationText, if_neg (List.cons_ne_nil n ns), String.toList_intercalate, List.map_map]
    induction ns generalizing n with
    | nil => simp [declaredText, toList_typeName]
    | cons m ns ih =>
      have later := ih m
      rw [List.map_cons] at later
      rw [List.map_cons, List.map_cons, List.intercalate_cons_cons, List.append_assoc, later]
      simp [declaredText, toList_typeName]

namespace Structure

theorem toList_text (st : Structure) :
    st.text.toList = declarationText st.declared ++ st.functionText := by
  unfold text functionText
  rewrite [← toList_declarations]
  simp only [String.toList_append, toList_parameters, toList_arguments, String.reduceToList]
  simp only [List.append_assoc, List.cons_append, List.nil_append]

end Structure

/-! ## Reading structures -/

/-- The structure of a text behind its declarations. -/
def functions? (declared : List Int) (cs : List Char) : Option Structure := do
  let (defined, rest) ← named? "\nfn foo".toList cs
  let rest ← after? ['('] rest
  let (parameters, rest) ← items? "_: S".toList rest
  let (caller, rest) ← named? " \x7b\x7d\n\nfn test".toList rest
  let (called, rest) ← named? "() \x7b foo".toList rest
  let rest ← after? ['('] rest
  let (arguments, rest) ← items? "S".toList rest
  let rest ← after? "; \x7d\n".toList rest
  if rest = [] then some ⟨declared, defined, parameters, caller, called, arguments⟩ else none

theorem functions?_eq_some_iff {st : Structure} :
    functions? ns cs = some st ↔ ns = st.declared ∧ cs = st.functionText := by
  have parameters {cs rest : List Char} {ns : List Int} :
      items? "_: S".toList cs = some (ns, rest) ↔ cs = itemText "_: S".toList ns ++ ')' :: rest :=
    items?_eq_some_iff (by decide)
  have arguments {cs rest : List Char} {ns : List Int} :
      items? "S".toList cs = some (ns, rest) ↔ cs = itemText "S".toList ns ++ ')' :: rest :=
    items?_eq_some_iff (by decide)
  simp only [functions?, Option.bind_eq_bind, Option.bind_eq_some_iff, Prod.exists,
    after?_eq_some_iff, named?_eq_some_iff, parameters, arguments]
  constructor
  · rintro ⟨_, _, ⟨rfl, -⟩, _, rfl, _, _, rfl, _, _, ⟨rfl, -⟩, _, _, ⟨rfl, -⟩, _, rfl, _, _, rfl,
      rest, rfl, finished⟩
    split at finished
    · rename_i empty
      cases finished
      subst empty
      rw [List.append_nil]
      exact ⟨rfl, rfl⟩
    · cases finished
  · rintro ⟨rfl, rfl⟩
    exact ⟨_, _, ⟨rfl, noDigit_cons rfl _⟩, _, rfl, _, _, rfl, _, _, ⟨rfl, noDigit_cons rfl _⟩,
      _, _, ⟨rfl, noDigit_cons rfl _⟩, _, rfl, _, _, rfl, [], (List.append_nil _).symm, rfl⟩

theorem structureOf?_lineFeed (cs : List Char) :
    structureOf? ('\n' :: cs) = functions? [] cs := rfl

theorem structureOf?_other (other : cs.head? ≠ some '\n') :
    structureOf? cs = (declarations? (cs.length + 1) cs).bind fun (ns, rest) =>
      functions? ns rest := by
  unfold structureOf?
  split
  · exact absurd rfl other
  · rfl

theorem head?_declaredText (nonempty : ns ≠ []) (rest : List Char) :
    (declaredText ns ++ rest).head? = some 's' := by
  cases ns with
  | nil => exact absurd rfl nonempty
  | cons n ns => rfl

theorem head?_functionText (st : Structure) : st.functionText.head? = some '\n' := rfl

theorem structureOf?_eq_some_iff {st : Structure} :
    structureOf? cs = some st ↔ cs = st.text.toList := by
  rw [Structure.toList_text]
  constructor
  · intro read
    by_cases lineFeed : cs.head? = some '\n'
    · obtain ⟨cs, rfl⟩ := List.head?_eq_some_iff.mp lineFeed
      rw [structureOf?_lineFeed, functions?_eq_some_iff] at read
      obtain ⟨empty, rfl⟩ := read
      rw [declarationText, if_pos empty.symm]
      rfl
    · rw [structureOf?_other lineFeed, Option.bind_eq_some_iff] at read
      obtain ⟨⟨ns, rest⟩, declarations, functions⟩ := read
      obtain ⟨nonempty, -, rfl, -⟩ := declarations?_eq_some_iff.mp declarations
      obtain ⟨rfl, rfl⟩ := functions?_eq_some_iff.mp functions
      rw [declarationText, if_neg nonempty]
  · rintro rfl
    by_cases empty : st.declared = []
    · rw [declarationText, if_pos empty]
      exact functions?_eq_some_iff.mpr ⟨empty.symm, rfl⟩
    · rw [declarationText, if_neg empty, structureOf?_other, Option.bind_eq_some_iff]
      · refine ⟨(st.declared, st.functionText), declarations?_eq_some_iff.mpr ?_,
          functions?_eq_some_iff.mpr ⟨rfl, rfl⟩⟩
        have few := length_le_declaredText st.declared
        refine ⟨empty, ?_, rfl, ?_⟩
        · rw [List.length_append]
          omega
        · rw [head?_functionText]
          decide
      · rw [head?_declaredText empty]
        decide

/-- A text has a structure exactly if it is the text of the structure. -/
theorem read?_eq_some_iff {text : String} {st : Structure} :
    read? text = some st ↔ text = st.text := by
  rw [read?, structureOf?_eq_some_iff, String.toList_inj]

end CrashDiff.Source
