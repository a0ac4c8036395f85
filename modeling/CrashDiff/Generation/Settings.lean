import CrashDiff.Generation.Ratio

/-!
# Generation settings

The settings of the random case generator, what makes them valid, and the check that turns a
request into settings. A removal count may be as large as the number of types, so that every type
can be removed, but no larger: `maxRemovals` is one more than the greatest count.
-/

namespace CrashDiff

/-- Settings of the case generator. -/
structure GenerationSettings where
  typeCount : Nat := 8
  /-- How often the arguments are a subset of the types. -/
  argumentSubset : Rat := mkRat 3 4
  /-- How often the parameters are a subset of the types. -/
  parameterSubset : Rat := mkRat 1 2
  /-- How often a subset is shuffled. -/
  shuffle : Rat := mkRat 1 4
  /-- Removal counts are drawn below this number. -/
  maxRemovals : Nat := 8
  minLength : Nat := 1
  maxLength : Nat := 8
deriving DecidableEq, Repr

namespace GenerationSettings

/-- A ratio that is a probability. -/
def IsProbability (q : Rat) : Prop :=
  0 ≤ q ∧ q ≤ 1

instance (q : Rat) : Decidable (IsProbability q) :=
  inferInstanceAs (Decidable (_ ∧ _))

/-- What the generator needs of its settings. -/
structure Valid (s : GenerationSettings) : Prop where
  typeCount_pos : 0 < s.typeCount
  argumentSubset : IsProbability s.argumentSubset
  parameterSubset : IsProbability s.parameterSubset
  shuffle : IsProbability s.shuffle
  maxRemovals_le : s.maxRemovals ≤ s.typeCount + 1
  minLength_le : s.minLength ≤ s.maxLength

/-- The tags of all types, in order. -/
def allTags (s : GenerationSettings) : List Int :=
  (List.range s.typeCount).map fun (i : Nat) => (i : Int) + 1

theorem valid_default : Valid {} where
  typeCount_pos := by decide
  argumentSubset := by decide +kernel
  parameterSubset := by decide +kernel
  shuffle := by decide +kernel
  maxRemovals_le := by decide
  minLength_le := by decide

end GenerationSettings

/-- The settings that hold a probability. -/
inductive ProbabilityName where
  | argumentSubset
  | parameterSubset
  | shuffle
deriving DecidableEq, Repr

/-- The name of a probability in messages. -/
def ProbabilityName.label : ProbabilityName → String
  | .argumentSubset => "argument_subset_probability"
  | .parameterSubset => "parameter_subset_probability"
  | .shuffle => "shuffle_probability"

/-- Why settings for the generator are refused. -/
inductive GenerationError where
  | typeCount (given : Int)
  | ratio (name : ProbabilityName) (cause : RatioError)
  | outOfRange (name : ProbabilityName) (value : Rat)
  | maxRemovals (limit given : Int)
  | emptyRange (low high : Int)
deriving DecidableEq, Repr

/-- The text of a ratio in a message; none if it has too many digits to be written. -/
def Ratio.shortText? (q : Rat) : Option String :=
  if Number.tenTo Text.maxNumeralDigits ≤ max q.num.natAbs q.den then none else some (toText q)

/-- The message for refused settings. -/
def GenerationError.message : GenerationError → String
  | .typeCount given => "type_count must be positive, got " ++ Text.numeral given
  | .ratio _ cause => cause.message
  | .outOfRange name value =>
    match Ratio.shortText? value with
    | some text => name.label ++ " must be within [0, 1], got " ++ text
    | none => Text.digitLimitText
  | .maxRemovals limit given =>
    "max_removals must be within [0, " ++ Text.numeral limit ++ "], got " ++ Text.numeral given
  | .emptyRange low high =>
    "multiset length range is empty: [" ++ Text.numeral low ++ ", " ++ Text.numeral high ++ "]"

/-- A request for settings, as it is written down: nothing is checked yet. -/
structure GenerationRequest where
  typeCount : Int := 8
  argumentSubset : Json := .str "3/4"
  parameterSubset : Json := .str "1/2"
  shuffle : Json := .str "1/4"
  maxRemovals : Int := 8
  minLength : Int := 1
  maxLength : Int := 8

namespace GenerationRequest

open GenerationSettings

/-- A requested probability. -/
def probability (name : ProbabilityName) (value : Json) :
    Except GenerationError { q : Rat // IsProbability q } :=
  match Ratio.ofJson value with
  | .error cause => .error (.ratio name cause)
  | .ok q => if h : IsProbability q then .ok ⟨q, h⟩ else .error (.outOfRange name q)

/-- The settings for a request. The number of types is checked first, then the probabilities,
then the removals, and the range of lengths last. -/
def accept (r : GenerationRequest) : Except GenerationError { s : GenerationSettings // s.Valid } :=
  if types : r.typeCount < 1 then .error (.typeCount r.typeCount)
  else
    match probability .argumentSubset r.argumentSubset with
    | .error e => .error e
    | .ok argument =>
    match probability .parameterSubset r.parameterSubset with
    | .error e => .error e
    | .ok parameter =>
    match probability .shuffle r.shuffle with
    | .error e => .error e
    | .ok shuffle =>
    if removals : 0 ≤ r.maxRemovals ∧ r.maxRemovals ≤ r.typeCount + 1 then
      if lengths : 0 ≤ r.minLength ∧ r.minLength ≤ r.maxLength then
        .ok ⟨{
          typeCount := r.typeCount.toNat
          argumentSubset := argument
          parameterSubset := parameter
          shuffle := shuffle
          maxRemovals := r.maxRemovals.toNat
          minLength := r.minLength.toNat
          maxLength := r.maxLength.toNat },
          ⟨by dsimp only; omega, argument.2, parameter.2, shuffle.2, by dsimp only; omega,
            by dsimp only; omega⟩⟩
      else .error (.emptyRange r.minLength r.maxLength)
    else .error (.maxRemovals (r.typeCount + 1) r.maxRemovals)

/-- The request that spells out given settings. -/
def ofSettings (s : GenerationSettings) : GenerationRequest where
  typeCount := s.typeCount
  argumentSubset := .str (Ratio.toText s.argumentSubset)
  parameterSubset := .str (Ratio.toText s.parameterSubset)
  shuffle := .str (Ratio.toText s.shuffle)
  maxRemovals := s.maxRemovals
  minLength := s.minLength
  maxLength := s.maxLength

end GenerationRequest

end CrashDiff
