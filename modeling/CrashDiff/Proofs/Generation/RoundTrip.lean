import CrashDiff.Generation.TypeList
import CrashDiff.Proofs.Generation.Ratio
import CrashDiff.Proofs.Options.Settings
import CrashDiff.Proofs.Run.Bodies

/-!
# Settings of the generator read back

Settings are made of the numbers of a request and of the ratios that its probabilities denote,
however these are written. So requests that are written differently and denote the same are
accepted alike, and draw the same bodies. The request that spells settings out is accepted as these
settings, with one gap: a ratio in lowest terms may need more digits than may be read.

Results:
1. `accept_eq_ok_iff`: a request is accepted as the settings that it denotes, and as no others.
2. `accept_ofSettings_iff`: when the spelled out settings are accepted.
3. `accept_congr`: alike requests are accepted alike.
4. `reads_back`: all three, with the draws that follow.
5. `accept_ofSettings_tiny`: the gap.
-/

namespace CrashDiff

open GenerationSettings

/-- A probability of the settings. -/
def GenerationSettings.ratio (s : GenerationSettings) : ProbabilityName → Rat
  | .argumentSubset => s.argumentSubset
  | .parameterSubset => s.parameterSubset
  | .shuffle => s.shuffle

namespace GenerationRequest

variable {r r' : GenerationRequest} {s : { s : GenerationSettings // s.Valid }}

/-- A probability of a request, as it is written. -/
def written (r : GenerationRequest) : ProbabilityName → Json
  | .argumentSubset => r.argumentSubset
  | .parameterSubset => r.parameterSubset
  | .shuffle => r.shuffle

/-- The request has the numbers of the settings, and each of its probabilities denotes theirs. -/
structure Denotes (r : GenerationRequest) (s : GenerationSettings) : Prop where
  typeCount : r.typeCount = s.typeCount
  maxRemovals : r.maxRemovals = s.maxRemovals
  minLength : r.minLength = s.minLength
  maxLength : r.maxLength = s.maxLength
  ratio : ∀ name, Ratio.Denotes (r.written name) (s.ratio name)

/-- The requests have the same numbers, and their probabilities denote the same ratios. -/
structure Alike (r r' : GenerationRequest) : Prop where
  typeCount : r.typeCount = r'.typeCount
  maxRemovals : r.maxRemovals = r'.maxRemovals
  minLength : r.minLength = r'.minLength
  maxLength : r.maxLength = r'.maxLength
  ratio : ∀ name, ∃ q, Ratio.Denotes (r.written name) q ∧ Ratio.Denotes (r'.written name) q

/-! ## Acceptance -/

/-- A probability is accepted as what is denoted, if that is a probability. -/
theorem probability_eq_ok_iff {name : ProbabilityName} {value : Json}
    {p : { q : Rat // IsProbability q }} :
    probability name value = .ok p ↔ Ratio.Denotes value p.1 := by
  rw [← Ratio.ofJson_eq_ok_iff]
  constructor
  · intro accepted
    unfold probability at accepted
    split at accepted
    · cases accepted
    · rename_i q read
      split at accepted
      · cases accepted
        exact read
      · cases accepted
  · intro read
    rw [probability, read]
    exact dif_pos p.2

/-- A request is accepted as the settings that it denotes, and as no others. -/
theorem accept_eq_ok_iff : r.accept = .ok s ↔ r.Denotes s.1 := by
  constructor
  · intro accepted
    unfold accept at accepted
    -- Each check that fails is an error, so all of them have passed.
    split at accepted
    case isTrue => cases accepted
    split at accepted
    case h_1 => cases accepted
    rename_i argument first
    split at accepted
    case h_1 => cases accepted
    rename_i parameter second
    split at accepted
    case h_1 => cases accepted
    rename_i shuffle third
    split at accepted
    case isFalse => cases accepted
    rename_i removals
    split at accepted
    case isFalse => cases accepted
    rename_i lengths
    cases accepted
    refine ⟨?_, ?_, ?_, ?_, ?_⟩
    · exact (Int.toNat_of_nonneg (by omega)).symm
    · exact (Int.toNat_of_nonneg removals.1).symm
    · exact (Int.toNat_of_nonneg lengths.1).symm
    · exact (Int.toNat_of_nonneg (le_trans lengths.1 lengths.2)).symm
    · intro name
      cases name with
      | argumentSubset => exact probability_eq_ok_iff.mp first
      | parameterSubset => exact probability_eq_ok_iff.mp second
      | shuffle => exact probability_eq_ok_iff.mp third
  · intro denotes
    have valid := s.2
    have types := valid.typeCount_pos
    have removals := valid.maxRemovals_le
    have lengths := valid.minLength_le
    have argument : probability .argumentSubset r.argumentSubset = .ok ⟨_, valid.argumentSubset⟩ :=
      probability_eq_ok_iff.mpr (denotes.ratio .argumentSubset)
    have parameter : probability .parameterSubset r.parameterSubset =
        .ok ⟨_, valid.parameterSubset⟩ :=
      probability_eq_ok_iff.mpr (denotes.ratio .parameterSubset)
    have shuffle : probability .shuffle r.shuffle = .ok ⟨_, valid.shuffle⟩ :=
      probability_eq_ok_iff.mpr (denotes.ratio .shuffle)
    unfold accept
    rw [dif_neg (by rw [denotes.typeCount]; omega), argument, parameter, shuffle]
    dsimp only
    rw [dif_pos (by rw [denotes.maxRemovals, denotes.typeCount]; omega),
      dif_pos (by rw [denotes.minLength, denotes.maxLength]; omega)]
    refine congrArg Except.ok (Subtype.ext ?_)
    dsimp only
    rw [denotes.typeCount, denotes.maxRemovals, denotes.minLength, denotes.maxLength]
    rfl

theorem written_ofSettings (s : GenerationSettings) (name : ProbabilityName) :
    (ofSettings s).written name = .str (Ratio.toText (s.ratio name)) := by
  cases name <;> rfl

/-- The request that spells settings out is accepted as these settings, if each probability is short
enough to be read. Otherwise it is refused. -/
theorem accept_ofSettings_iff {s' : { s : GenerationSettings // s.Valid }} :
    (ofSettings s.1).accept = .ok s' ↔ s' = s ∧ ∀ name, Ratio.Short (s.1.ratio name) := by
  rw [accept_eq_ok_iff]
  constructor
  · intro denotes
    have ratio (name : ProbabilityName) :
        Ratio.Short (s.1.ratio name) ∧ s'.1.ratio name = s.1.ratio name := by
      rw [← Ratio.denotes_toText_iff, ← written_ofSettings]
      exact denotes.ratio name
    refine ⟨Subtype.ext ?_, fun name => (ratio name).1⟩
    have argument : s'.1.argumentSubset = s.1.argumentSubset := (ratio .argumentSubset).2
    have parameter : s'.1.parameterSubset = s.1.parameterSubset := (ratio .parameterSubset).2
    have shuffle : s'.1.shuffle = s.1.shuffle := (ratio .shuffle).2
    have types : s'.1.typeCount = s.1.typeCount := (Int.ofNat.inj denotes.typeCount).symm
    have removals : s'.1.maxRemovals = s.1.maxRemovals := (Int.ofNat.inj denotes.maxRemovals).symm
    have least : s'.1.minLength = s.1.minLength := (Int.ofNat.inj denotes.minLength).symm
    have most : s'.1.maxLength = s.1.maxLength := (Int.ofNat.inj denotes.maxLength).symm
    obtain ⟨⟨_, _, _, _, _, _, _⟩, _⟩ := s'
    dsimp only at argument parameter shuffle types removals least most ⊢
    rw [argument, parameter, shuffle, types, removals, least, most]
  · rintro ⟨rfl, short⟩
    refine ⟨rfl, rfl, rfl, rfl, fun name => ?_⟩
    rw [written_ofSettings]
    exact Ratio.denotes_toText_iff.mpr ⟨short name, rfl⟩

/-- Alike requests are accepted alike, and refused alike. -/
theorem accept_congr (alike : r.Alike r') : r.accept = r'.accept := by
  have same (name : ProbabilityName) :
      probability name (r.written name) = probability name (r'.written name) := by
    obtain ⟨q, one, other⟩ := alike.ratio name
    rw [probability, probability, Ratio.ofJson_eq_ok_iff.mpr one, Ratio.ofJson_eq_ok_iff.mpr other]
  have argument := same .argumentSubset
  have parameter := same .parameterSubset
  have shuffle := same .shuffle
  obtain ⟨typeCount, maxRemovals, minLength, maxLength, _⟩ := alike
  cases r
  cases r'
  cases typeCount
  cases maxRemovals
  cases minLength
  cases maxLength
  dsimp only [written] at argument parameter shuffle
  unfold accept
  dsimp only
  rw [argument, parameter, shuffle]

/-! ## Settings read back -/

/-- What settings and their spellings have to do with each other.

* Spelled out settings are accepted as the same settings, if each probability is short enough to be
  read, and are refused otherwise.
* The probability that is stored is the ratio that the value denotes, whatever denotes it.
* Alike requests are accepted alike. Their settings ask every script for the same draws, and make
  the same bodies, one after the other, from every source. -/
theorem reads_back :
    (∀ s s' : { s : GenerationSettings // s.Valid },
      (ofSettings s.1).accept = .ok s' ↔ s' = s ∧ ∀ name, Ratio.Short (s.1.ratio name)) ∧
    (∀ (name : ProbabilityName) (value : Json) (p : { q : Rat // IsProbability q }),
      probability name value = .ok p ↔ Ratio.Denotes value p.1) ∧
    (∀ r r' : GenerationRequest, r.Alike r' → r.accept = r'.accept ∧
      ∀ s s' : { s : GenerationSettings // s.Valid }, r.accept = .ok s → r'.accept = .ok s' →
        (∀ script, (Draws.body s.1).follow script = (Draws.body s'.1).follow script) ∧
        ∀ (σ : Type) [DrawSource σ] (j : Nat) (source : σ),
          s.1.bodyAt s.2 j source = s'.1.bodyAt s'.2 j source) := by
  refine ⟨fun s s' => accept_ofSettings_iff, fun name value p => probability_eq_ok_iff, ?_⟩
  intro r r' alike
  have same := accept_congr alike
  refine ⟨same, fun s s' one other => ?_⟩
  obtain rfl : s = s' := Except.ok.inj (one.symm.trans (same.trans other))
  exact ⟨fun script => rfl, fun σ _ j source => rfl⟩

theorem denotes_of_ofJson {value : Json} {q : Rat}
    (read : (Ratio.ofJson value).toOption = some q) : Ratio.Denotes value q :=
  Ratio.ofJson_eq_ok_iff.mp (Ratio.ofJson_eq_ok read)

/-- The default request denotes the default settings. -/
theorem denotes_default (name : ProbabilityName) :
    Ratio.Denotes (({} : GenerationRequest).written name)
      (({} : GenerationSettings).ratio name) := by
  cases name <;> exact denotes_of_ofJson (by decide +kernel)

/-- A quarter as a fraction with a common factor and as a double precision number, and the default
settings, which have a quarter, spelled out. -/
theorem reads_back_quarter :
    ({ shuffle := .str " 2_5/1_00" } : GenerationRequest).accept =
        ({ shuffle := .double (.finite false 1 (-2)) } : GenerationRequest).accept ∧
      probability .shuffle (.str "+.0025e0_2 ") = .ok ⟨mkRat 1 4, valid_default.shuffle⟩ ∧
      (ofSettings {}).accept = .ok ⟨{}, valid_default⟩ := by
  obtain ⟨spelled, stored, alike⟩ := reads_back
  refine ⟨(alike _ _ ⟨rfl, rfl, rfl, rfl, fun name => ?_⟩).1, (stored _ _ _).mpr ?_,
    (spelled ⟨{}, valid_default⟩ _).mpr ⟨rfl, fun name => ?_⟩⟩
  · cases name with
    | argumentSubset => exact ⟨_, denotes_default .argumentSubset, denotes_default .argumentSubset⟩
    | parameterSubset =>
      exact ⟨_, denotes_default .parameterSubset, denotes_default .parameterSubset⟩
    | shuffle =>
      exact ⟨mkRat 1 4, denotes_of_ofJson (by decide +kernel),
        denotes_of_ofJson (by decide +kernel)⟩
  · exact denotes_of_ofJson (by decide +kernel)
  · cases name <;> decide +kernel

/-- The least ratio whose denominator has one digit more than may be read. -/
def tinyRatio : Rat :=
  (Number.tenTo Text.maxNumeralDigits : Rat)⁻¹

theorem denotes_tinyRatio : Ratio.Denotes (.str "1e-4300") tinyRatio := by
  have parts : Ratio.spelling? "1e-4300".toList =
      some ⟨false, ['1'], [], [], true, ['4', '3', '0', '0']⟩ := by decide +kernel
  have denotes := Ratio.Denotes.text (Ratio.spelling?_eq_some_iff.mp parts)
    ⟨by decide, by decide, by decide, by decide, absurd rfl⟩
  have one : Text.valueOfDigits ['1'] = 1 := by decide
  have none : Text.valueOfDigits [] = 0 := rfl
  have power : Text.valueOfDigits ['4', '3', '0', '0'] = Text.maxNumeralDigits := by decide
  have value : Ratio.Spelling.quotient ⟨false, ['1'], [], [], true, ['4', '3', '0', '0']⟩ =
      tinyRatio := by
    unfold Ratio.Spelling.quotient
    dsimp only
    rw [if_neg Bool.false_ne_true, if_pos rfl, if_pos rfl, one, power, none, zpow_neg, zpow_natCast,
      Nat.cast_zero, zero_div, add_zero, Nat.cast_one, one_mul, one_mul, tinyRatio,
      Ratio.cast_tenTo]
  rwa [value] at denotes

theorem isProbability_tinyRatio : IsProbability tinyRatio := by
  have positive : (1 : Rat) ≤ Number.tenTo Text.maxNumeralDigits :=
    Nat.one_le_cast.mpr (Number.tenTo_pos _)
  exact ⟨inv_nonneg.mpr (le_trans zero_le_one positive), inv_le_one_of_one_le₀ positive⟩

theorem not_short_tinyRatio : ¬ Ratio.Short tinyRatio := by
  intro short
  have below := short.2
  rw [tinyRatio, Rat.inv_natCast_den_of_pos (Number.tenTo_pos _)] at below
  exact lt_irrefl _ below

/-- A ratio that is spelled in a few characters, and has more digits than may be read. -/
theorem accept_ofSettings_tiny :
    ∃ s, ({ shuffle := .str "1e-4300" } : GenerationRequest).accept = .ok s ∧
      ∀ s', (ofSettings s.1).accept ≠ .ok s' := by
  have valid : Valid { shuffle := tinyRatio } :=
    { valid_default with shuffle := isProbability_tinyRatio }
  refine ⟨⟨_, valid⟩, accept_eq_ok_iff.mpr ⟨rfl, rfl, rfl, rfl, fun name => ?_⟩, ?_⟩
  · cases name with
    | argumentSubset => exact denotes_default .argumentSubset
    | parameterSubset => exact denotes_default .parameterSubset
    | shuffle => exact denotes_tinyRatio
  · intro s' accepted
    exact not_short_tinyRatio ((accept_ofSettings_iff.mp accepted).2 .shuffle)

end GenerationRequest

end CrashDiff
