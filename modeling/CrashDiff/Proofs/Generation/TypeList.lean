import CrashDiff.Proofs.Generation.Subset
import Mathlib.Data.Rat.Lemmas

/-!
# Which type lists can be drawn

A list can be drawn as a subset if its tags are distinct, not too many tags are missing, and it is
increasing unless subsets are shuffled. It can be drawn as a multiset if its length is in the range.
Which of both is possible depends on the probability of a subset.

Results:
1. `canYield_chance_true_iff`, `canYield_chance_false_iff`: when a roll can fail or succeed.
2. `canYield_subset_iff`, `canYield_multiset_iff`: what each strategy can draw.
3. `canYield_typeList_iff`: what can be drawn at all.
4. `isTag_of_typeList`: only tags of types are drawn.
-/

namespace CrashDiff.Draws

open GenerationSettings

variable {s : GenerationSettings} {l drawn : List Int} {k n : Nat}

/-! ## Rolls -/

theorem canYield_chance_true_iff (p : Rat) : (chance p).CanYield true ↔ 0 < p := by
  simp only [chance, uniform_bind, canYield_draw_iff, canYield_done_iff]
  constructor
  · rintro ⟨i, fires⟩
    have below : (i.val : Int) < p.num := of_decide_eq_true fires.symm
    exact Rat.num_pos.mp (by omega)
  · intro positive
    have more : 0 < p.num := Rat.num_pos.mpr positive
    exact ⟨⟨0, p.den_pos⟩, (decide_eq_true more).symm⟩

theorem canYield_chance_false_iff (p : Rat) : (chance p).CanYield false ↔ p < 1 := by
  have less_iff : p < 1 ↔ p.num < p.den := by
    rw [Rat.lt_iff]
    simp
  simp only [chance, uniform_bind, canYield_draw_iff, canYield_done_iff, less_iff]
  constructor
  · rintro ⟨i, rests⟩
    have above : ¬ (i.val : Int) < p.num := of_decide_eq_false rests.symm
    have inside := i.isLt
    omega
  · intro less
    have positive := p.den_pos
    exact ⟨⟨p.den - 1, by omega⟩, (decide_eq_false (by dsimp only; omega)).symm⟩

/-! ## Subsets -/

theorem canYield_removalCount_iff :
    (removalCount s).CanYield k ↔ k < max s.maxRemovals 1 := by
  constructor
  · rintro ⟨_, _, yields⟩
    exact (yields_removalCount_iff.mp yields).2.2
  · intro possible
    exact ⟨_, _, yields_removalCount_iff.mpr ⟨rfl, rfl, possible⟩⟩

theorem subset_eq_chance (s : GenerationSettings) :
    subset s = (removalCount s).bind fun removals => (removeSome removals s.allTags).bind
      fun tags => (chance s.shuffle).bind fun fires => finish fires tags := rfl

/-- After `k` removals, a list of all tags but `k` comes about if it is increasing and there need
not be a shuffle, or if there can be one. -/
theorem canYield_finished_iff (few : k ≤ s.typeCount) :
    ((removeSome k s.allTags).bind fun tags =>
      (chance s.shuffle).bind fun fires => finish fires tags).CanYield l ↔
      s.AllBut k l ∧ (l.Pairwise (· < ·) ∨ 0 < s.shuffle) := by
  have enough : k ≤ s.allTags.length := by rwa [s.length_allTags]
  simp only [canYield_bind_iff, canYield_removeSome_iff s.nodup_allTags enough, s.length_allTags]
  constructor
  · rintro ⟨tags, ⟨sub, length⟩, fires, rolled, finished⟩
    obtain ⟨increasing, inside⟩ := sublist_allTags_iff.mp sub
    have distinct := s.nodup_allTags.sublist sub
    cases fires with
    | false =>
      obtain rfl := canYield_done_iff.mp finished
      exact ⟨⟨distinct, inside, length⟩, Or.inl increasing⟩
    | true =>
      have perm : l.Perm tags := (canYield_shuffle_iff distinct).mp finished
      refine ⟨⟨perm.nodup_iff.mpr distinct, fun t member => inside t (perm.subset member), ?_⟩,
        Or.inr ((canYield_chance_true_iff _).mp rolled)⟩
      rw [perm.length_eq, length]
  · rintro ⟨lacks, possible⟩
    by_cases shuffled : 0 < s.shuffle
    · have inside := subset_allTags_iff.mpr lacks.tags
      have ordered := perm_filter_mem s.nodup_allTags lacks.distinct inside
      refine ⟨_, ⟨List.filter_sublist, ?_⟩, true, (canYield_chance_true_iff _).mpr shuffled,
        (canYield_shuffle_iff (s.nodup_allTags.filter _)).mpr ordered.symm⟩
      rw [ordered.length_eq, lacks.length]
    · have increasing := possible.resolve_right shuffled
      have rests : s.shuffle < 1 := lt_of_le_of_lt (not_lt.mp shuffled) one_pos
      exact ⟨l, ⟨sublist_allTags_iff.mpr ⟨increasing, lacks.tags⟩, lacks.length⟩, false,
        (canYield_chance_false_iff _).mpr rests, canYield_done_iff.mpr rfl⟩

/-- A subset has distinct tags, at least those that removals have to leave, and it is increasing
unless there can be a shuffle. -/
theorem canYield_subset_iff (valid : s.Valid) :
    (subset s).CanYield l ↔
      l.Nodup ∧ (∀ t ∈ l, s.IsTag t) ∧ l.length ≤ s.typeCount ∧
        s.typeCount - l.length ≤ max s.maxRemovals 1 - 1 ∧
        (l.Pairwise (· < ·) ∨ 0 < s.shuffle) := by
  have limit := valid.maxRemovals_le
  rw [subset_eq_chance, canYield_bind_iff]
  simp only [canYield_removalCount_iff]
  constructor
  · rintro ⟨k, possible, finished⟩
    obtain ⟨lacks, ordered⟩ := (canYield_finished_iff (by omega)).mp finished
    have length := lacks.length
    exact ⟨lacks.distinct, lacks.tags, by omega, by omega, ordered⟩
  · rintro ⟨distinct, tags, short, enough, ordered⟩
    refine ⟨s.typeCount - l.length, by omega, (canYield_finished_iff (by omega)).mpr ⟨?_, ordered⟩⟩
    exact ⟨distinct, tags, by omega⟩

/-! ## Multisets -/

theorem canYield_tagsAfter_iff :
    (tagsAfter s.typeCount n drawn).CanYield l ↔
      ∃ tags, l = drawn.reverse ++ tags ∧ tags.length = n ∧ ∀ t ∈ tags, s.IsTag t := by
  induction n generalizing drawn with
  | zero =>
    rw [tagsAfter, canYield_done_iff]
    constructor
    · rintro rfl
      exact ⟨[], by simp, rfl, by simp⟩
    · rintro ⟨tags, rfl, length, -⟩
      rw [List.length_eq_zero_iff.mp length, List.append_nil]
  | succ n ih =>
    simp only [tagsAfter, uniform_bind, canYield_draw_iff, ih]
    constructor
    · rintro ⟨i, tags, rfl, length, inside⟩
      refine ⟨((i.val : Int) + 1) :: tags, by simp, by simp [length], ?_⟩
      intro t member
      cases List.mem_cons.mp member with
      | inl first =>
        have below := i.isLt
        subst first
        exact ⟨by omega, by omega⟩
      | inr later => exact inside t later
    · rintro ⟨_ | ⟨t, tags⟩, rfl, length, inside⟩
      · cases length
      · obtain ⟨⟨low, high⟩, others⟩ := List.forall_mem_cons.mp inside
        have same : (((t - 1).toNat : Nat) : Int) + 1 = t := by omega
        refine ⟨⟨(t - 1).toNat, by omega⟩, tags, ?_, by simpa using length, others⟩
        rw [same]
        simp

/-- A multiset has any tags, and a length in the range. -/
theorem canYield_multiset_iff (valid : s.Valid) :
    (multiset s).CanYield l ↔
      s.minLength ≤ l.length ∧ l.length ≤ s.maxLength ∧ ∀ t ∈ l, s.IsTag t := by
  have range := valid.minLength_le
  simp only [multiset, uniform_bind, canYield_draw_iff, canYield_tagsAfter_iff]
  constructor
  · rintro ⟨i, tags, same, length, inside⟩
    have below := i.isLt
    obtain rfl : l = tags := same
    exact ⟨by omega, by omega, inside⟩
  · rintro ⟨low, high, inside⟩
    exact ⟨⟨l.length - s.minLength, by omega⟩, l, by simp, by dsimp only; omega, inside⟩

/-! ## Type lists -/

theorem canYield_typeList_parts {p : Rat} :
    (typeList s p).CanYield l ↔
      (0 < p ∧ (subset s).CanYield l) ∨ (p < 1 ∧ (multiset s).CanYield l) := by
  rw [typeList, canYield_bind_iff]
  constructor
  · rintro ⟨isSubset, rolled, yields⟩
    cases isSubset with
    | true => exact Or.inl ⟨(canYield_chance_true_iff p).mp rolled, yields⟩
    | false => exact Or.inr ⟨(canYield_chance_false_iff p).mp rolled, yields⟩
  · rintro (⟨rolled, yields⟩ | ⟨rolled, yields⟩)
    · exact ⟨true, (canYield_chance_true_iff p).mpr rolled, yields⟩
    · exact ⟨false, (canYield_chance_false_iff p).mpr rolled, yields⟩

/-- Only tags of types are drawn. -/
theorem isTag_of_typeList {p : Rat} (valid : s.Valid) (yields : (typeList s p).CanYield l) :
    ∀ t ∈ l, s.IsTag t := by
  cases canYield_typeList_parts.mp yields with
  | inl subset => exact ((canYield_subset_iff valid).mp subset.2).2.1
  | inr multiset => exact ((canYield_multiset_iff valid).mp multiset.2).2.2

/-- A type list can be drawn in one of two ways. If a subset is possible: its tags are distinct, no
more tags are missing than can be removed, and it is increasing unless there can be a shuffle. If a
multiset is possible: its length is in the range. -/
theorem canYield_typeList_iff {p : Rat} (valid : s.Valid) :
    (typeList s p).CanYield l ↔
      (0 < p ∧ l.Nodup ∧ (∀ t ∈ l, s.IsTag t) ∧ l.length ≤ s.typeCount ∧
        s.typeCount - l.length ≤ max s.maxRemovals 1 - 1 ∧
        (l.Pairwise (· < ·) ∨ 0 < s.shuffle)) ∨
      (p < 1 ∧ s.minLength ≤ l.length ∧ l.length ≤ s.maxLength ∧ ∀ t ∈ l, s.IsTag t) := by
  rw [canYield_typeList_parts, canYield_subset_iff valid, canYield_multiset_iff valid]

/-- Settings for three types, of which all can be removed, without shuffles, for multisets of two or
three tags. -/
def threeTypes : GenerationSettings :=
  { typeCount := 3, shuffle := 0, maxRemovals := 4, minLength := 2, maxLength := 3 }

theorem valid_threeTypes : threeTypes.Valid where
  typeCount_pos := by decide
  argumentSubset := by decide +kernel
  parameterSubset := by decide +kernel
  shuffle := by decide +kernel
  maxRemovals_le := by decide
  minLength_le := by decide

/-- Without shuffles, the empty list is a subset only, and `[2, 1]` a multiset only. -/
theorem typeLists_of_threeTypes :
    threeTypes.Valid ∧
      (typeList threeTypes 1).CanYield [] ∧ ¬ (typeList threeTypes 0).CanYield [] ∧
      ¬ (typeList threeTypes 1).CanYield [2, 1] ∧ (typeList threeTypes 0).CanYield [2, 1] := by
  have exact (p : Rat) (l : List Int) := canYield_typeList_iff (p := p) (l := l) valid_threeTypes
  refine ⟨valid_threeTypes, (exact 1 []).mpr ?_, fun yields => ?_, fun yields => ?_,
    (exact 0 [2, 1]).mpr ?_⟩
  · exact Or.inl (by decide +kernel)
  · exact absurd ((exact 0 []).mp yields) (by decide +kernel)
  · exact absurd ((exact 1 [2, 1]).mp yields) (by decide +kernel)
  · exact Or.inr (by decide +kernel)

end CrashDiff.Draws
