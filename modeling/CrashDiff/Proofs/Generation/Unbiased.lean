import CrashDiff.Proofs.Generation.Subset

/-!
# Subsets are drawn without bias

For each number of removals, each increasing list of the remaining length comes from equally many
vectors of removals, and each list of this length without duplicates from equally many vectors of
removals and swaps.

Results:
1. `count_outcomes_finished`: how often each list comes about.
2. `ncard_subset_parts`: the draws of a subset once the number of removals and the roll are known.
3. `ncard_vectors_subset`: how many vectors of draws lead to each list.
-/

namespace CrashDiff.Draws

open scoped Nat

open GenerationSettings

variable {s : GenerationSettings} {bounds answers : List Nat} {l : List Int} {k : Nat}
  {shuffles : Bool}

theorem bounds_finished (few : k ≤ s.typeCount)
    (yields : ((removeSome k s.allTags).bind (finish shuffles)).Yields bounds answers l) :
    bounds = countdown s.typeCount k ++ s.swapBounds k shuffles := by
  obtain ⟨_, _, _, _, tags, rfl, -, removed, finished⟩ := yields_bind_iff.mp yields
  obtain ⟨rfl, -, length⟩ := yields_removeSome_allTags few removed
  rw [bounds_finish length finished]

/-! ## Counting vectors -/

/-- If all branches with a value have the same bounds, the vectors that lead to the value are
counted by the outcomes. -/
theorem ncard_vectors_of_bounds {d : Draws (List Int)}
    (only : ∀ {drawn answers}, d.Yields drawn answers l → drawn = bounds) :
    {v | d.Yields bounds v l}.ncard = d.outcomes.count l := by
  have same : {v | d.Yields bounds v l} = d.answersTo l := by
    ext v
    constructor
    · exact fun yields => ⟨bounds, yields⟩
    · rintro ⟨drawn, yields⟩
      exact only yields ▸ yields
  rw [same, ncard_answersTo]

/-- How often a list comes about, after `k` removals, with or without a shuffle. -/
theorem count_outcomes_finished (shuffles : Bool) (lacks : s.AllBut k l) :
    ((removeSome k s.allTags).bind (finish shuffles)).outcomes.count l =
      if shuffles ∨ l.Pairwise (· < ·) then k ! else 0 := by
  have length : l.length + k = s.allTags.length := by
    rw [s.length_allTags]
    exact lacks.length
  cases shuffles with
  | true =>
    have shuffled := count_outcomes_shuffled s.nodup_allTags lacks.distinct
      (subset_allTags_iff.mpr lacks.tags) length
    rw [if_pos (Or.inl rfl)]
    exact shuffled
  | false =>
    have remains : (l.Sublist s.allTags ∧ l.length + k = s.allTags.length) ↔
        (false = true ∨ l.Pairwise (· < ·)) := by
      rw [sublist_allTags_iff]
      constructor
      · rintro ⟨⟨increasing, -⟩, -⟩
        exact Or.inr increasing
      · rintro (never | increasing)
        · cases never
        · exact ⟨⟨increasing, lacks.tags⟩, length⟩
    rw [bind_finish_false, count_outcomes_removeSome s.nodup_allTags (by omega)]
    simp only [remains]

/-- Once the number of removals and the roll are known, the branches of a subset are those of its
removals and of what is done with the tags that are left. -/
theorem yields_subset_parts_iff {removals swaps : List Nat} {roll : Nat} (few : k ≤ s.typeCount)
    (possible : k < max s.maxRemovals 1) (below : roll < s.shuffle.den)
    (long : removals.length = k) :
    (subset s).Yields (s.subsetBounds k (s.fires roll)) (s.subsetAnswers k removals roll swaps) l ↔
      ((removeSome k s.allTags).bind (finish (s.fires roll))).Yields
        (countdown s.typeCount k ++ s.swapBounds k (s.fires roll)) (removals ++ swaps) l := by
  rw [yields_subset_iff, yields_bind_iff]
  constructor
  · rintro ⟨k', removalBounds, removals', roll', swapBounds, swaps', tags, possible', -, sameBounds,
      sameAnswers, removed, finished⟩
    have counts : (s.countAnswers k).length = (s.countAnswers k').length := by
      unfold countAnswers
      split <;> rfl
    obtain ⟨sameCount, sameRest⟩ := List.append_inj sameAnswers counts
    obtain rfl := countAnswers_inj possible possible' sameCount
    obtain ⟨rfl, long', -⟩ := yields_removeSome_allTags few removed
    obtain ⟨rfl, sameTail⟩ := List.append_inj sameRest (long.trans long'.symm)
    obtain ⟨rfl, rfl⟩ := List.cons.inj sameTail
    have sameSwaps := List.append_cancel_left (List.append_cancel_left sameBounds)
    exact ⟨_, removals, swapBounds, swaps, tags, by rw [(List.cons.inj sameSwaps).2], rfl, removed,
      finished⟩
  · rintro ⟨removalBounds, removals', swapBounds, swaps', tags, sameBounds, sameAnswers, removed,
      finished⟩
    obtain ⟨rfl, long', -⟩ := yields_removeSome_allTags few removed
    obtain ⟨rfl, rfl⟩ := List.append_inj sameAnswers (long.trans long'.symm)
    obtain rfl := List.append_cancel_left sameBounds
    exact ⟨k, _, removals, roll, _, swaps, tags, possible, below, rfl, rfl, removed, finished⟩

/-- There are as many pairs of removals and swaps that lead to a list, once the number of removals
and the roll are known, as there are vectors of both that do. -/
theorem ncard_subset_parts {roll : Nat} (few : k ≤ s.typeCount)
    (possible : k < max s.maxRemovals 1) (below : roll < s.shuffle.den) :
    {v : List Nat × List Nat | v.1.length = k ∧ (subset s).Yields
        (s.subsetBounds k (s.fires roll)) (s.subsetAnswers k v.1 roll v.2) l}.ncard =
      {v | ((removeSome k s.allTags).bind (finish (s.fires roll))).Yields
        (countdown s.typeCount k ++ s.swapBounds k (s.fires roll)) v l}.ncard := by
  refine Set.ncard_congr (fun v _ => v.1 ++ v.2) ?_ ?_ ?_
  · rintro v ⟨long, yields⟩
    exact (yields_subset_parts_iff few possible below long).mp yields
  · rintro ⟨removals, swaps⟩ ⟨removals', swaps'⟩ ⟨long, -⟩ ⟨long', -⟩ same
    obtain ⟨rfl, rfl⟩ := List.append_inj same (long.trans long'.symm)
    rfl
  · intro v yields
    obtain ⟨_, removals, _, swaps, tags, -, rfl, removed, -⟩ := yields_bind_iff.mp yields
    obtain ⟨-, long, -⟩ := yields_removeSome_allTags few removed
    exact ⟨(removals, swaps),
      ⟨long, (yields_subset_parts_iff few possible below long).mpr yields⟩, rfl⟩

/-- Subsets are drawn without bias.

* Each of `k` removals is drawn below the number of tags that are left.
* Each increasing list of all tags but `k` is left by as many vectors of removals as there are
  orders of `k` tags.
* Each list of all tags but `k` comes from as many vectors of removals and swaps, where each place
  but the first one is drawn below its number, from the last one on.
* In a subset, these are the draws between the number of removals and the roll, and those behind the
  roll. Without a shuffle, only the increasing lists come about. -/
theorem ncard_vectors_subset (few : k ≤ s.typeCount) :
    {v | ∃ l, (removeSome k s.allTags).Yields (countdown s.typeCount k) v l}.ncard =
        s.typeCount.descFactorial k ∧
      (∀ l, s.AllBut k l → l.Pairwise (· < ·) →
        {v | (removeSome k s.allTags).Yields (countdown s.typeCount k) v l}.ncard = k !) ∧
      (∀ l, s.AllBut k l →
        {v | ((removeSome k s.allTags).bind fun tags => shuffle tags.length tags).Yields
            (countdown s.typeCount k ++ countdown (s.typeCount - k) (s.typeCount - k - 1))
            v l}.ncard = k !) ∧
      (∀ l, s.AllBut k l → k < max s.maxRemovals 1 → ∀ roll < s.shuffle.den,
        {v : List Nat × List Nat | v.1.length = k ∧ (subset s).Yields
            (s.subsetBounds k (s.fires roll)) (s.subsetAnswers k v.1 roll v.2) l}.ncard =
          if s.fires roll ∨ l.Pairwise (· < ·) then k ! else 0) := by
  have enough : k ≤ s.allTags.length := by rwa [s.length_allTags]
  refine ⟨?_, ?_, ?_, ?_⟩
  · have all : {v | ∃ l, (removeSome k s.allTags).Yields (countdown s.typeCount k) v l} =
        {v | ∃ bounds l, (removeSome k s.allTags).Yields bounds v l} := by
      ext v
      constructor
      · rintro ⟨l, yields⟩
        exact ⟨_, l, yields⟩
      · rintro ⟨bounds, l, yields⟩
        obtain ⟨rfl, -⟩ := yields_removeSome_allTags few yields
        exact ⟨l, yields⟩
    rw [all, ncard_answers, length_outcomes_removeSome enough, s.length_allTags]
  · intro l lacks increasing
    have often := count_outcomes_finished false lacks
    rw [if_pos (Or.inr increasing), bind_finish_false] at often
    rw [ncard_vectors_of_bounds fun yields => (yields_removeSome_allTags few yields).1, often]
  · intro l lacks
    have often := count_outcomes_finished true lacks
    rw [if_pos (Or.inl rfl)] at often
    exact (ncard_vectors_of_bounds (bounds_finished few)).trans often
  · intro l lacks possible roll below
    rw [ncard_subset_parts few possible below, ncard_vectors_of_bounds (bounds_finished few),
      count_outcomes_finished _ lacks]

/-- Settings for four types, of which all can be removed. -/
def fourTypes : GenerationSettings :=
  { typeCount := 4, maxRemovals := 5 }

/-- With two removals and a roll that fires, two vectors of draws lead to `[4, 1]`. -/
theorem two_vectors_subset :
    2 ≤ fourTypes.typeCount ∧ fourTypes.AllBut 2 [4, 1] ∧ fourTypes.fires 0 = true ∧
      {v : List Nat × List Nat | v.1.length = 2 ∧ (subset fourTypes).Yields
        (fourTypes.subsetBounds 2 true) (fourTypes.subsetAnswers 2 v.1 0 v.2)
        [4, 1]}.ncard = 2 := by
  have lacks : fourTypes.AllBut 2 [4, 1] := ⟨by decide, by decide, rfl⟩
  have fires : fourTypes.fires 0 = true := by decide +kernel
  have often := (ncard_vectors_subset (s := fourTypes) (k := 2) (by decide)).2.2.2 [4, 1] lacks
    (by decide) 0 (by decide +kernel)
  rw [fires, if_pos (Or.inl rfl)] at often
  exact ⟨by decide, lacks, fires, often⟩

end CrashDiff.Draws
