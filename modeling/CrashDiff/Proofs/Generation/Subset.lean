import CrashDiff.Proofs.Generation.Removal

/-!
# The parts of a subset

A subset is drawn in four parts: the number of removals, the removals, a roll that decides whether
to shuffle, and the swaps. The tags that are left after the removals are increasing, since all tags
are.

Results:
1. `sublist_allTags_iff`: the lists that removals can leave.
2. `yields_subset_iff`: the parts of a branch of a subset.
3. `yields_removeSome_allTags`, `bounds_finish`: their bounds.
-/

namespace CrashDiff

namespace GenerationSettings

variable (s : GenerationSettings) {l : List Int}

/-- The tag of one of the types. -/
def IsTag (t : Int) : Prop :=
  1 ≤ t ∧ t ≤ s.typeCount

instance (t : Int) : Decidable (s.IsTag t) :=
  inferInstanceAs (Decidable (_ ∧ _))

theorem mem_allTags_iff {t : Int} : t ∈ s.allTags ↔ s.IsTag t := by
  simp only [allTags, List.mem_map, List.mem_range, IsTag]
  constructor
  · rintro ⟨i, below, rfl⟩
    omega
  · rintro ⟨low, high⟩
    exact ⟨(t - 1).toNat, by omega, by omega⟩

@[simp] theorem length_allTags : s.allTags.length = s.typeCount := by
  simp [allTags]

theorem increasing_allTags : s.allTags.Pairwise (· < ·) := by
  refine List.pairwise_map.mpr (List.pairwise_lt_range.imp ?_)
  intro i j less
  omega

theorem nodup_allTags : s.allTags.Nodup :=
  s.increasing_allTags.imp fun less => ne_of_lt less

/-- All tags but `k`, each once, in some order. -/
structure AllBut (k : Nat) (l : List Int) : Prop where
  distinct : l.Nodup
  tags : ∀ t ∈ l, s.IsTag t
  length : l.length + k = s.typeCount

/-- The bounds of the draw of the number of removals. -/
def countBounds : List Nat :=
  if s.maxRemovals = 0 then [] else [s.maxRemovals]

/-- The answers to the draw of the number of removals. -/
def countAnswers (k : Nat) : List Nat :=
  if s.maxRemovals = 0 then [] else [k]

/-- Whether a roll lets the tags be shuffled. -/
def fires (roll : Nat) : Bool :=
  decide ((roll : Int) < s.shuffle.num)

/-- The bounds of the swaps after `k` removals, if there is a shuffle. -/
def swapBounds (k : Nat) (shuffles : Bool) : List Nat :=
  if shuffles then countdown (s.typeCount - k) (s.typeCount - k - 1) else []

/-- The bounds of the draws of a subset. -/
def subsetBounds (k : Nat) (shuffles : Bool) : List Nat :=
  s.countBounds ++ (countdown s.typeCount k ++ s.shuffle.den :: s.swapBounds k shuffles)

/-- The answers to the draws of a subset, part by part. -/
def subsetAnswers (k : Nat) (removals : List Nat) (roll : Nat) (swaps : List Nat) : List Nat :=
  s.countAnswers k ++ (removals ++ roll :: swaps)

variable {s}

theorem subset_allTags_iff : l ⊆ s.allTags ↔ ∀ t ∈ l, s.IsTag t :=
  forall₂_congr fun _ _ => s.mem_allTags_iff

/-- The sublists of all tags are the increasing lists of tags. -/
theorem sublist_allTags_iff :
    l.Sublist s.allTags ↔ l.Pairwise (· < ·) ∧ ∀ t ∈ l, s.IsTag t := by
  constructor
  · intro sub
    exact ⟨s.increasing_allTags.sublist sub, subset_allTags_iff.mp sub.subset⟩
  · rintro ⟨increasing, tags⟩
    have distinct : l.Nodup := increasing.imp fun less => ne_of_lt less
    exact List.sublist_of_subperm_of_pairwise (distinct.subperm (subset_allTags_iff.mpr tags))
      (increasing.imp le_of_lt) (s.increasing_allTags.imp le_of_lt)

end GenerationSettings

namespace Draws

open GenerationSettings

variable {s : GenerationSettings} {bounds answers : List Nat} {l : List Int} {k : Nat}
  {shuffles : Bool}

/-! ## The parts of a branch -/

/-- The number of tags to remove. -/
def removalCount (s : GenerationSettings) : Draws Nat :=
  if s.maxRemovals = 0 then .done 0 else (uniform s.maxRemovals).bind fun i => .done i.val

/-- What is done with the tags that are left. -/
def finish (shuffles : Bool) (tags : List Int) : Draws (List Int) :=
  if shuffles then shuffle tags.length tags else .done tags

theorem bind_finish_false (d : Draws (List Int)) : d.bind (finish false) = d :=
  bind_done d

theorem subset_eq (s : GenerationSettings) :
    subset s = (removalCount s).bind fun removals => (removeSome removals s.allTags).bind
      fun tags => .draw s.shuffle.den fun roll => finish (s.fires roll) tags := rfl

theorem yields_removalCount_iff :
    (removalCount s).Yields bounds answers k ↔
      bounds = s.countBounds ∧ answers = s.countAnswers k ∧ k < max s.maxRemovals 1 := by
  unfold removalCount countBounds countAnswers
  split
  · rename_i none
    rw [yields_done_iff, none]
    simp
  · rename_i some
    simp only [uniform_bind, yields_draw_iff, yields_done_iff]
    constructor
    · rintro ⟨i, _, _, rfl, rfl, rfl, rfl, rfl⟩
      exact ⟨rfl, rfl, Nat.lt_of_lt_of_le i.isLt (Nat.le_max_left _ _)⟩
    · rintro ⟨rfl, rfl, below⟩
      exact ⟨⟨k, by omega⟩, [], [], rfl, rfl, rfl, rfl, rfl⟩

theorem countAnswers_inj {k' : Nat} (possible : k < max s.maxRemovals 1)
    (possible' : k' < max s.maxRemovals 1) (same : s.countAnswers k = s.countAnswers k') :
    k = k' := by
  unfold countAnswers at same
  split at same
  · omega
  · exact List.singleton_inj.mp same

/-- A branch of a subset has four parts: the count, the removals, the roll, and the swaps. -/
theorem yields_subset_iff :
    (subset s).Yields bounds answers l ↔
      ∃ k removalBounds removals roll swapBounds swaps tags,
        k < max s.maxRemovals 1 ∧ roll < s.shuffle.den ∧
        bounds = s.countBounds ++ (removalBounds ++ s.shuffle.den :: swapBounds) ∧
        answers = s.subsetAnswers k removals roll swaps ∧
        (removeSome k s.allTags).Yields removalBounds removals tags ∧
        (finish (s.fires roll) tags).Yields swapBounds swaps l := by
  simp only [subset_eq, yields_bind_iff, yields_draw_iff, yields_removalCount_iff]
  constructor
  · rintro ⟨_, _, _, _, k, rfl, rfl, ⟨rfl, rfl, few⟩, removalBounds, removals, _, _, tags, rfl, rfl,
      removed, roll, swapBounds, swaps, rfl, rfl, finished⟩
    exact ⟨k, removalBounds, removals, roll, swapBounds, swaps, tags, few, roll.isLt, rfl, rfl,
      removed, finished⟩
  · rintro ⟨k, removalBounds, removals, roll, swapBounds, swaps, tags, few, below, rfl, rfl,
      removed, finished⟩
    exact ⟨_, _, _, _, k, rfl, rfl, ⟨rfl, rfl, few⟩, removalBounds, removals, _, _, tags, rfl, rfl,
      removed, ⟨roll, below⟩, swapBounds, swaps, rfl, rfl, finished⟩

/-! ## Bounds -/

theorem yields_removeSome_allTags (few : k ≤ s.typeCount)
    (yields : (removeSome k s.allTags).Yields bounds answers l) :
    bounds = countdown s.typeCount k ∧ answers.length = k ∧ l.length + k = s.typeCount := by
  have enough : k ≤ s.allTags.length := by rwa [s.length_allTags]
  have remains := ((canYield_removeSome_iff s.nodup_allTags enough).mp ⟨_, _, yields⟩).2
  rw [s.length_allTags] at remains
  have drawn := bounds_removeSome enough yields
  rw [s.length_allTags] at drawn
  exact ⟨drawn, by rw [yields.length_eq, drawn, length_countdown], remains⟩

theorem bounds_finish {tags : List Int} (length : tags.length + k = s.typeCount)
    (yields : (finish shuffles tags).Yields bounds answers l) :
    bounds = s.swapBounds k shuffles := by
  cases shuffles with
  | false => exact (yields_done_iff.mp yields).1
  | true =>
    have left : s.typeCount - k = tags.length := by omega
    change bounds = countdown (s.typeCount - k) (s.typeCount - k - 1)
    rw [left]
    exact bounds_shuffle yields

end Draws

end CrashDiff
