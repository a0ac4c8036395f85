import CrashDiff.Proofs.Generation.Subset
import CrashDiff.Proofs.Random.Recorder

/-!
# What is asked for a type list

The bounds of the draws for a type list follow from the answers: the first roll selects the
strategy, the number of removals is the number of draws out of the shrinking list of tags, and the
second roll decides whether there are swaps. As no more tags are removed than there are, no draw is
ever out of an empty list; with one removal more it would be.

Results:
1. `exists_yields_removeSome`, `exists_yields_shuffle`, `exists_yields_tagsAfter`: any answers below
   the bounds lead along a branch.
2. `asks_typeList`, `asks_body`: the traces for a type list and for a body.
3. `runsDry_subset`: a greater limit for the removals lets them run out of tags.
4. `asks_of_valid`: all of it, for draws from any source.
-/

namespace CrashDiff

open Draws

namespace GenerationSettings

/-- The draws for a type list with probability `p` of a subset: the bounds, and answers to them.

* `subset`: the first roll succeeds. `k` tags are removed, each out of those that are left, and the
  rest is shuffled from its last place on if the second roll succeeds.
* `multiset`: the first roll fails. The length is drawn, then as many tags. -/
inductive IsTrace (s : GenerationSettings) (p : Rat) : List Nat → List Nat → Prop
  | subset {roll k turn : Nat} {removals swaps : List Nat} :
      roll < p.den → (roll : Int) < p.num → k < max s.maxRemovals 1 →
      Fits (countdown s.typeCount k) removals → turn < s.shuffle.den →
      Fits (s.swapBounds k (s.fires turn)) swaps →
      IsTrace s p
        ([p.den] ++ s.countBounds ++ countdown s.typeCount k ++ [s.shuffle.den] ++
          s.swapBounds k (s.fires turn))
        ([roll] ++ s.countAnswers k ++ removals ++ [turn] ++ swaps)
  | multiset {roll i : Nat} {tags : List Nat} :
      roll < p.den → p.num ≤ roll → i < s.maxLength - s.minLength + 1 →
      Fits (List.replicate (s.minLength + i) s.typeCount) tags →
      IsTrace s p
        ([p.den, s.maxLength - s.minLength + 1] ++ List.replicate (s.minLength + i) s.typeCount)
        ([roll, i] ++ tags)

end GenerationSettings

namespace Draws

open GenerationSettings

variable {s : GenerationSettings} {p : Rat} {tags l : List Int} {bounds answers : List Nat}
  {k n : Nat}

/-! ## Answers below the bounds -/

theorem exists_yields_removeSome (fits : Fits (countdown tags.length k) answers) :
    ∃ l, (removeSome k tags).Yields (countdown tags.length k) answers l := by
  induction k generalizing tags answers with
  | zero =>
    obtain rfl := List.forall₂_nil_left_iff.mp fits
    exact ⟨tags, .done tags⟩
  | succ k ih =>
    obtain ⟨i, later, below, rest, rfl⟩ := List.forall₂_cons_left_iff.mp fits
    have shorter : (tags.eraseIdx i).length = tags.length - 1 := List.length_eraseIdx_of_lt below
    rw [← shorter] at rest
    obtain ⟨l, yields⟩ := ih rest
    rw [shorter] at yields
    exact ⟨l, .draw ⟨i, below⟩ yields⟩

theorem exists_yields_shuffle (fits : Fits (countdown n (n - 1)) answers) (tags : List Int) :
    ∃ l, (shuffle n tags).Yields (countdown n (n - 1)) answers l := by
  induction n generalizing tags answers with
  | zero =>
    obtain rfl := List.forall₂_nil_left_iff.mp fits
    exact ⟨tags, .done tags⟩
  | succ n ih =>
    cases n with
    | zero =>
      obtain rfl := List.forall₂_nil_left_iff.mp fits
      exact ⟨tags, .done tags⟩
    | succ n =>
      obtain ⟨i, later, below, rest, rfl⟩ := List.forall₂_cons_left_iff.mp fits
      obtain ⟨l, yields⟩ := ih rest (swapAt tags (n + 1) i)
      exact ⟨l, .draw ⟨i, below⟩ yields⟩

theorem exists_yields_tagsAfter {typeCount : Nat}
    (fits : Fits (List.replicate n typeCount) answers) (drawn : List Int) :
    ∃ l, (tagsAfter typeCount n drawn).Yields (List.replicate n typeCount) answers l := by
  induction n generalizing drawn answers with
  | zero =>
    obtain rfl := List.forall₂_nil_left_iff.mp fits
    exact ⟨drawn.reverse, .done _⟩
  | succ n ih =>
    obtain ⟨i, later, below, rest, rfl⟩ := List.forall₂_cons_left_iff.mp fits
    obtain ⟨l, yields⟩ := ih rest (((i : Int) + 1) :: drawn)
    exact ⟨l, .draw ⟨i, below⟩ yields⟩

theorem bounds_tagsAfter {typeCount : Nat} {drawn : List Int}
    (yields : (tagsAfter typeCount n drawn).Yields bounds answers l) :
    bounds = List.replicate n typeCount := by
  induction n generalizing drawn bounds answers with
  | zero => exact (yields_done_iff.mp yields).1
  | succ n ih =>
    obtain ⟨i, _, _, rfl, -, later⟩ := yields_draw_iff.mp yields
    rw [ih later]
    rfl

theorem exists_yields_finish {shuffles : Bool} (length : tags.length + k = s.typeCount)
    (fits : Fits (s.swapBounds k shuffles) answers) :
    ∃ l, (finish shuffles tags).Yields (s.swapBounds k shuffles) answers l := by
  cases shuffles with
  | false =>
    obtain rfl := List.forall₂_nil_left_iff.mp fits
    exact ⟨tags, .done tags⟩
  | true =>
    have left : s.typeCount - k = tags.length := by omega
    have swaps : s.swapBounds k true = countdown tags.length (tags.length - 1) := by
      rw [← left]
      rfl
    rw [swaps] at fits ⊢
    exact exists_yields_shuffle fits tags

/-! ## The two strategies -/

/-- The branches of a subset, told by their answers. -/
theorem exists_yields_subset_iff (valid : s.Valid) :
    (∃ l, (subset s).Yields bounds answers l) ↔
      ∃ k removals turn swaps, k < max s.maxRemovals 1 ∧
        Fits (countdown s.typeCount k) removals ∧ turn < s.shuffle.den ∧
        Fits (s.swapBounds k (s.fires turn)) swaps ∧
        bounds = s.subsetBounds k (s.fires turn) ∧
        answers = s.subsetAnswers k removals turn swaps := by
  have limit := valid.maxRemovals_le
  constructor
  · rintro ⟨l, yields⟩
    obtain ⟨k, removalBounds, removals, turn, swapBounds, swaps, tags, few, below, rfl, rfl,
      removed, finished⟩ := yields_subset_iff.mp yields
    obtain ⟨rfl, -, length⟩ := yields_removeSome_allTags (by omega) removed
    obtain rfl := bounds_finish length finished
    exact ⟨k, removals, turn, swaps, few, removed.fits, below, finished.fits, rfl, rfl⟩
  · rintro ⟨k, removals, turn, swaps, few, fits, below, fitting, rfl, rfl⟩
    rw [← s.length_allTags] at fits
    obtain ⟨tags, removed⟩ := exists_yields_removeSome fits
    rw [s.length_allTags] at removed
    obtain ⟨-, -, length⟩ := yields_removeSome_allTags (by omega) removed
    obtain ⟨l, finished⟩ := exists_yields_finish length fitting
    exact ⟨l, yields_subset_iff.mpr ⟨k, _, removals, turn, _, swaps, tags, few, below, rfl, rfl,
      removed, finished⟩⟩

/-- The branches of a multiset, told by their answers. -/
theorem exists_yields_multiset_iff :
    (∃ l, (multiset s).Yields bounds answers l) ↔
      ∃ i tags, i < s.maxLength - s.minLength + 1 ∧
        Fits (List.replicate (s.minLength + i) s.typeCount) tags ∧
        bounds = (s.maxLength - s.minLength + 1) ::
          List.replicate (s.minLength + i) s.typeCount ∧
        answers = i :: tags := by
  constructor
  · rintro ⟨l, yields⟩
    obtain ⟨i, _, tags, rfl, rfl, later⟩ := yields_draw_iff.mp yields
    obtain rfl := bounds_tagsAfter later
    exact ⟨i.val, tags, i.isLt, later.fits, rfl, rfl⟩
  · rintro ⟨i, tags, below, fits, rfl, rfl⟩
    obtain ⟨l, yields⟩ := exists_yields_tagsAfter fits []
    exact ⟨l, .draw ⟨i, below⟩ yields⟩

/-- The first roll selects the strategy. -/
theorem yields_typeList_iff :
    (typeList s p).Yields bounds answers l ↔
      ∃ roll laterBounds laterAnswers, roll < p.den ∧ bounds = p.den :: laterBounds ∧
        answers = roll :: laterAnswers ∧
        (if (roll : Int) < p.num then subset s else multiset s).Yields
          laterBounds laterAnswers l := by
  have rolled : typeList s p = .draw p.den fun roll =>
      if (roll.val : Int) < p.num then subset s else multiset s := by
    simp only [typeList, chance, uniform_bind, draw_bind, done_bind, decide_eq_true_eq]
  rw [rolled, yields_draw_iff]
  constructor
  · rintro ⟨roll, laterBounds, laterAnswers, rfl, rfl, later⟩
    exact ⟨roll.val, laterBounds, laterAnswers, roll.isLt, rfl, rfl, later⟩
  · rintro ⟨roll, laterBounds, laterAnswers, below, rfl, rfl, later⟩
    exact ⟨⟨roll, below⟩, laterBounds, laterAnswers, rfl, rfl, later⟩

/-- What is asked for a type list. -/
theorem asks_typeList (valid : s.Valid) (p : Rat) : (typeList s p).Asks (s.IsTrace p) where
  feasible := feasible_typeList valid p
  branches := by
    intro bounds answers
    constructor
    · rintro ⟨l, yields⟩
      obtain ⟨roll, _, _, below, rfl, rfl, later⟩ := yields_typeList_iff.mp yields
      by_cases succeeds : (roll : Int) < p.num
      · rw [if_pos succeeds] at later
        obtain ⟨k, removals, turn, swaps, few, fits, turnBelow, fitting, rfl, rfl⟩ :=
          (exists_yields_subset_iff valid).mp ⟨l, later⟩
        have trace := IsTrace.subset below succeeds few fits turnBelow fitting
        simpa [subsetBounds, subsetAnswers] using trace
      · rw [if_neg succeeds] at later
        obtain ⟨i, tags, inside, fits, rfl, rfl⟩ := exists_yields_multiset_iff.mp ⟨l, later⟩
        exact .multiset below (not_lt.mp succeeds) inside fits
    · intro trace
      cases trace with
      | @subset roll k turn removals swaps below succeeds few fits turnBelow fitting =>
        obtain ⟨l, later⟩ := (exists_yields_subset_iff valid).mpr
          ⟨k, removals, turn, swaps, few, fits, turnBelow, fitting, rfl, rfl⟩
        refine ⟨l, yields_typeList_iff.mpr ⟨roll, s.subsetBounds k (s.fires turn),
          s.subsetAnswers k removals turn swaps, below, ?_, ?_, ?_⟩⟩
        · simp [subsetBounds]
        · simp [subsetAnswers]
        · rwa [if_pos succeeds]
      | @multiset roll i tags below fails inside fits =>
        obtain ⟨l, later⟩ := exists_yields_multiset_iff.mpr ⟨i, tags, inside, fits, rfl, rfl⟩
        refine ⟨l, yields_typeList_iff.mpr ⟨roll, _, _, below, rfl, rfl, ?_⟩⟩
        rwa [if_neg (not_lt.mpr fails)]

/-! ## Too many removals -/

/-- Some script leads to a draw below zero, after draws below the given bounds, with an answer
still to come. -/
def RunsDry {α : Type} (d : Draws α) (bounds : List Nat) : Prop :=
  ∃ answers next rest, d.follow ⟨answers ++ next :: rest, []⟩ = (.error 0, ⟨next :: rest, bounds⟩)

theorem removeSome_add (k j : Nat) (tags : List Int) :
    removeSome (k + j) tags = (removeSome k tags).bind (removeSome j) := by
  induction k generalizing tags with
  | zero => rw [Nat.zero_add, removeSome, done_bind]
  | succ k ih =>
    rw [Nat.succ_add, removeSome_succ, removeSome_succ, draw_bind]
    simp only [ih]

theorem fits_zeros {n k : Nat} (few : k ≤ n) : Fits (countdown n k) (List.replicate k 0) := by
  induction k generalizing n with
  | zero => exact .nil
  | succ k ih => exact .cons (by omega) (ih (by omega))

/-- All tags can be removed, and there is none left then. -/
theorem yields_removeSome_all (s : GenerationSettings) :
    (removeSome s.typeCount s.allTags).Yields (countdown s.typeCount s.typeCount)
      (List.replicate s.typeCount 0) [] := by
  have fits := fits_zeros (Nat.le_refl s.allTags.length)
  obtain ⟨l, removed⟩ := exists_yields_removeSome fits
  rw [s.length_allTags] at removed
  obtain ⟨-, -, length⟩ := yields_removeSome_allTags (Nat.le_refl _) removed
  obtain rfl : l = [] := List.length_eq_zero_iff.mp (by omega)
  exact removed

/-- With a limit that allows for one removal more than there are tags, the last one can be out of an
empty list. -/
theorem runsDry_subset {limit : Nat} (more : s.typeCount + 1 < limit) :
    (subset { s with maxRemovals := limit }).RunsDry
      (limit :: countdown s.typeCount s.typeCount) := by
  have some : limit ≠ 0 := by omega
  have counted : (removalCount { s with maxRemovals := limit }).Yields [limit] [s.typeCount + 1]
      (s.typeCount + 1) := by
    refine yields_removalCount_iff.mpr ⟨?_, ?_, lt_of_lt_of_le more (Nat.le_max_left _ _)⟩
    · simp [countBounds, some]
    · simp [countAnswers, some]
  have emptied := yields_removeSome_all s
  refine ⟨((s.typeCount + 1) :: List.replicate s.typeCount 0).map Int.ofNat, 0, [], ?_⟩
  have count := follow_bind_of_yields counted
    (fun removals => (removeSome removals s.allTags).bind fun tags =>
      .draw s.shuffle.den fun roll => finish (s.fires roll) tags)
    ((List.replicate s.typeCount 0).map Int.ofNat ++ [0]) []
  have removals := follow_bind_of_yields emptied
    (fun tags => (removeSome 1 tags).bind fun tags =>
      .draw s.shuffle.den fun roll => finish (s.fires roll) tags) [0] [limit]
  rw [removeSome_add, bind_assoc] at count
  exact count.trans removals

/-! ## Bodies -/

/-- What is asked for a body: first the draws for the arguments, then those for the parameters. -/
theorem asks_body (valid : s.Valid) :
    (body s).Asks (Joined (s.IsTrace s.argumentSubset) (s.IsTrace s.parameterSubset)) := by
  refine (asks_typeList valid _).bind fun arguments => ?_
  have parameters := asks_typeList valid s.parameterSubset
  refine ⟨parameters.feasible.bind fun _ => trivial, fun bounds answers => ?_⟩
  rw [← parameters.branches]
  simp [yields_bind_iff, yields_done_iff]

/-- With valid settings no draw is below zero, so no tag is removed from an empty list, and the
draws for type lists and for bodies are exactly their traces, from whatever source the answers come.
The limit for the removals is tight: with any greater one, and all else the same, the removals can
run out of tags. -/
theorem asks_of_valid (valid : s.Valid) :
    (∀ p, (typeList s p).Asks (s.IsTrace p) ∧
      (typeList s p).Leaves (feasible_typeList valid p) (s.IsTrace p)) ∧
    (body s).Asks (Joined (s.IsTrace s.argumentSubset) (s.IsTrace s.parameterSubset)) ∧
    (body s).Leaves (feasible_body valid)
      (Joined (s.IsTrace s.argumentSubset) (s.IsTrace s.parameterSubset)) ∧
    ∀ limit, s.typeCount + 1 < limit → (subset { s with maxRemovals := limit }).RunsDry
      (limit :: countdown s.typeCount s.typeCount) := by
  refine ⟨fun p => ⟨asks_typeList valid p, (asks_typeList valid p).leaves⟩, asks_body valid,
    (asks_body valid).leaves, fun limit more => runsDry_subset more⟩

/-- Without any settings given, six of eight tags can be removed and the other two swapped, or two
tags drawn with replacement. With a limit of ten all eight can be removed, and then a ninth is
wanted. -/
theorem asks_of_default :
    GenerationSettings.Valid {} ∧
      (∃ l, (typeList {} (mkRat 3 4)).Yields [4, 8, 8, 7, 6, 5, 4, 3, 4, 2]
        [2, 6, 7, 0, 0, 0, 0, 0, 0, 1] l) ∧
      (∃ l, (typeList {} (mkRat 3 4)).Yields [4, 8, 8, 8] [3, 1, 7, 7] l) ∧
      (subset { maxRemovals := 10 }).RunsDry [10, 8, 7, 6, 5, 4, 3, 2, 1] := by
  have known := asks_of_valid valid_default
  have branches := ((known.1 (mkRat 3 4)).1).branches
  have subset := @IsTrace.subset {} (mkRat 3 4) 2 6 0 [7, 0, 0, 0, 0, 0] [1] (by decide +kernel)
    (by decide +kernel) (by decide) (by decide) (by decide +kernel) (by decide +kernel)
  have multiset := @IsTrace.multiset {} (mkRat 3 4) 3 1 [7, 7] (by decide +kernel)
    (by decide +kernel) (by decide) (by decide)
  refine ⟨valid_default, (branches _ _).mpr ?_, (branches _ _).mpr ?_, ?_⟩
  · convert subset using 1
    · decide +kernel
    · rfl
  · convert multiset using 1
    · decide +kernel
    · rfl
  · exact known.2.2.2 10 (by decide)

end Draws

end CrashDiff
