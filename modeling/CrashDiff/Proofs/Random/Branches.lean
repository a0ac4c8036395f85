import CrashDiff.Random.Draws
import Mathlib.Algebra.BigOperators.Fin
import Mathlib.Data.List.FinRange
import Mathlib.Data.Set.Card.Arithmetic

/-!
# Branches of a tree of draws

A vector of answers selects one branch of a tree of draws, and a run follows the branch that its
source of draws selects. So what a program can yield is what stands at the ends of its branches, and
how often it yields a value is counted by the branches.

Results:
1. `yields_bind_iff`: the branches of two trees one after the other.
2. `canYield_run`: a run follows a branch.
3. `mem_outcomes_iff`, `ncard_answersTo`: the listed outcomes are the ends of the branches, each as
   often as there are vectors of answers that lead to it.
-/

namespace CrashDiff.Draws

variable {α β σ : Type} {bounds answers : List Nat}

/-- Some branch of the tree ends with the value. -/
def CanYield (d : Draws α) (a : α) : Prop :=
  ∃ bounds answers, d.Yields bounds answers a

/-- The vectors of answers along the branches that end with a value. -/
def answersTo (d : Draws α) (a : α) : Set (List Nat) :=
  {answers | ∃ bounds, d.Yields bounds answers a}

/-! ## Branches -/

theorem yields_done_iff {a b : α} :
    (Draws.done a).Yields bounds answers b ↔ bounds = [] ∧ answers = [] ∧ b = a := by
  constructor
  · intro yields
    cases yields
    exact ⟨rfl, rfl, rfl⟩
  · rintro ⟨rfl, rfl, rfl⟩
    exact .done b

theorem yields_draw_iff {bound : Nat} {next : Fin bound → Draws α} {a : α} :
    (Draws.draw bound next).Yields bounds answers a ↔
      ∃ (i : Fin bound) (laterBounds laterAnswers : List Nat),
        bounds = bound :: laterBounds ∧ answers = i.val :: laterAnswers ∧
          (next i).Yields laterBounds laterAnswers a := by
  constructor
  · intro yields
    cases yields with
    | draw i later => exact ⟨i, _, _, rfl, rfl, later⟩
  · rintro ⟨i, laterBounds, laterAnswers, rfl, rfl, later⟩
    exact .draw i later

theorem yields_bind_iff {d : Draws α} {f : α → Draws β} {b : β} :
    (d.bind f).Yields bounds answers b ↔
      ∃ firstBounds firstAnswers laterBounds laterAnswers a,
        bounds = firstBounds ++ laterBounds ∧ answers = firstAnswers ++ laterAnswers ∧
          d.Yields firstBounds firstAnswers a ∧ (f a).Yields laterBounds laterAnswers b := by
  constructor
  · intro yields
    induction d generalizing bounds answers with
    | done a => exact ⟨[], [], bounds, answers, a, rfl, rfl, .done a, yields⟩
    | draw bound next ih =>
      obtain ⟨i, _, _, rfl, rfl, later⟩ := yields_draw_iff.mp yields
      obtain ⟨firstBounds, firstAnswers, laterBounds, laterAnswers, a, rfl, rfl, first, rest⟩ :=
        ih i later
      exact ⟨bound :: firstBounds, i.val :: firstAnswers, laterBounds, laterAnswers, a, rfl, rfl,
        .draw i first, rest⟩
  · rintro ⟨firstBounds, firstAnswers, laterBounds, laterAnswers, a, rfl, rfl, first, rest⟩
    induction first with
    | done a => exact rest
    | draw i _ ih => exact .draw i (ih rest)

theorem Yields.length_eq {d : Draws α} {a : α} (yields : d.Yields bounds answers a) :
    answers.length = bounds.length := by
  induction yields with
  | done _ => rfl
  | draw _ _ ih => simp [ih]

/-- A run follows the branch that its source selects. -/
theorem canYield_run [DrawSource σ] (d : Draws α) (feasible : d.Feasible) (source : σ) :
    d.CanYield (d.run feasible source).1 := by
  induction d generalizing source with
  | done a => exact ⟨[], [], .done a⟩
  | draw bound next ih =>
    obtain ⟨bounds, answers, later⟩ :=
      ih (DrawSource.below bound feasible.1 source).1 (feasible.2 _)
        (DrawSource.below bound feasible.1 source).2
    exact ⟨_, _, .draw _ later⟩

/-! ## Outcomes -/

theorem mem_outcomes_iff {d : Draws α} {a : α} : a ∈ d.outcomes ↔ d.CanYield a := by
  induction d with
  | done b => simp [outcomes, CanYield, yields_done_iff]
  | draw bound next ih =>
    simp only [outcomes, List.mem_flatMap, List.mem_finRange, true_and, ih]
    constructor
    · rintro ⟨i, bounds, answers, later⟩
      exact ⟨_, _, .draw i later⟩
    · rintro ⟨bounds, answers, yields⟩
      obtain ⟨i, laterBounds, laterAnswers, -, -, later⟩ := yields_draw_iff.mp yields
      exact ⟨i, laterBounds, laterAnswers, later⟩

theorem outcomes_bind (d : Draws α) (f : α → Draws β) :
    (d.bind f).outcomes = d.outcomes.flatMap fun a => (f a).outcomes := by
  induction d with
  | done a => simp [outcomes]
  | draw bound next ih => simp only [draw_bind, outcomes, ih, List.flatMap_assoc]

theorem canYield_done_iff {a b : α} : (Draws.done a).CanYield b ↔ b = a := by
  rw [← mem_outcomes_iff, outcomes, List.mem_singleton]

theorem canYield_draw_iff {bound : Nat} {next : Fin bound → Draws α} {a : α} :
    (Draws.draw bound next).CanYield a ↔ ∃ i, (next i).CanYield a := by
  simp only [← mem_outcomes_iff, outcomes, List.mem_flatMap, List.mem_finRange, true_and]

theorem canYield_bind_iff {d : Draws α} {f : α → Draws β} {b : β} :
    (d.bind f).CanYield b ↔ ∃ a, d.CanYield a ∧ (f a).CanYield b := by
  simp only [← mem_outcomes_iff, outcomes_bind, List.mem_flatMap]

/-! ## Counting -/

theorem answersTo_draw (bound : Nat) (next : Fin bound → Draws α) (a : α) :
    (Draws.draw bound next).answersTo a = ⋃ i, (i.val :: ·) '' (next i).answersTo a := by
  ext answers
  simp only [answersTo, Set.mem_iUnion, Set.mem_image]
  constructor
  · rintro ⟨bounds, yields⟩
    obtain ⟨i, laterBounds, laterAnswers, -, rfl, later⟩ := yields_draw_iff.mp yields
    exact ⟨i, laterAnswers, ⟨laterBounds, later⟩, rfl⟩
  · rintro ⟨i, laterAnswers, ⟨laterBounds, later⟩, rfl⟩
    exact ⟨bound :: laterBounds, .draw i later⟩

theorem finite_answersTo (d : Draws α) (a : α) : (d.answersTo a).Finite := by
  induction d with
  | done b =>
    refine (Set.finite_singleton []).subset ?_
    rintro answers ⟨bounds, yields⟩
    exact (yields_done_iff.mp yields).2.1
  | draw bound next ih =>
    rw [answersTo_draw]
    exact Set.finite_iUnion fun i => (ih i).image _

theorem count_outcomes_draw [BEq α] (bound : Nat) (next : Fin bound → Draws α) (a : α) :
    (Draws.draw bound next).outcomes.count a = ∑ i, (next i).outcomes.count a := by
  rw [outcomes, List.count_flatMap, Fin.sum_univ_def]
  rfl

/-- There are as many vectors of answers that lead to a value as there are branches that end with
it. -/
theorem ncard_answersTo [BEq α] [LawfulBEq α] (d : Draws α) (a : α) :
    (d.answersTo a).ncard = d.outcomes.count a := by
  induction d with
  | done b =>
    by_cases same : b = a
    · have only : (Draws.done b).answersTo a = {[]} := by
        ext answers
        simp [answersTo, yields_done_iff, same]
      rw [only, Set.ncard_singleton]
      simp [outcomes, same]
    · have nothing : (Draws.done b).answersTo a = ∅ := by
        ext answers
        simp [answersTo, yields_done_iff, Ne.symm same]
      simp [nothing, outcomes, same]
  | draw bound next ih =>
    have apart : Pairwise (Function.onFun Disjoint
        fun i : Fin bound => (i.val :: ·) '' (next i).answersTo a) := by
      intro i j different
      refine Set.disjoint_left.mpr ?_
      rintro _ ⟨_, _, rfl⟩ ⟨_, _, same⟩
      exact different (Fin.val_injective (List.cons.inj same).1.symm)
    rw [answersTo_draw, Set.ncard_iUnion_of_finite
      (fun i => (finite_answersTo (next i) a).image _) apart, finsum_eq_sum_of_fintype,
      count_outcomes_draw]
    refine Finset.sum_congr rfl fun i _ => ?_
    rw [Set.ncard_image_of_injective _ List.cons_injective, ih]

/-- There are as many vectors of answers as there are branches. -/
theorem ncard_answers (d : Draws α) :
    {answers | ∃ bounds a, d.Yields bounds answers a}.ncard = d.outcomes.length := by
  have forgotten : {answers | ∃ bounds a, d.Yields bounds answers a} =
      (d.bind fun _ => .done ()).answersTo () := by
    ext answers
    simp [answersTo, yields_bind_iff, yields_done_iff]
  rw [forgotten, ncard_answersTo, outcomes_bind]
  simp [outcomes, List.count_flatMap, Function.comp_def]

end CrashDiff.Draws
