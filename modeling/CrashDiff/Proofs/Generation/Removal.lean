import CrashDiff.Generation.TypeList
import CrashDiff.Proofs.Random.Branches
import Mathlib.Algebra.Order.BigOperators.Group.Finset
import Mathlib.Data.List.GetD
import Mathlib.Data.List.Sort
import Mathlib.Data.Nat.Factorial.BigOperators

/-!
# Removals and swaps

Removing tags one after the other leaves a sublist, and which one it is does not depend on the order
of the removals: each sublist remains for as many vectors of draws as there are orders of the tags
that it lacks. Swapping a tag into each place, from the last one on, gives each order of the tags
for one vector of draws.

Results:
1. `count_outcomes_removeSome`: how often each list remains.
2. `count_outcomes_shuffle`: how often each order is the result of the swaps.
3. `count_outcomes_shuffled`: how often each list is the result of both.
4. `bounds_removeSome`, `bounds_shuffle`: the bounds of the draws.
-/

namespace CrashDiff

/-- Bounds, each one less than the one before it, from `n` on for a count of them. -/
def countdown : Nat → Nat → List Nat
  | _, 0 => []
  | n, k + 1 => n :: countdown (n - 1) k

theorem length_countdown (n k : Nat) : (countdown n k).length = k := by
  induction k generalizing n with
  | zero => rfl
  | succ k ih => simp [countdown, ih]

namespace Draws

open scoped Nat

variable {tags l : List Int} {bounds answers : List Nat} {k n : Nat}

/-! ## Sublists -/

/-- Without duplicates, a sublist is found again by its members. -/
theorem filter_mem_of_sublist (distinct : tags.Nodup) (sub : l.Sublist tags) :
    tags.filter (fun t => decide (t ∈ l)) = l := by
  have own : l.filter (fun t => decide (t ∈ l)) = l :=
    List.filter_eq_self.mpr fun t member => decide_eq_true member
  have below : l.Sublist (tags.filter fun t => decide (t ∈ l)) := by
    have filtered := sub.filter fun t => decide (t ∈ l)
    rwa [own] at filtered
  have inside : (tags.filter fun t => decide (t ∈ l)) ⊆ l := by
    intro t member
    exact of_decide_eq_true (List.mem_filter.mp member).2
  exact (below.eq_of_length_le ((distinct.filter _).subperm inside).length_le).symm

/-- The sublist that has the members of a list can be brought into its order. -/
theorem perm_filter_mem (distinct : tags.Nodup) (fresh : l.Nodup) (inside : l ⊆ tags) :
    (tags.filter fun t => decide (t ∈ l)).Perm l := by
  refine (List.perm_ext_iff_of_nodup (distinct.filter _) fresh).mpr fun t => ?_
  rw [List.mem_filter, decide_eq_true_iff]
  exact ⟨And.right, fun member => ⟨inside member, member⟩⟩

theorem sublist_eraseIdx_iff (distinct : tags.Nodup) (i : Fin tags.length) :
    l.Sublist (tags.eraseIdx i) ↔ l.Sublist tags ∧ tags[i] ∉ l := by
  have erased : tags.eraseIdx i = tags.filter (· != tags[i]) := by
    rw [← distinct.erase_getElem i i.isLt, distinct.erase_eq_filter]
    rfl
  constructor
  · intro sub
    refine ⟨sub.trans (List.eraseIdx_sublist tags i), fun member => ?_⟩
    rw [erased] at sub
    simpa using (List.mem_filter.mp (sub.subset member)).2
  · rintro ⟨sub, absent⟩
    have own : l.filter (· != tags[i]) = l :=
      List.filter_eq_self.mpr fun t member => by
        simpa using fun same : t = tags[i] => absent (same ▸ member)
    rw [erased, ← own]
    exact sub.filter _

/-- The removals that leave a sublist intact are those of the tags that it lacks. -/
theorem card_sublist_eraseIdx (distinct : tags.Nodup) (sub : l.Sublist tags) :
    (Finset.univ.filter fun i : Fin tags.length => l.Sublist (tags.eraseIdx i)).card =
      tags.length - l.length := by
  have lacking : (Finset.univ.filter fun i : Fin tags.length => l.Sublist (tags.eraseIdx i)).card =
      (tags.toFinset \ l.toFinset).card := by
    refine Finset.card_bij (fun i _ => tags[i]) ?_ ?_ ?_
    · intro i member
      have kept := ((sublist_eraseIdx_iff distinct i).mp (Finset.mem_filter.mp member).2).2
      simpa using kept
    · intro i _ j _ same
      exact Fin.ext (distinct.getElem_inj_iff.mp same)
    · intro t member
      obtain ⟨inside, absent⟩ := Finset.mem_sdiff.mp member
      obtain ⟨i, within, rfl⟩ := List.getElem_of_mem (List.mem_toFinset.mp inside)
      have kept := (sublist_eraseIdx_iff distinct ⟨i, within⟩).mpr
        ⟨sub, fun member => absent (List.mem_toFinset.mpr member)⟩
      exact ⟨⟨i, within⟩, Finset.mem_filter.mpr ⟨Finset.mem_univ _, kept⟩, rfl⟩
  have inside : l.toFinset ⊆ tags.toFinset := by
    intro t member
    exact List.mem_toFinset.mpr (sub.subset (List.mem_toFinset.mp member))
  rw [lacking, Finset.card_sdiff_of_subset inside, List.toFinset_card_of_nodup distinct,
    List.toFinset_card_of_nodup (distinct.sublist sub)]

/-! ## Removals -/

theorem removeSome_succ (k : Nat) (tags : List Int) :
    removeSome (k + 1) tags = .draw tags.length fun i => removeSome k (tags.eraseIdx i) := rfl

/-- A list remains if it is a sublist of the right length, and then for as many vectors of draws as
there are orders of the tags that it lacks. -/
theorem count_outcomes_removeSome (distinct : tags.Nodup) (enough : k ≤ tags.length) :
    (removeSome k tags).outcomes.count l =
      if l.Sublist tags ∧ l.length + k = tags.length then k ! else 0 := by
  induction k generalizing tags with
  | zero =>
    have whole : (l.Sublist tags ∧ l.length + 0 = tags.length) ↔ tags = l := by
      constructor
      · rintro ⟨sub, same⟩
        exact (sub.eq_of_length same).symm
      · rintro rfl
        exact ⟨List.Sublist.refl _, rfl⟩
    simp only [removeSome, outcomes, List.count_singleton, whole, Nat.factorial_zero, beq_iff_eq]
  | succ k ih =>
    have step (i : Fin tags.length) : (removeSome k (tags.eraseIdx i)).outcomes.count l =
        if l.length + (k + 1) = tags.length then
          if l.Sublist (tags.eraseIdx i) then k ! else 0
        else 0 := by
      have short := List.length_eraseIdx_of_lt i.isLt
      rw [ih (distinct.sublist (List.eraseIdx_sublist tags i)) (by omega), ← ite_and]
      congr 1
      have lengths :
          l.length + k = (tags.eraseIdx i).length ↔ l.length + (k + 1) = tags.length := by
        omega
      rw [lengths, and_comm]
    simp only [removeSome_succ, count_outcomes_draw, step]
    by_cases fits : l.length + (k + 1) = tags.length
    · simp only [fits, if_true, and_true]
      by_cases sub : l.Sublist tags
      · -- The first removal takes one of the `k + 1` tags that are lacking.
        rw [if_pos sub, Finset.sum_ite, Finset.sum_const_zero, Finset.sum_const, add_zero,
          card_sublist_eraseIdx distinct sub, smul_eq_mul, Nat.factorial_succ]
        congr 1
        omega
      · rw [if_neg sub]
        refine Finset.sum_eq_zero fun i _ => if_neg fun below => ?_
        exact sub (below.trans (List.eraseIdx_sublist tags i))
    · simp [fits]

theorem canYield_removeSome_iff (distinct : tags.Nodup) (enough : k ≤ tags.length) :
    (removeSome k tags).CanYield l ↔ l.Sublist tags ∧ l.length + k = tags.length := by
  rw [← mem_outcomes_iff, ← List.count_pos_iff, count_outcomes_removeSome distinct enough]
  split
  · rename_i remains
    exact ⟨fun _ => remains, fun _ => k.factorial_pos⟩
  · rename_i lost
    exact ⟨fun more => absurd more (Nat.lt_irrefl 0), fun remains => absurd remains lost⟩

theorem length_outcomes_removeSome (enough : k ≤ tags.length) :
    (removeSome k tags).outcomes.length = tags.length.descFactorial k := by
  induction k generalizing tags with
  | zero => rfl
  | succ k ih =>
    obtain ⟨m, long⟩ : ∃ m, tags.length = m + 1 := ⟨tags.length - 1, by omega⟩
    have step (i : Fin tags.length) :
        (removeSome k (tags.eraseIdx i)).outcomes.length = m.descFactorial k := by
      have short := List.length_eraseIdx_of_lt i.isLt
      rw [ih (by omega), short, long]
      rfl
    simp only [removeSome_succ, outcomes, List.length_flatMap, step]
    rw [List.map_const', List.sum_replicate, List.length_finRange, long, smul_eq_mul,
      Nat.succ_descFactorial_succ]

/-- Each removal is drawn below the number of tags that are left. -/
theorem bounds_removeSome (enough : k ≤ tags.length)
    (yields : (removeSome k tags).Yields bounds answers l) :
    bounds = countdown tags.length k := by
  induction k generalizing tags bounds answers with
  | zero => exact (yields_done_iff.mp yields).1
  | succ k ih =>
    obtain ⟨i, _, _, rfl, -, later⟩ := yields_draw_iff.mp yields
    have short := List.length_eraseIdx_of_lt i.isLt
    rw [ih (by omega) later, short]
    rfl

/-! ## Swaps -/

theorem perm_swapAt {i j : Nat} (first : i < tags.length) (second : j < tags.length) :
    (swapAt tags i j).Perm tags := by
  simpa [swapAt, List.getD_eq_getElem, first, second] using List.set_set_perm first second

theorem drop_swapAt {i : Nat} (last : n < tags.length) (before : i ≤ n) :
    (swapAt tags n i).drop n = tags[i] :: tags.drop (n + 1) := by
  have within : i < tags.length := by omega
  rw [swapAt, List.getD_eq_getElem _ _ within, List.getD_eq_getElem _ _ last, List.drop_set]
  split
  · rw [List.drop_set, if_neg (Nat.lt_irrefl n), List.drop_eq_getElem_cons last, Nat.sub_self]
    rfl
  · have same : i = n := by omega
    subst same
    rw [List.drop_set, if_neg (Nat.lt_irrefl i), List.set_set, Nat.sub_self,
      List.drop_eq_getElem_cons last]
    rfl

theorem shuffle_succ (n : Nat) (tags : List Int) :
    shuffle (n + 2) tags =
      .draw (n + 2) fun i => shuffle (n + 1) (swapAt tags (n + 1) i) := rfl

/-- An order that may differ in the first place only does not differ. -/
theorem perm_and_drop_iff (short : n ≤ 1) :
    (l.Perm tags ∧ l.drop n = tags.drop n) ↔ tags = l := by
  constructor
  · rintro ⟨perm, rest⟩
    have singles : (l.take n).Perm (tags.take n) := by
      have parts : (l.take n ++ l.drop n).Perm (tags.take n ++ l.drop n) := by
        rw [List.take_append_drop, rest, List.take_append_drop]
        exact perm
      exact (List.perm_append_right_iff _).mp parts
    have firsts : l.take n = tags.take n := by
      have few : (tags.take n).length ≤ 1 := (List.length_take_le n tags).trans short
      cases first : tags.take n with
      | nil =>
        rw [first] at singles
        exact singles.eq_nil
      | cons t others =>
        rw [first] at few singles
        have alone : others = [] := by simpa using few
        rw [alone] at singles ⊢
        exact List.perm_singleton.mp singles
    rw [← List.take_append_drop n l, firsts, rest, List.take_append_drop]
  · rintro rfl
    exact ⟨.refl _, rfl⟩

/-- The tag that an order has at the last place to be filled comes from there or from before. -/
theorem exists_place (distinct : tags.Nodup) (last : n < tags.length) (perm : l.Perm tags)
    (rest : l.drop (n + 1) = tags.drop (n + 1)) :
    ∃ j, ∃ (inside : j < tags.length), j ≤ n ∧ l.drop n = tags[j] :: tags.drop (n + 1) := by
  have long : n < l.length := by
    rw [perm.length_eq]
    exact last
  have split : l.drop n = l[n] :: tags.drop (n + 1) := by
    rw [List.drop_eq_getElem_cons long, rest]
  obtain ⟨j, inside, found⟩ := List.getElem_of_mem (perm.subset (List.getElem_mem long))
  refine ⟨j, inside, ?_, by rw [split, found]⟩
  -- Behind this place the order has the tags of the list already, so it would have the tag twice.
  by_contra behind
  have twice : l[n] ∈ tags.drop (n + 1) := by
    rw [← found]
    exact List.mem_drop_iff_getElem.mpr ⟨j - (n + 1), by omega, by congr 1; omega⟩
  have fresh : (l.drop n).Nodup := (perm.nodup_iff.mpr distinct).sublist (List.drop_sublist n l)
  rw [split] at fresh
  exact (List.nodup_cons.mp fresh).1 twice

/-- Each order of the first tags is the result of one vector of draws, and nothing else is a
result. -/
theorem count_outcomes_shuffle (distinct : tags.Nodup) (within : n ≤ tags.length) :
    (shuffle n tags).outcomes.count l =
      if l.Perm tags ∧ l.drop n = tags.drop n then 1 else 0 := by
  induction n generalizing tags with
  | zero =>
    simp only [shuffle, outcomes, List.count_singleton, perm_and_drop_iff (Nat.zero_le 1),
      beq_iff_eq]
  | succ n ih =>
    cases n with
    | zero =>
      simp only [shuffle, outcomes, List.count_singleton, perm_and_drop_iff (Nat.le_refl 1),
        beq_iff_eq]
    | succ n =>
      have inside (i : Fin (n + 2)) : i.val < tags.length := Nat.lt_of_lt_of_le i.isLt within
      have step (i : Fin (n + 2)) :
          (shuffle (n + 1) (swapAt tags (n + 1) i)).outcomes.count l =
            if l.Perm tags ∧ l.drop (n + 1) = tags.get ⟨i, inside i⟩ :: tags.drop (n + 2) then 1
            else 0 := by
        have perm : (swapAt tags (n + 1) i).Perm tags := perm_swapAt within (inside i)
        have long : n + 1 ≤ (swapAt tags (n + 1) i).length := by
          rw [perm.length_eq]
          exact Nat.le_of_lt within
        rw [ih (perm.nodup_iff.mpr distinct) long, drop_swapAt within (Nat.le_of_lt_succ i.isLt)]
        congr 2
        exact propext ⟨fun other => other.trans perm, fun own => own.trans perm.symm⟩
      simp only [shuffle_succ, count_outcomes_draw, step]
      by_cases fits : l.Perm tags ∧ l.drop (n + 2) = tags.drop (n + 2)
      · obtain ⟨j, here, before, split⟩ := exists_place distinct within fits.1 fits.2
        rw [if_pos fits, Finset.sum_eq_single ⟨j, Nat.lt_succ_of_le before⟩]
        · exact if_pos ⟨fits.1, split⟩
        · intro i _ different
          refine if_neg fun other => different (Fin.ext ?_)
          have same := (List.cons.inj (other.2.symm.trans split)).1
          exact distinct.getElem_inj_iff.mp same
        · exact fun missing => absurd (Finset.mem_univ _) missing
      · rw [if_neg fits]
        refine Finset.sum_eq_zero fun i _ => if_neg fun other => fits ⟨other.1, ?_⟩
        have later := congrArg List.tail other.2
        rwa [List.tail_drop] at later

/-- A whole list is shuffled into each of its orders in one way. -/
theorem count_outcomes_shuffle_length (distinct : tags.Nodup) :
    (shuffle tags.length tags).outcomes.count l = if l.Perm tags then 1 else 0 := by
  rw [count_outcomes_shuffle distinct (Nat.le_refl _)]
  congr 1
  refine propext ⟨And.left, fun perm => ⟨perm, ?_⟩⟩
  rw [List.drop_length, ← perm.length_eq, List.drop_length]

theorem canYield_shuffle_iff (distinct : tags.Nodup) :
    (shuffle tags.length tags).CanYield l ↔ l.Perm tags := by
  rw [← mem_outcomes_iff, ← List.count_pos_iff, count_outcomes_shuffle_length distinct]
  split
  · rename_i perm
    exact ⟨fun _ => perm, fun _ => Nat.one_pos⟩
  · rename_i other
    exact ⟨fun more => absurd more (Nat.lt_irrefl 0), fun perm => absurd perm other⟩

/-- The last place is drawn below its number, and so on down to the second one. -/
theorem bounds_shuffle (yields : (shuffle n tags).Yields bounds answers l) :
    bounds = countdown n (n - 1) := by
  induction n generalizing tags bounds answers with
  | zero => exact (yields_done_iff.mp yields).1
  | succ n ih =>
    cases n with
    | zero => exact (yields_done_iff.mp yields).1
    | succ n =>
      obtain ⟨i, _, _, rfl, -, later⟩ := yields_draw_iff.mp yields
      rw [ih later]
      rfl

/-! ## Both together -/

/-- Each list of the right length without duplicates is the result of removals and swaps for as many
vectors of draws as there are orders of the tags that it lacks. -/
theorem count_outcomes_shuffled (distinct : tags.Nodup) (fresh : l.Nodup) (inside : l ⊆ tags)
    (lacks : l.length + k = tags.length) :
    ((removeSome k tags).bind fun rest => shuffle rest.length rest).outcomes.count l = k ! := by
  have enough : k ≤ tags.length := by omega
  have ordered := perm_filter_mem distinct fresh inside
  have step {rest : List Int} (member : rest ∈ (removeSome k tags).outcomes) :
      (shuffle rest.length rest).outcomes.count l =
        if rest = tags.filter fun t => decide (t ∈ l) then 1 else 0 := by
    have sub := ((canYield_removeSome_iff distinct enough).mp (mem_outcomes_iff.mp member)).1
    rw [count_outcomes_shuffle_length (distinct.sublist sub)]
    congr 1
    refine propext ⟨fun perm => ?_, fun same => same ▸ ordered.symm⟩
    rw [← filter_mem_of_sublist distinct sub]
    exact List.filter_congr fun t _ => by simp only [perm.mem_iff]
  have often : (removeSome k tags).outcomes.count (tags.filter fun t => decide (t ∈ l)) = k ! := by
    rw [count_outcomes_removeSome distinct enough, if_pos]
    exact ⟨List.filter_sublist, by rw [ordered.length_eq, lacks]⟩
  calc ((removeSome k tags).bind fun rest => shuffle rest.length rest).outcomes.count l
      = ((removeSome k tags).outcomes.map fun rest =>
          (shuffle rest.length rest).outcomes.count l).sum := by
        rw [outcomes_bind, List.count_flatMap]
        rfl
    _ = ((removeSome k tags).outcomes.map fun rest =>
          if rest = tags.filter fun t => decide (t ∈ l) then 1 else 0).sum := by
        rw [List.map_congr_left fun rest member => step member]
    _ = (removeSome k tags).outcomes.count (tags.filter fun t => decide (t ∈ l)) := by
        rw [List.sum_map_ite, List.count_eq_length_filter]
        simp [beq_eq_decide]
    _ = k ! := often

end Draws

end CrashDiff
