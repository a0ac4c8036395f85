import CrashDiff.Generation.Settings
import CrashDiff.Random.Draws

/-!
# Random type lists

The body of a case is a pair of lists of type tags: the parameters of the called function and
the arguments of the call. Each list comes from one of two strategies:

* a subset: all tags in order, with some removed at random, sometimes shuffled afterwards;
* a multiset: a random length, filled with tags drawn with replacement.

Results:
1. `feasible_typeList`: with valid settings no draw is out of the empty range.
2. `feasible_body`: the same for the whole body.
-/

namespace CrashDiff

/-- The random part of a case. -/
structure Body where
  parameters : List Int
  arguments : List Int
deriving DecidableEq, Repr

namespace Draws

/-- True with exactly the given probability. -/
def chance (p : Rat) : Draws Bool :=
  (uniform p.den).bind fun i => .done (decide ((i.val : Int) < p.num))

/-- Removes tags at random positions, one after the other. -/
def removeSome : Nat → List Int → Draws (List Int)
  | 0, tags => .done tags
  | k + 1, tags => (uniform tags.length).bind fun i => removeSome k (tags.eraseIdx i)

/-- The list with two positions exchanged. -/
def swapAt (tags : List Int) (i j : Nat) : List Int :=
  (tags.set i (tags.getD j 0)).set j (tags.getD i 0)

/-- Shuffles the first `n` positions: the last of them takes any of their tags, then the ones
before it are shuffled. -/
def shuffle : Nat → List Int → Draws (List Int)
  | n + 2, tags => (uniform (n + 2)).bind fun i => shuffle (n + 1) (swapAt tags (n + 1) i)
  | _, tags => .done tags

/-- A subset of the tags, in order or shuffled. -/
def subset (s : GenerationSettings) : Draws (List Int) :=
  (if s.maxRemovals = 0 then .done 0 else (uniform s.maxRemovals).bind fun i => .done i.val).bind
    fun removals => (removeSome removals s.allTags).bind
      fun tags => (chance s.shuffle).bind
        fun fires => if fires then shuffle tags.length tags else .done tags

/-- Tags drawn with replacement, in front of which stand those of `drawn`, the last one first. -/
def tagsAfter (typeCount : Nat) : Nat → List Int → Draws (List Int)
  | 0, drawn => .done drawn.reverse
  | n + 1, drawn =>
    (uniform typeCount).bind fun i => tagsAfter typeCount n (((i.val : Int) + 1) :: drawn)

/-- A list of random length, filled with tags drawn with replacement. -/
def multiset (s : GenerationSettings) : Draws (List Int) :=
  (uniform (s.maxLength - s.minLength + 1)).bind
    fun i => tagsAfter s.typeCount (s.minLength + i.val) []

/-- A type list by one of the two strategies; `p` is the probability of a subset. -/
def typeList (s : GenerationSettings) (p : Rat) : Draws (List Int) :=
  (chance p).bind fun isSubset => if isSubset then subset s else multiset s

/-- A body. The arguments are drawn first. -/
def body (s : GenerationSettings) : Draws Body :=
  (typeList s s.argumentSubset).bind fun arguments =>
    (typeList s s.parameterSubset).bind fun parameters => .done ⟨parameters, arguments⟩

/-! ## Feasibility -/

theorem feasible_uniform {bound : Nat} (pos : 0 < bound) : (uniform bound).Feasible :=
  ⟨pos, fun _ => trivial⟩

theorem feasible_chance (p : Rat) : (chance p).Feasible :=
  (feasible_uniform p.den_pos).bind fun _ => trivial

theorem feasible_removeSome {k : Nat} {tags : List Int} (enough : k ≤ tags.length) :
    (removeSome k tags).Feasible := by
  induction k generalizing tags with
  | zero => trivial
  | succ k ih =>
    refine ⟨by omega, fun i => ih ?_⟩
    rw [List.length_eraseIdx_of_lt i.isLt]
    omega

theorem feasible_shuffle (n : Nat) (tags : List Int) : (shuffle n tags).Feasible := by
  induction n generalizing tags with
  | zero => trivial
  | succ n ih =>
    cases n with
    | zero => trivial
    | succ n => exact ⟨by omega, fun i => ih _⟩

theorem feasible_tagsAfter {typeCount : Nat} (pos : 0 < typeCount) (n : Nat) (drawn : List Int) :
    (tagsAfter typeCount n drawn).Feasible := by
  induction n generalizing drawn with
  | zero => trivial
  | succ n ih => exact ⟨pos, fun i => ih _⟩

theorem feasible_subset {s : GenerationSettings} (valid : s.Valid) : (subset s).Feasible := by
  have rest : ∀ removals, removals ≤ s.typeCount →
      ((removeSome removals s.allTags).bind fun tags => (chance s.shuffle).bind fun fires =>
        if fires then shuffle tags.length tags else .done tags).Feasible := by
    intro removals few
    refine (feasible_removeSome (by simpa [GenerationSettings.allTags] using few)).bind ?_
    intro tags
    refine (feasible_chance _).bind ?_
    intro fires
    split
    · exact feasible_shuffle _ _
    · trivial
  have limit := valid.maxRemovals_le
  rw [subset]
  split
  · exact rest 0 (Nat.zero_le _)
  · exact ⟨by omega, fun i => rest i.val (by omega)⟩

theorem feasible_multiset {s : GenerationSettings} (valid : s.Valid) : (multiset s).Feasible :=
  ⟨by omega, fun _ => feasible_tagsAfter valid.typeCount_pos _ _⟩

/-- With valid settings no draw for a type list is out of an empty range. -/
theorem feasible_typeList {s : GenerationSettings} (valid : s.Valid) (p : Rat) :
    (typeList s p).Feasible := by
  refine (feasible_chance p).bind fun isSubset => ?_
  split
  · exact feasible_subset valid
  · exact feasible_multiset valid

/-- With valid settings no draw for a body is out of an empty range. -/
theorem feasible_body {s : GenerationSettings} (valid : s.Valid) : (body s).Feasible :=
  (feasible_typeList valid _).bind fun _ => (feasible_typeList valid _).bind fun _ => trivial

end Draws

end CrashDiff
