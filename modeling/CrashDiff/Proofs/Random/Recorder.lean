import CrashDiff.Proofs.Random.Branches

/-!
# Recorded runs

A run takes the branch that its source of draws selects. A recorder stands between the run and the
source and writes down what is asked and what is answered; the run does not notice. A script does
the same for prepared answers, as long as there are enough of them.

Results:
1. `run_recorder`: a recorded run is the run itself, and the record is a branch of the tree.
2. `Asks.bind`, `Asks.leaves`: what a run asks for, if the branches of the tree are known.
3. `follow_bind_of_yields`: a script goes along a branch up to its end, and on from there.
-/

namespace CrashDiff

variable {α β σ : Type} {bounds answers : List Nat}

/-- A source of draws with a record of the bounds that were asked for and of the answers to them. -/
structure Recorder (σ : Type) where
  source : σ
  asked : List Nat := []
  answered : List Nat := []

instance [DrawSource σ] : DrawSource (Recorder σ) where
  below bound pos r :=
    let (i, source) := DrawSource.below bound pos r.source
    (i, ⟨source, r.asked ++ [bound], r.answered ++ [i.val]⟩)

namespace Draws

/-- Each answer is below its bound. -/
def Fits (bounds answers : List Nat) : Prop :=
  List.Forall₂ (fun bound answer => answer < bound) bounds answers

instance (bounds answers : List Nat) : Decidable (Fits bounds answers) :=
  inferInstanceAs (Decidable (List.Forall₂ _ _ _))

theorem Yields.fits {d : Draws α} {a : α} (yields : d.Yields bounds answers a) :
    Fits bounds answers := by
  induction yields with
  | done _ => exact .nil
  | draw i _ ih => exact .cons i.isLt ih

/-- What a recorder stands in front of is run as it would be without it, and the record is that of a
branch. -/
theorem run_recorder [DrawSource σ] (d : Draws α) (feasible : d.Feasible) (r : Recorder σ) :
    ∃ bounds answers, d.Yields bounds answers (d.run feasible r.source).1 ∧
      d.run feasible r = ((d.run feasible r.source).1,
        ⟨(d.run feasible r.source).2, r.asked ++ bounds, r.answered ++ answers⟩) := by
  induction d generalizing r with
  | done a => exact ⟨[], [], .done a, by simp [run]⟩
  | draw bound next ih =>
    obtain ⟨positive, later⟩ := feasible
    obtain ⟨bounds, answers, yields, same⟩ :=
      ih (DrawSource.below bound positive r.source).1 (later _)
        (DrawSource.below bound positive r).2
    refine ⟨bound :: bounds, _, .draw _ yields, ?_⟩
    have recorded : (DrawSource.below bound positive r).2 =
        ⟨(DrawSource.below bound positive r.source).2, r.asked ++ [bound],
          r.answered ++ [(DrawSource.below bound positive r.source).1.val]⟩ := rfl
    rw [recorded] at same
    simpa [run, DrawSource.below] using same

/-! ## Known branches -/

/-- What a tree asks for is known: no bound is zero, and its branches are the given traces of bounds
and answers. -/
structure Asks (d : Draws α) (trace : List Nat → List Nat → Prop) : Prop where
  feasible : d.Feasible
  branches : ∀ bounds answers, (∃ a, d.Yields bounds answers a) ↔ trace bounds answers

/-- Two traces behind each other. -/
def Joined (first second : List Nat → List Nat → Prop) (bounds answers : List Nat) : Prop :=
  ∃ bounds₁ answers₁ bounds₂ answers₂, bounds = bounds₁ ++ bounds₂ ∧
    answers = answers₁ ++ answers₂ ∧ first bounds₁ answers₁ ∧ second bounds₂ answers₂

theorem Asks.bind {d : Draws α} {f : α → Draws β} {first second : List Nat → List Nat → Prop}
    (here : d.Asks first) (there : ∀ a, (f a).Asks second) :
    (d.bind f).Asks (Joined first second) where
  feasible := here.feasible.bind fun a => (there a).feasible
  branches := by
    intro bounds answers
    constructor
    · rintro ⟨b, yields⟩
      obtain ⟨bounds₁, answers₁, bounds₂, answers₂, a, rfl, rfl, early, late⟩ :=
        yields_bind_iff.mp yields
      exact ⟨bounds₁, answers₁, bounds₂, answers₂, rfl, rfl, (here.branches _ _).mp ⟨a, early⟩,
        ((there a).branches _ _).mp ⟨b, late⟩⟩
    · rintro ⟨bounds₁, answers₁, bounds₂, answers₂, rfl, rfl, early, late⟩
      obtain ⟨a, first⟩ := (here.branches _ _).mpr early
      obtain ⟨b, second⟩ := ((there a).branches _ _).mpr late
      exact ⟨b, yields_bind_iff.mpr ⟨_, _, _, _, a, rfl, rfl, first, second⟩⟩

/-- Whatever the source, the record of a run is one of the given traces, and the run is the one
without the recorder. -/
def Leaves (d : Draws α) (feasible : d.Feasible) (trace : List Nat → List Nat → Prop) : Prop :=
  ∀ {σ : Type} [DrawSource σ] (source : σ), ∃ bounds answers, trace bounds answers ∧
    d.run feasible ({ source := source } : Recorder σ) =
      ((d.run feasible source).1, ⟨(d.run feasible source).2, bounds, answers⟩)

theorem Asks.leaves {d : Draws α} {trace : List Nat → List Nat → Prop} (asks : d.Asks trace) :
    d.Leaves asks.feasible trace := by
  intro σ _ source
  obtain ⟨bounds, answers, yields, recorded⟩ :=
    run_recorder d asks.feasible ({ source := source } : Recorder σ)
  exact ⟨bounds, answers, (asks.branches _ _).mp ⟨_, yields⟩, by simpa using recorded⟩

/-! ## Scripts -/

/-- A script whose answers lead along a branch goes on from the end of the branch. -/
theorem follow_bind_of_yields {d : Draws α} {a : α} (yields : d.Yields bounds answers a)
    (f : α → Draws β) (rest : List Int) (asked : List Nat) :
    (d.bind f).follow ⟨answers.map Int.ofNat ++ rest, asked⟩ =
      (f a).follow ⟨rest, asked ++ bounds⟩ := by
  induction yields generalizing asked with
  | done a => simp
  | @draw bound next bounds answers a i _ ih =>
    have answer : ((i.val : Int) % (bound : Int)).toNat = i.val := by
      rw [← Int.natCast_emod, Int.toNat_natCast, Nat.mod_eq_of_lt i.isLt]
    have inside : ((i.val : Int) % (bound : Int)).toNat < bound := by
      rw [answer]
      exact i.isLt
    have taken : (⟨((i.val : Int) % (bound : Int)).toNat, inside⟩ : Fin bound) = i := Fin.ext answer
    simp only [draw_bind, List.map_cons, List.cons_append, Int.ofNat_eq_natCast, follow, inside,
      dif_pos, taken]
    have later := ih (asked ++ [bound])
    rw [List.append_assoc, List.singleton_append] at later
    exact later

end Draws

end CrashDiff
