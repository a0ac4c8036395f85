/-!
# Programs that draw at random

A value that depends on uniform draws is a tree: each node asks for a number below a bound and
goes on with any answer below it. The tree is independent of where the numbers come from, so the
same program is run from a generator, from a script of prepared answers, or followed along all of
its branches.

* `Feasible`: no node asks for a number below zero, so every draw has an answer.
* `run`: the value for a source of draws.
* `follow`: the value for a script, with the bounds that were asked for.
* `Yields`: the value at the end of a branch, with the bounds and the answers along it.
-/

namespace CrashDiff

/-- A value of type `α` that depends on uniform draws. -/
inductive Draws (α : Type) where
  | done (a : α)
  | draw (bound : Nat) (next : Fin bound → Draws α)

/-- A source of uniform draws: answers a positive bound by a number below it. -/
class DrawSource (σ : Type) where
  below (bound : Nat) (pos : 0 < bound) (source : σ) : Fin bound × σ

namespace Draws

variable {α β σ : Type}

/-! ## Building -/

/-- A number below the bound. -/
def uniform (bound : Nat) : Draws (Fin bound) :=
  .draw bound .done

/-- Goes on with the value of a tree. -/
def bind : Draws α → (α → Draws β) → Draws β
  | .done a, f => f a
  | .draw bound next, f => .draw bound fun i => (next i).bind f

instance : Monad Draws where
  pure := .done
  bind := bind

@[simp] theorem pure_eq (a : α) : (pure a : Draws α) = .done a := rfl

@[simp] theorem bind_eq (d : Draws α) (f : α → Draws β) : d >>= f = d.bind f := rfl

@[simp] theorem done_bind (a : α) (f : α → Draws β) : (Draws.done a).bind f = f a := rfl

@[simp] theorem draw_bind (bound : Nat) (next : Fin bound → Draws α) (f : α → Draws β) :
    (Draws.draw bound next).bind f = .draw bound fun i => (next i).bind f := rfl

@[simp] theorem uniform_bind (bound : Nat) (f : Fin bound → Draws β) :
    (uniform bound).bind f = .draw bound f := rfl

theorem bind_done (d : Draws α) : d.bind .done = d := by
  induction d with
  | done a => rfl
  | draw bound next ih => simp [ih]

theorem bind_assoc {γ : Type} (d : Draws α) (f : α → Draws β) (g : β → Draws γ) :
    (d.bind f).bind g = d.bind fun a => (f a).bind g := by
  induction d with
  | done a => rfl
  | draw bound next ih => simp [ih]

/-! ## Feasible trees -/

/-- Every bound along every branch is positive. -/
def Feasible : Draws α → Prop
  | .done _ => True
  | .draw bound next => 0 < bound ∧ ∀ i, (next i).Feasible

@[simp] theorem feasible_done (a : α) : (Draws.done a).Feasible := trivial

@[simp] theorem feasible_draw {bound : Nat} {next : Fin bound → Draws α} :
    (Draws.draw bound next).Feasible ↔ 0 < bound ∧ ∀ i, (next i).Feasible := Iff.rfl

theorem Feasible.bind {d : Draws α} {f : α → Draws β} (first : d.Feasible)
    (rest : ∀ a, (f a).Feasible) : (d.bind f).Feasible := by
  induction d with
  | done a => exact rest a
  | draw bound next ih => exact ⟨first.1, fun i => ih i (first.2 i)⟩

/-! ## Running -/

/-- The value of a feasible tree for a source of draws, and the source after them. -/
def run [DrawSource σ] : (d : Draws α) → d.Feasible → σ → α × σ
  | .done a, _, source => (a, source)
  | .draw bound next, feasible, source =>
    let (i, source) := DrawSource.below bound feasible.1 source
    (next i).run (feasible.2 i) source

/-- A script of answers, and the bounds that were answered from it so far. -/
structure Script where
  answers : List Int
  asked : List Nat := []
deriving DecidableEq, Repr

/-- The value of a tree for a script. Each draw takes the next answer modulo its bound. Without
an answer, or for the bound zero, the bound is the result. -/
def follow : Draws α → Script → Except Nat α × Script
  | .done a, script => (.ok a, script)
  | .draw bound _, ⟨[], asked⟩ => (.error bound, ⟨[], asked⟩)
  | .draw bound next, ⟨v :: vs, asked⟩ =>
    if h : (v % bound).toNat < bound then
      (next ⟨(v % bound).toNat, h⟩).follow ⟨vs, asked ++ [bound]⟩
    else (.error bound, ⟨v :: vs, asked⟩)

/-- `Yields d bounds answers a`: some branch of `d` asks for numbers below the given bounds, is
given the answers, and ends with `a`.

* `done`: a finished tree asks for nothing.
* `draw`: the answer to the first bound selects the rest of the branch. -/
inductive Yields : Draws α → List Nat → List Nat → α → Prop
  | done (a : α) : Yields (.done a) [] [] a
  | draw {bound : Nat} {next : Fin bound → Draws α} {bounds answers : List Nat} {a : α}
      (i : Fin bound) : Yields (next i) bounds answers a →
      Yields (.draw bound next) (bound :: bounds) (i.val :: answers) a

/-- The values at the ends of all branches, one for each branch. -/
def outcomes : Draws α → List α
  | .done a => [a]
  | .draw bound next => (List.finRange bound).flatMap fun i => (next i).outcomes

end Draws

end CrashDiff
