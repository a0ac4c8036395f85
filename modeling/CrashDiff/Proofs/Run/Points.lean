import CrashDiff.Proofs.Run.Journal

/-!
# Points of the progress stream

A point stands for a case that was dull, whose file could be removed, and for which the progress
stream was still open then. So the points of a story are as many as the calls of this kind.

Results:
1. `points_eq_countP_told`: the points of a story.
2. `points_call`: when a call adds a point.
3. `points_performAll`: the points of the story of a run.
-/

namespace CrashDiff

namespace Happening

/-- Whether a happening is told by a point. -/
def isPoint : Happening → Bool
  | .discarded => true
  | .reported _ | .halted _ | .gaveUp .. | .stopped => false

/-- The number of points that are told of happenings, none of them on a closed stream. -/
def points : (closed : Bool) → List Happening → Nat
  | _, [] => 0
  | closed, h :: hs =>
    (if !closed && h.isPoint then 1 else 0) + points (closed || h.closes) hs

theorem points_append (closed : Bool) (hs more : List Happening) :
    points closed (hs ++ more) = points closed hs + points (closed || hs.any closes) more := by
  induction hs generalizing closed with
  | nil => simp [points]
  | cons h hs ih => simp [points, ih, Nat.add_assoc, Bool.or_assoc]

theorem points_closed (hs : List Happening) : points true hs = 0 := by
  induction hs with
  | nil => rfl
  | cons h hs ih => simp [points, ih]

theorem points_eq_zero (closed : Bool) {hs : List Happening}
    (none : ∀ h ∈ hs, h.isPoint = false) : points closed hs = 0 := by
  induction hs generalizing closed with
  | nil => rfl
  | cons h hs ih =>
    obtain ⟨own, others⟩ := List.forall_mem_cons.mp none
    simp [points, own, ih _ others]

/-- An open stream tells the points of the story. -/
theorem points_eq_countP_told (hs : List Happening) :
    points false hs = (told hs).countP isPoint := by
  induction hs with
  | nil => rfl
  | cons h hs ih =>
    cases closing : h.closes with
    | true => simp [points, told, closing, points_closed, List.countP_cons]
    | false =>
      simp only [points, told, closing, Bool.or_false, Bool.not_false, Bool.true_and,
        Bool.false_eq_true, if_false, List.countP_cons, ih]
      exact Nat.add_comm _ _

end Happening

open Happening JournalEntry

variable {σ : Type} [DrawSource σ]

namespace Iteration

/-- The removal of the file of a case. -/
def removal (i : Iteration σ) (result : DualResult) : Except Failure Unit :=
  (i.before.discarded i.turn.children i.turn.worker result).1

/-- Whether the progress stream is closed when the children of the call have run. -/
def silenced (i : Iteration σ) : Bool :=
  (i.before.executed i.turn.children i.turn.worker).progress.closed

/-- Whether the call adds a point: its case is dull, and its file is removed while the stream is
open. -/
def isPointed (i : Iteration σ) : Bool :=
  match i.fate with
  | .judged result =>
    result.verdict = .uninteresting && (i.removal result).isOk && !i.silenced
  | .unstaged _ | .unrun _ => false

end Iteration

namespace Pool

/-- The points that a call adds. -/
theorem points_call (i : Iteration σ) :
    points i.before.progress.closed i.happenings = if i.isPointed then 1 else 0 := by
  have noPoint : ∀ h ∈ i.stops, h.isPoint = false := by
    intro h member
    rw [Iteration.eq_stopped_of_mem_stops member]
    rfl
  rw [Iteration.happenings, points_append, points_eq_zero _ noPoint, Nat.zero_add,
    Iteration.isPointed]
  -- When the case is judged, the stream is as the children have left it.
  have closed {result : DualResult} (judged : i.fate = .judged result) :
      (i.before.progress.closed || i.stops.any closes) = i.silenced :=
    (tells_executed i (by simp [judged])).closed.symm
  obtain ⟨answer, q, outcome, ends⟩ := exists_ends i.turn.children i.turn.worker i.before
  rw [Iteration.ending, outcome]
  clear outcome
  induction ends with
  | unstaged unstaged =>
    have fate : i.fate = .unstaged _ := unstaged
    simp [fate, points]
  | unrun unrun =>
    have fate : i.fate = .unrun _ := unrun
    simp [fate, points]
  | @undeleted result f judged _ failed =>
    have fate : i.fate = .judged result := judged
    have removal : i.removal result = .error f := failed
    simp [fate, removal, points, Except.isOk, Except.toBool]
  | @discarded result judged dull removed =>
    have fate : i.fate = .judged result := judged
    have removal : i.removal result = .ok () := removed
    rw [closed fate]
    simp [fate, removal, dull, points, isPoint, Except.isOk, Except.toBool]
  | @unrecorded result f judged worthy _ =>
    have fate : i.fate = .judged result := judged
    simp [fate, worthy, points]
  | @reported result judged report _ =>
    have fate : i.fate = .judged result := judged
    have worthy := Verdict.ne_uninteresting_of_action (by rw [report]; decide)
    simp [fate, worthy, points, isPoint]
  | @halted result judged halt _ =>
    have fate : i.fate = .judged result := judged
    have worthy := Verdict.ne_uninteresting_of_action (by rw [halt]; decide)
    simp [fate, worthy, points, isPoint]

/-- The points of the story of a run are as many as the calls that add one. -/
theorem points_performAll {p q : Pool σ} {moves : List Move}
    (performed : Move.performAll moves p = some q) :
    points p.progress.closed (storyOf (Move.journalOfAll moves p)) =
      (callsOf (Move.journalOfAll moves p)).countP Iteration.isPointed := by
  refine (performAll_induction (R := fun journal p q => Tells (storyOf journal) p q ∧
    points p.progress.closed (storyOf journal) = (callsOf journal).countP Iteration.isPointed)
    (fun p => ⟨.of_silent rfl rfl rfl rfl, rfl⟩) (fun first second => ?_) (fun i => ?_)
    (fun p worker f => ?_) (fun p => ?_) (fun change p => ⟨.of_silent rfl rfl rfl rfl, rfl⟩)
    performed).2
  · obtain ⟨told, counted⟩ := first
    obtain ⟨told', counted'⟩ := second
    refine ⟨by rw [storyOf_append]; exact told.trans told', ?_⟩
    rw [storyOf_append, points_append, counted, ← told.closed, counted', callsOf_append,
      List.countP_append]
  · refine ⟨tells_call i, ?_⟩
    have story : storyOf [.call i] = i.happenings := List.flatMap_singleton ..
    rw [story, points_call, callsOf_call, callsOf_nil, List.countP_singleton]
  · refine ⟨tells_gaveUp p worker f, points_eq_zero _ fun h member => ?_⟩
    obtain ⟨entry, inList, told⟩ := List.mem_flatMap.mp member
    rw [List.mem_singleton.mp inList, happenings] at told
    split at told
    · rw [List.mem_singleton.mp told]
      rfl
    · cases told
  · exact ⟨tells_stop p, by simp [storyOf, happenings, points, isPoint]⟩

end Pool

end CrashDiff
