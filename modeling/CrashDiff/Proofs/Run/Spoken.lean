import CrashDiff.Proofs.Run.ThreadLog

/-!
# What the main thread has to say

The main thread of a session tells how its wait has ended, and prints the summary. Other threads may
write in between, on the progress stream and in traces, but they leave the order of its texts as it
is.

Results:
1. `Thread.spokenOf_move`: a worker adds nothing to what the main thread says.
2. `hasSaid_move`: a move goes on with what there is to say.
3. `hasSaid_run`: so does every schedule.
-/

namespace CrashDiff

variable {σ : Type}

namespace Saying

/-- What the main thread writes. -/
def spoken? : Saying → Option String
  | .spoken _ text => some text
  | .progress _ | .traced .. => none

/-- The texts of the main thread. -/
def spokenOf (said : List Saying) : List String :=
  said.filterMap spoken?

theorem spokenOf_append (said more : List Saying) :
    spokenOf (said ++ more) = spokenOf said ++ spokenOf more :=
  List.filterMap_append

end Saying

open Saying

/-- `Concludes c notice`: how the wait of the main thread ends, and what it tells of that. -/
inductive Concludes : Session.Conclusion → List String → Prop
  | completed : Concludes ⟨0, "Completed"⟩ []
  | halted (flow : Flow) : flow.halts = true → Concludes ⟨1, "Halted: " ++ flow.reason⟩ []
  | interrupted :
      Concludes ⟨0, "KeyboardInterrupt"⟩ ["\n[!] Fuzzing stopped by user.", "\n"]

/-- The texts are those of a run that has been summed up: the notice of its end, and the summary. -/
def SumsUp (input : SessionInput) (c : Session.Conclusion) (texts : List String) : Prop :=
  ∃ notice summary, ∃ (stats : Stats) (counts : EventCounts), Concludes c notice ∧
    Summary.render c.reason (Session.seconds input.duration) stats.fields
      (EventCounts.fields counts) = .ok summary ∧ texts = notice ++ [summary, "\n"]

/-- What the main thread has said so far. -/
def MainThread.HasSaid (input : SessionInput) (spoken : List String) : MainThread → Prop
  | .watching _ => spoken = []
  | .halting c texts | .silencing c texts => spoken = [] ∧ Concludes c texts
  | .telling c texts => Concludes c (spoken ++ texts)
  | .summing c counters => Concludes c spoken ∧ ∃ stats : Stats, counters = stats.fields
  | .printing c texts => SumsUp input c (spoken ++ texts)
  | .restoring c _ _ => SumsUp input c spoken
  | .parting .. | .ended .. => True

/-- Workers leave the speaking to the main thread. -/
theorem Thread.spokenOf_move [DrawSource σ] (children : Children) (worker : Nat) (p : Pool σ)
    (t : Thread σ) : spokenOf (t.move children worker p).said = [] := by
  cases t with
  | looking =>
    rw [move]
    split <;> rfl
  | calling rest =>
    cases rest with
    | done answer =>
      cases answer with
      | ok flow => rfl
      | error f =>
        rw [move]
        split <;> rfl
    | act effect next => rfl
    | tell n next => rfl
  | failing f rest =>
    cases rest with
    | done answer => cases answer <;> rfl
    | act effect next => rfl
    | tell n next => rfl
  | tracing shared texts f =>
    cases texts with
    | cons text texts => rfl
    | nil => cases f <;> rfl
  | answering flow => rfl
  | finished => rfl

namespace Threads

variable {s start : Threads σ} {input : SessionInput}

/-- A move of the main thread goes on with what it says. -/
theorem hasSaid_moveMain (said : s.main.HasSaid input (spokenOf s.said)) :
    (s.moveMain input).main.HasSaid input (spokenOf (s.moveMain input).said) := by
  have spoken (text : String) : spokenOf (s.speak text).said = spokenOf s.said ++ [text] :=
    spokenOf_append _ _
  cases main : s.main with
  | watching count =>
    rw [main] at said
    cases count with
    | zero =>
      rw [moveMain, main]
      exact ⟨said, .completed⟩
    | succ count =>
      rw [moveMain, main]
      dsimp only
      split
      · rw [main]
        exact said
      · dsimp only
        split
        · rename_i flow _ _ halts
          exact ⟨said, .halted flow halts⟩
        · exact said
  | halting c texts =>
    rw [main] at said
    rw [moveMain, main]
    exact said
  | silencing c texts =>
    rw [main] at said
    rw [moveMain, main]
    show Concludes c (spokenOf s.said ++ texts)
    rw [said.1]
    exact said.2
  | telling c texts =>
    rw [main] at said
    cases texts with
    | nil =>
      rw [moveMain, main]
      exact ⟨by rwa [MainThread.HasSaid, List.append_nil] at said, s.pool.stats, rfl⟩
    | cons text texts =>
      rw [moveMain, main]
      show Concludes c (spokenOf (s.speak text).said ++ texts)
      rw [spoken, List.append_assoc]
      exact said
  | summing c counters =>
    rw [main] at said
    obtain ⟨concludes, stats, rfl⟩ := said
    rw [moveMain, main]
    dsimp only
    split
    · trivial
    · rename_i summary rendered
      exact ⟨_, summary, stats, _, concludes, rendered, rfl⟩
  | printing c texts =>
    rw [main] at said
    cases texts with
    | cons text texts =>
      rw [moveMain, main]
      show SumsUp input c (spokenOf (s.speak text).said ++ texts)
      rw [spoken, List.append_assoc]
      exact said
    | nil =>
      rw [moveMain, main]
      dsimp only
      split
      · trivial
      · show SumsUp input c (spokenOf s.said)
        rwa [MainThread.HasSaid, List.append_nil] at said
  | restoring c log path =>
    rw [moveMain, main]
    trivial
  | parting c log texts =>
    rw [moveMain, main]
    cases texts <;> trivial
  | ended ending log =>
    rw [moveMain, main]
    dsimp only
    rw [main]
    trivial

variable [DrawSource σ]

theorem hasSaid_move (said : s.main.HasSaid input (spokenOf s.said)) (m : Mover) :
    (s.move input m).main.HasSaid input (spokenOf (s.move input m).said) := by
  cases m with
  | worker k =>
    cases found : s.workers[k]? with
    | none =>
      rw [move_no_worker found]
      exact said
    | some t =>
      rw [move_worker found]
      show s.main.HasSaid input (spokenOf (s.said ++ (t.move input.children k s.pool).said))
      rw [spokenOf_append, Thread.spokenOf_move, List.append_nil]
      exact said
  | main => exact hasSaid_moveMain said
  | interrupt =>
    unfold move
    dsimp only
    split
    · rename_i count main
      rw [main] at said
      exact ⟨said, .interrupted⟩
    · exact said

/-- The main thread says what it has to say, whatever other threads do in between. -/
theorem hasSaid_run (first : start.main.HasSaid input (spokenOf start.said))
    (schedule : List Mover) :
    (start.run input schedule).main.HasSaid input (spokenOf (start.run input schedule).said) := by
  induction schedule generalizing start with
  | nil => exact first
  | cons m schedule ih => exact ih (hasSaid_move first m)

end Threads

end CrashDiff
