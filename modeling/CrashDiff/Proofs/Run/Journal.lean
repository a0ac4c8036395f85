import CrashDiff.Proofs.Run.Narration
import CrashDiff.Proofs.Run.Recording
import CrashDiff.Proofs.Run.Schedule

/-!
# The journal of a run

A run is a sequence of moves: steps of the pool, and changes of the files by somebody else, who may
put anything in the way of the pool or take anything away. The journal of a run lists the calls that
are begun, in order, the workers that give up, and the stops from outside.

Results:
1. `performAll_induction`: what every entry of a journal relates, the whole journal relates.
2. `leads_performAll`: the calls of a journal follow one another.
3. `Leads.identifiers`: they are numbered, whatever happens in them.
-/

namespace CrashDiff

/-! ## Between two calls -/

namespace Pool

variable {σ : Type} {p q r : Pool σ}

/-- Nothing has been drawn and no case has been numbered between the two pools. -/
structure Idle (p q : Pool σ) : Prop where
  settings : q.settings = p.settings
  sources : q.sources = p.sources
  counter : q.counter = p.counter

theorem Idle.refl (p : Pool σ) : Idle p p :=
  ⟨rfl, rfl, rfl⟩

theorem Idle.trans (first : Idle p q) (second : Idle q r) : Idle p r where
  settings := second.settings.trans first.settings
  sources := second.sources.trans first.sources
  counter := second.counter.trans first.counter

theorem idle_runVariant (children : Children) (case : TestCase) (v : Variant) (p : Pool σ) :
    Idle p (p.runVariant children case v).2 := by
  have launched : (p.launch case v (children case v)).2.sources = p.sources := by
    unfold launch
    dsimp only
    split <;> split <;> rfl
  refine ⟨(confined_runVariant children case v p).settings, ?_,
    counter_runVariant children case v p⟩
  rcases runVariant_snd children case v p with same | ⟨m, logged⟩
  · rw [same, launched]
  · rw [logged]
    exact launched

theorem idle_recordEvents (events : List Event) (p : Pool σ) : Idle p (p.recordEvents events).2 :=
  recordEvents_induction events (.refl p) fun _ _ before => before.trans ⟨rfl, rfl, rfl⟩

theorem idle_giveUp (worker : Nat) (f : Failure) (p : Pool σ) :
    Idle p (p.giveUp worker f).2 := by
  have noted : Idle p (p.failureNoted worker f) := ⟨rfl, rfl, rfl⟩
  cases accepts : p.events.accepts with
  | true =>
    rw [giveUp_of_accepts accepts]
    exact noted.trans ⟨rfl, rfl, rfl⟩
  | false =>
    rw [giveUp_of_refuses accepts]
    exact noted

end Pool

/-! ## Pools that have just been started -/

namespace Pool

variable {σ : Type}

/-- What a pool is like when it has been started: nothing has happened yet. -/
structure Fresh (given : RunSettings) (own : Nat → σ) (p : Pool σ) : Prop where
  settings : p.settings = given
  sources : p.sources = own
  counter : p.counter = {}
  stats : p.stats = {}
  events : p.events = { path := given.healthLog }
  progress : p.progress = {}
  halted : p.halted = false

theorem Fresh.opened {settings : RunSettings} {sources : Nat → σ} {p : Pool σ}
    (fresh : Fresh settings sources p) : p.progress.closed = false :=
  congrArg Progress.closed fresh.progress

theorem fresh_of_start {settings : RunSettings} {substitute : Bool} {sources : Nat → σ}
    {host h : Host} {p : Pool σ} (started : start settings substitute sources host = (.ok p, h)) :
    Fresh settings sources p := by
  obtain ⟨files, _, rfl, rfl⟩ := start_cases started
  exact ⟨rfl, rfl, rfl, rfl, rfl, rfl, rfl⟩

end Pool

/-! ## Moves and their entries -/

/-- What becomes of a pool next: a step, or a change of the files by somebody else. -/
inductive Move where
  | step (s : Step)
  | disturb (change : FileSystem → FileSystem)

/-- An entry of the journal of a run.

* `call`: a call of a worker is begun.
* `gaveUp`: a worker is stopped by a failure, in the pool that its last call has left.
* `stopped`: the run is stopped from outside. -/
inductive JournalEntry (σ : Type) where
  | call (i : Iteration σ)
  | gaveUp (before : Pool σ) (worker : Nat) (failure : Failure)
  | stopped

namespace JournalEntry

variable {σ : Type} (journal more : List (JournalEntry σ))

/-- The call that the entry notes, if it notes one. -/
def call? : JournalEntry σ → Option (Iteration σ)
  | .call i => some i
  | .gaveUp .. | .stopped => none

/-- The calls of a journal. -/
def callsOf : List (Iteration σ) :=
  journal.filterMap call?

@[simp] theorem callsOf_nil : callsOf ([] : List (JournalEntry σ)) = [] := rfl

@[simp] theorem callsOf_call (i : Iteration σ) :
    callsOf (.call i :: journal) = i :: callsOf journal := rfl

@[simp] theorem callsOf_stopped : callsOf (.stopped :: journal) = callsOf journal := rfl

@[simp] theorem callsOf_append :
    callsOf (journal ++ more) = callsOf journal ++ callsOf more :=
  List.filterMap_append

end JournalEntry

/-- The entries of the loop of a worker. -/
def journalOfRun {σ : Type} [DrawSource σ] (t : Turn) : Nat → Pool σ → List (JournalEntry σ)
  | 0, _ => []
  | fuel + 1, p =>
    if p.halted then []
    else
      .call ⟨p, t⟩ ::
        match p.runOnce t.children t.worker with
        | (.error f, q) => if f.kind = .interrupt then [] else [.gaveUp q t.worker f]
        | (.ok flow, q) => if flow.halts then [] else journalOfRun t fuel q

variable {σ : Type} [DrawSource σ]

/-- The entries of a step. -/
def Step.journal : Step → Pool σ → List (JournalEntry σ)
  | .once t, p => [.call ⟨p, t⟩]
  | .run t fuel, p => journalOfRun t fuel p
  | .stop, _ => [.stopped]

namespace Move

/-- The pool with other files. -/
def disturbed (change : FileSystem → FileSystem) (p : Pool σ) : Pool σ :=
  { p with host := { p.host with files := change p.host.files } }

/-- The pool after a move. There is none if a worker has not come to its end. -/
def perform : Move → Pool σ → Option (Pool σ)
  | .step s, p => s.perform p
  | .disturb change, p => some (disturbed change p)

/-- The entries of a move. -/
def journal : Move → Pool σ → List (JournalEntry σ)
  | .step s, p => s.journal p
  | .disturb _, _ => []

/-- The pool after moves. -/
def performAll : List Move → Pool σ → Option (Pool σ)
  | [], p => some p
  | m :: moves, p =>
    match m.perform p with
    | none => none
    | some q => performAll moves q

/-- The journal of moves. -/
def journalOfAll : List Move → Pool σ → List (JournalEntry σ)
  | [], _ => []
  | m :: moves, p =>
    m.journal p ++
      match m.perform p with
      | none => []
      | some q => journalOfAll moves q

end Move

namespace JournalEntry

/-- What happens meanwhile, as far as the progress stream may tell of it. -/
def happenings : JournalEntry σ → List Happening
  | .call i => i.happenings
  | .gaveUp before worker failure =>
    if before.events.accepts then [.gaveUp worker failure (before.host.traceText failure)] else []
  | .stopped => [.stopped]

/-- What happens in a journal, as far as the progress stream may tell of it. -/
def storyOf (journal : List (JournalEntry σ)) : List Happening :=
  journal.flatMap happenings

end JournalEntry

open JournalEntry

namespace Pool

/-! ## Induction along a journal -/

section Induction

variable {R : List (JournalEntry σ) → Pool σ → Pool σ → Prop} {p q : Pool σ}

theorem runWorker_induction (refl : ∀ p, R [] p p)
    (trans : ∀ {j j' : List (JournalEntry σ)} {p q r : Pool σ},
      R j p q → R j' q r → R (j ++ j') p r)
    (call : ∀ i : Iteration σ, R [.call i] i.before i.after)
    (gaveUp : ∀ p worker f, R [.gaveUp p worker f] p (p.giveUp worker f).2)
    {t : Turn} {fuel : Nat} {answer : Except Failure Flow}
    (ran : p.runWorker t.children t.worker fuel = some (answer, q)) :
    R (journalOfRun t fuel p) p q := by
  induction fuel generalizing p with
  | zero => cases ran
  | succ fuel ih =>
    rw [runWorker] at ran
    rw [journalOfRun]
    have first := call ⟨p, t⟩
    split at ran
    · rename_i halted
      cases ran
      rw [if_pos halted]
      exact refl _
    · rename_i goesOn
      rw [if_neg goesOn]
      rcases outcome : p.runOnce t.children t.worker with ⟨answer', r⟩
      have after : Iteration.after ⟨p, t⟩ = r := congrArg Prod.snd outcome
      rw [after] at first
      rw [outcome] at ran
      cases answer' with
      | error f =>
        dsimp only at ran ⊢
        split at ran
        · rename_i interrupt
          cases ran
          rw [if_pos interrupt]
          exact first
        · rename_i handled
          rw [if_neg handled]
          have last := gaveUp r t.worker f
          rw [Option.some.injEq] at ran
          rw [ran] at last
          exact trans first last
      | ok flow =>
        dsimp only at ran ⊢
        split at ran
        · rename_i halts
          cases ran
          rw [if_pos halts]
          exact first
        · rename_i again
          rw [if_neg again]
          exact trans first (ih ran)

/-- What calls, workers that give up, stops and changes of the files relate one by one, a journal
relates as a whole. -/
theorem performAll_induction (refl : ∀ p, R [] p p)
    (trans : ∀ {j j' : List (JournalEntry σ)} {p q r : Pool σ},
      R j p q → R j' q r → R (j ++ j') p r)
    (call : ∀ i : Iteration σ, R [.call i] i.before i.after)
    (gaveUp : ∀ p worker f, R [.gaveUp p worker f] p (p.giveUp worker f).2)
    (stopped : ∀ p, R [.stopped] p p.stop)
    (disturbed : ∀ change p, R [] p (Move.disturbed change p)) {moves : List Move}
    (performed : Move.performAll moves p = some q) : R (Move.journalOfAll moves p) p q := by
  have step (m : Move) {p q : Pool σ} (performed : m.perform p = some q) :
      R (m.journal p) p q := by
    cases m with
    | disturb change =>
      cases performed
      exact disturbed change p
    | step s =>
      cases s with
      | once t =>
        cases performed
        exact call ⟨p, t⟩
      | run t fuel =>
        obtain ⟨⟨answer, r⟩, ran, rfl⟩ := Option.map_eq_some_iff.mp performed
        exact runWorker_induction refl trans call gaveUp ran
      | stop =>
        cases performed
        exact stopped p
  induction moves generalizing p with
  | nil =>
    cases performed
    exact refl _
  | cons m moves ih =>
    rw [Move.performAll] at performed
    rw [Move.journalOfAll]
    cases first : m.perform p with
    | none =>
      rw [first] at performed
      cases performed
    | some r =>
      rw [first] at performed
      exact trans (step m first) (ih performed)

end Induction

/-! ## What the stream tells -/

variable {p q r : Pool σ} {moves : List Move}

theorem storyOf_append (journal more : List (JournalEntry σ)) :
    storyOf (journal ++ more) = storyOf journal ++ storyOf more :=
  List.flatMap_append

theorem tells_call (i : Iteration σ) : Tells (storyOf [.call i]) i.before i.after := by
  simpa [storyOf, happenings] using tells_runOnce i

theorem tells_gaveUp (p : Pool σ) (worker : Nat) (f : Failure) :
    Tells (storyOf [.gaveUp p worker f]) p (p.giveUp worker f).2 := by
  have told := tells_giveUp worker f p
  cases accepts : p.events.accepts with
  | true =>
    rw [giveUp_of_accepts accepts] at told ⊢
    simpa [storyOf, happenings, accepts] using told
  | false =>
    rw [giveUp_of_refuses accepts] at told ⊢
    simpa [storyOf, happenings, accepts] using told

/-- The progress stream tells the story of the journal. -/
theorem tells_journal (performed : Move.performAll moves p = some q) :
    Tells (storyOf (Move.journalOfAll moves p)) p q := by
  refine performAll_induction (R := fun journal p q => Tells (storyOf journal) p q)
    (fun p => .of_silent rfl rfl rfl rfl) (fun first second => ?_) tells_call tells_gaveUp
    tells_stop (fun change p => .of_silent rfl rfl rfl rfl) performed
  rw [storyOf_append]
  exact first.trans second

/-- Moves leave the traces of failures as they are. -/
theorem trace_performAll (performed : Move.performAll moves p = some q) :
    q.host.trace = p.host.trace := by
  refine performAll_induction (R := fun _ p q => q.host.trace = p.host.trace) (fun _ => rfl)
    (fun first second => second.trans first)
    (fun i => trace_runOnce i.turn.children i.turn.worker i.before) (fun p worker f => ?_)
    (fun p => trace_notify .close _) (fun _ _ => rfl) performed
  have noted : (p.failureNoted worker f).host.trace = p.host.trace := rfl
  cases accepts : p.events.accepts with
  | false =>
    rw [giveUp_of_refuses accepts]
    exact noted
  | true =>
    rw [giveUp_of_accepts accepts]
    exact (Host.trace_writeErrAll _ _).trans ((trace_notify _ _).trans noted)

/-! ## Calls that follow one another -/

/-- A call draws one case, and nothing more. -/
theorem idle_after (i : Iteration σ) : Idle (i.before.nextCase i.turn.worker).2 i.after := by
  have executed : Idle (i.before.nextCase i.turn.worker).2
      (i.before.executed i.turn.children i.turn.worker) := by
    have staged : Idle (i.before.nextCase i.turn.worker).2 (i.before.staged i.turn.worker) :=
      ⟨rfl, rfl, rfl⟩
    exact (execute_induction staged fun v q before =>
      before.trans (idle_runVariant _ _ v q)).2
  obtain ⟨answer, q, outcome, ends⟩ := exists_ends i.turn.children i.turn.worker i.before
  have after : i.after = q := congrArg Prod.snd outcome
  rw [after]
  have counted (result : DualResult) : Idle (i.before.nextCase i.turn.worker).2
      (i.before.counted i.turn.children i.turn.worker result) := executed.trans ⟨rfl, rfl, rfl⟩
  have recorded (result : DualResult) : Idle (i.before.nextCase i.turn.worker).2
      (i.before.recorded i.turn.children i.turn.worker result).2 :=
    (counted result).trans (idle_recordEvents _ _)
  cases ends with
  | unstaged _ => exact ⟨rfl, rfl, rfl⟩
  | unrun _ => exact executed
  | @undeleted result _ _ _ _ => exact (counted result).trans ⟨rfl, rfl, rfl⟩
  | @discarded result _ _ _ => exact (counted result).trans ⟨rfl, rfl, rfl⟩
  | @unrecorded result _ _ _ _ => exact recorded result
  | @reported result _ _ _ => exact (recorded result).trans ⟨rfl, rfl, rfl⟩
  | @halted result _ _ _ => exact (recorded result).trans ⟨rfl, rfl, rfl⟩

/-- `Leads calls p q`: the calls lead from the pool `p` to the pool `q`. Each of them draws where
the one before it has stopped drawing, and numbers its case with the next number. -/
inductive Leads : List (Iteration σ) → Pool σ → Pool σ → Prop
  | nil {p q : Pool σ} : Idle p q → Leads [] p q
  | cons {i : Iteration σ} {calls : List (Iteration σ)} {p q : Pool σ} :
      Idle p i.before → Leads calls i.after q → Leads (i :: calls) p q

namespace Leads

variable {calls more : List (Iteration σ)}

theorem of_idle (idle : Idle p q) (leads : Leads calls q r) : Leads calls p r := by
  cases leads with
  | nil same => exact .nil (idle.trans same)
  | cons same rest => exact .cons (idle.trans same) rest

theorem trans (first : Leads calls p q) (second : Leads more q r) : Leads (calls ++ more) p r := by
  induction first with
  | nil same => exact second.of_idle same
  | cons same _ ih => exact .cons same (ih second)

/-- The cases of calls that follow one another are numbered from the counter on, and the counter
says how many they are. -/
theorem identifiers (leads : Leads calls p q) :
    calls.map (·.case.identifier) =
        (List.range calls.length).map (fun n : Nat => p.counter.value + n) ∧
      q.counter.value = p.counter.value + calls.length := by
  induction leads with
  | nil same => simp [same.counter]
  | @cons i calls p q same _ ih =>
    obtain ⟨numbers, last⟩ := ih
    have next : i.after.counter.value = p.counter.value + 1 := by
      rw [(idle_after i).counter, ← same.counter]
      rfl
    have first : i.case.identifier = p.counter.value := by
      rw [← same.counter]
      rfl
    constructor
    · rw [List.map_cons, numbers, first, next, List.length_cons, List.range_succ_eq_map]
      simp only [List.map_cons, List.map_map]
      refine List.cons_eq_cons.mpr ⟨by simp, List.map_congr_left fun n _ => ?_⟩
      simp only [Function.comp_apply]
      omega
    · rw [last, next, List.length_cons]
      omega

end Leads

theorem leads_performAll (performed : Move.performAll moves p = some q) :
    Leads (callsOf (Move.journalOfAll moves p)) p q := by
  refine performAll_induction (R := fun j p q => Leads (callsOf j) p q) (fun p => .nil (.refl p))
    (fun first second => ?_) (fun i => .cons (.refl _) (.nil (.refl _)))
    (fun p worker f => .nil (idle_giveUp worker f p)) (fun p => .nil ⟨rfl, rfl, rfl⟩)
    (fun change p => .nil ⟨rfl, rfl, rfl⟩) performed
  rw [callsOf_append]
  exact first.trans second

end Pool

end CrashDiff
