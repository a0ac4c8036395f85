import CrashDiff.Proofs.Run.Loop
import Mathlib.Data.List.Forall2

/-!
# Two runs side by side

Two pools that are alike in some way are taken through the same steps. What a call does after its
verdict is put together from a few parts, so two pools stay alike if each part keeps them alike. If
every call answers the same in both pools and keeps them alike, then so do the loops of workers and
whole runs, call by call.

Results:
1. `start_of_started`: pools that are started alike.
2. `act_eq`: what becomes of a case with a verdict.
3. `ExecutionSettings.runBoth_alike`, `Kept.runOnce`: both variants and a whole call in two pools
   that are alike.
4. `Kept.runWorker`, `Kept.performAll`: a loop and a run in two pools that are alike.
-/

namespace CrashDiff

open JournalEntry

theorem rel_imp_of_mem {α β : Type} {R S : α → β → Prop} {a : Option α} {b : Option β}
    (rel : Option.Rel R a b) (imp : ∀ x, a = some x → ∀ y, b = some y → R x y → S x y) :
    Option.Rel S a b := by
  cases rel with
  | some same => exact .some (imp _ rfl _ rfl same)
  | none => exact .none

variable {σ : Type}

/-- Two calls of the same turn, in pools that are alike before and after them, with the same
answer. The first one fits what is asked of calls. -/
structure Iteration.Paired [DrawSource σ] (Fits : Iteration σ → Prop)
    (R : Pool σ → Pool σ → Prop) (i j : Iteration σ) : Prop where
  fits : Fits i
  turn : j.turn = i.turn
  before : R i.before j.before
  answer : j.answer = i.answer
  after : R i.after j.after

/-- Two moves that do the same to pools that are alike. Somebody else may change the files of the
two pools in different ways, as long as the pools stay alike. -/
inductive Move.Paired (R : Pool σ → Pool σ → Prop) : Move → Move → Prop
  | step (s : Step) : Paired R (.step s) (.step s)
  | disturb {change change' : FileSystem → FileSystem} :
      (∀ p q, R p q → R (disturbed change p) (disturbed change' q)) →
      Paired R (.disturb change) (.disturb change')

/-- What the caller of a move is told: the answer of a call or of a loop, or nothing of a loop that
comes to no end. Nobody is told of a stop, or of a change by somebody else. -/
def Move.answers [DrawSource σ] : Move → Pool σ → List (Option (Except Failure Flow))
  | .step (.once t), p => [some (p.runOnce t.children t.worker).1]
  | .step (.run t fuel), p => [(p.runWorker t.children t.worker fuel).map (·.1)]
  | .step .stop, _ => []
  | .disturb _, _ => []

/-- What the callers of moves are told. -/
def Move.answersOfAll [DrawSource σ] :
    List Move → Pool σ → List (Option (Except Failure Flow))
  | [], _ => []
  | m :: moves, p =>
    m.answers p ++
      match m.perform p with
      | none => []
      | some q => answersOfAll moves q

/-- Both variants come to the same from two states that are alike, if each of them does. -/
theorem ExecutionSettings.runBoth_alike {S S' : Type} {R : S → S' → Prop}
    (settings : ExecutionSettings) {run : Variant → S → Except Failure VariantResult × S}
    {run' : Variant → S' → Except Failure VariantResult × S'}
    (same : ∀ v s s', R s s' → (run' v s').1 = (run v s).1 ∧ R (run v s).2 (run' v s').2)
    {s : S} {s' : S'} (alike : R s s') :
    (settings.runBoth run' s').1 = (settings.runBoth run s).1 ∧
      R (settings.runBoth run s).2 (settings.runBoth run' s').2 := by
  obtain ⟨answer, after⟩ := same settings.baseline s s' alike
  unfold runBoth
  rcases first : run settings.baseline s with ⟨result, r⟩
  rcases first' : run' settings.baseline s' with ⟨result', r'⟩
  rw [first, first'] at answer after
  cases answer
  obtain ⟨answer, last⟩ := same settings.candidate r r' after
  cases result with
  | error f =>
    refine ⟨rfl, ?_⟩
    dsimp only
    split
    · exact last
    · exact after
  | ok baseline =>
    dsimp only
    rcases second : run settings.candidate r with ⟨result, t⟩
    rcases second' : run' settings.candidate r' with ⟨result', t'⟩
    rw [second, second'] at answer last
    cases answer
    cases result with
    | error f => exact ⟨rfl, last⟩
    | ok candidate => exact ⟨rfl, last⟩

namespace Pool

variable {R : Pool σ → Pool σ → Prop} {p q : Pool σ} {children : Children} {worker : Nat}
  {t : Turn}

/-! ## Pools that are started alike -/

/-- Other settings with the same scratch directory start a pool in the same files. -/
theorem start_of_started {settings settings' : RunSettings} {substitute : Bool}
    {sources : Nat → σ} {host h : Host}
    (started : start settings substitute sources host = (.ok p, h))
    (same : settings'.execution.scratchDir = settings.execution.scratchDir) :
    start settings' substitute sources host =
      (.ok { p with settings := settings', events := { path := settings'.healthLog } }, h) := by
  obtain ⟨files, made, rfl, rfl⟩ := start_cases started
  unfold start
  rw [same, made]

/-! ## After the verdict -/

/-- Goes on after a step, unless it fails. -/
def andThen (step : Except Failure Unit × Pool σ) (next : Pool σ → Flow × Pool σ) :
    Except Failure Flow × Pool σ :=
  match step with
  | (.error f, p) => (.error f, p)
  | (.ok (), p) => (.ok (next p).1, (next p).2)

/-- How a pool goes on with a case that has a verdict. -/
theorem act_eq (case : TestCase) (result : DualResult) (verdict : Verdict) (p : Pool σ) :
    p.act case result verdict =
      match verdict.action p.settings.haltOnCandidate with
      | .discard => andThen (p.removeFile case.path) fun r => (.goOn, r.notify .point)
      | .report => andThen (p.recordEvents (findingEvents case result verdict)) fun r =>
          (.goOn, r.notify (.report (Report.lineOf verdict case.identifier case.path result)))
      | .halt => andThen (p.recordEvents (findingEvents case result verdict)) fun r =>
          (.halted (Report.lineOf verdict case.identifier case.path result) verdict case,
            { r.notify (.lastReport (Report.lineOf verdict case.identifier case.path result)) with
              halted := true }) := by
  unfold act
  cases action : verdict.action p.settings.haltOnCandidate with
  | discard =>
    rcases p.removeFile case.path with ⟨answer, r⟩
    cases answer <;> rfl
  | report =>
    rcases p.recordEvents (findingEvents case result verdict) with ⟨answer, r⟩
    cases answer <;> rfl
  | halt =>
    rcases p.recordEvents (findingEvents case result verdict) with ⟨answer, r⟩
    cases answer <;> rfl

/-! ## What keeps two pools alike -/

/-- The parts of the end of a call keep two pools alike.

* `halted`: pools that are alike are halted together.
* `halt`, `count`, `recordEvent`, `notify`, `writeErr`: what is done to both leaves them alike, and
  an event is refused by both or by none.
* `trace`: the traces of failures are the same in pools that are alike. -/
structure Kept (R : Pool σ → Pool σ → Prop) : Prop where
  halted {p q : Pool σ} : R p q → q.halted = p.halted
  halt {p q : Pool σ} : R p q → R { p with halted := true } { q with halted := true }
  count {p q : Pool σ} (change : Stats → Stats) : R p q →
    R { p with stats := change p.stats } { q with stats := change q.stats }
  recordEvent {p q : Pool σ} (e : Event) : R p q →
    (q.recordEvent e).1 = (p.recordEvent e).1 ∧ R (p.recordEvent e).2 (q.recordEvent e).2
  notify {p q : Pool σ} (n : Notice) : R p q → R (p.notify n) (q.notify n)
  writeErr {p q : Pool σ} (text : String) : R p q →
    R { p with host := p.host.writeErr text } { q with host := q.host.writeErr text }
  trace {p q : Pool σ} : R p q → q.host.trace = p.host.trace

/-- A call that fits has the same answer in pools that are alike, and leaves them alike. -/
def KeptByCalls [DrawSource σ] (Fits : Iteration σ → Prop) (R : Pool σ → Pool σ → Prop) : Prop :=
  ∀ i q, Fits i → R i.before q → Iteration.Paired Fits R i ⟨q, i.turn⟩

theorem andThen_alike {step step' : Except Failure Unit × Pool σ}
    {next next' : Pool σ → Flow × Pool σ} (answer : step'.1 = step.1) (alike : R step.2 step'.2)
    (goes : R step.2 step'.2 →
      (next' step'.2).1 = (next step.2).1 ∧ R (next step.2).2 (next' step'.2).2) :
    (andThen step' next').1 = (andThen step next).1 ∧
      R (andThen step next).2 (andThen step' next').2 := by
  obtain ⟨result, p⟩ := step
  obtain ⟨result', q⟩ := step'
  cases answer
  cases result with
  | error f => exact ⟨rfl, alike⟩
  | ok u =>
    obtain ⟨same, after⟩ := goes alike
    exact ⟨congrArg Except.ok same, after⟩

namespace Kept

variable (kept : Kept R)
include kept

theorem recordEvents (events : List Event) (alike : R p q) :
    (q.recordEvents events).1 = (p.recordEvents events).1 ∧
      R (p.recordEvents events).2 (q.recordEvents events).2 := by
  induction events generalizing p q with
  | nil => exact ⟨rfl, alike⟩
  | cons e events ih =>
    obtain ⟨answer, after⟩ := kept.recordEvent e alike
    rw [Pool.recordEvents, Pool.recordEvents]
    rcases first : p.recordEvent e with ⟨result, p'⟩
    rcases second : q.recordEvent e with ⟨result', q'⟩
    rw [first, second] at answer after
    cases answer
    cases result with
    | error f => exact ⟨rfl, after⟩
    | ok u => exact ih after

theorem stop (alike : R p q) : R p.stop q.stop :=
  kept.notify .close (kept.halt alike)

theorem writeErrAll (texts : List String) (alike : R p q) :
    R { p with host := p.host.writeErrAll texts } { q with host := q.host.writeErrAll texts } := by
  induction texts generalizing p q with
  | nil => exact alike
  | cons text texts ih => exact ih (kept.writeErr text alike)

theorem writeTrace (f : Failure) (alike : R p q) :
    R { p with host := p.host.writeTrace f } { q with host := q.host.writeTrace f } := by
  have texts := congrFun (kept.trace alike) f
  unfold Host.writeTrace
  rw [texts]
  exact kept.writeErrAll (p.host.trace f) alike

theorem giveUp (worker : Nat) (f : Failure) (alike : R p q) :
    (q.giveUp worker f).1 = (p.giveUp worker f).1 ∧
      R (p.giveUp worker f).2 (q.giveUp worker f).2 := by
  obtain ⟨answer, after⟩ := kept.recordEvent (.infrastructureError worker f.shown)
    (kept.count Stats.recordFailure alike)
  unfold Pool.giveUp
  dsimp only
  rcases first : { p with stats := p.stats.recordFailure }.recordEvent
    (.infrastructureError worker f.shown) with ⟨result, p'⟩
  rcases second : { q with stats := q.stats.recordFailure }.recordEvent
    (.infrastructureError worker f.shown) with ⟨result', q'⟩
  rw [first, second] at answer after ⊢
  cases answer
  cases result with
  | error f => exact ⟨rfl, after⟩
  | ok u =>
    refine ⟨rfl, ?_⟩
    exact kept.halt (kept.writeTrace f (kept.notify (.lastReport (failureLine worker f)) after))

/-- A case with a verdict has the same end in two pools that are alike, if the verdict asks for the
same in both, and the file of a dull case can be removed from both or from none. -/
theorem act {case : TestCase} {result : DualResult} {verdict : Verdict} (alike : R p q)
    (action : verdict.action q.settings.haltOnCandidate =
      verdict.action p.settings.haltOnCandidate)
    (removed : verdict = .uninteresting →
      (q.removeFile case.path).1 = (p.removeFile case.path).1 ∧
        R (p.removeFile case.path).2 (q.removeFile case.path).2) :
    (q.act case result verdict).1 = (p.act case result verdict).1 ∧
      R (p.act case result verdict).2 (q.act case result verdict).2 := by
  have recorded := kept.recordEvents (findingEvents case result verdict) alike
  rw [act_eq, act_eq, action]
  cases asked : verdict.action p.settings.haltOnCandidate with
  | discard =>
    obtain ⟨answer, after⟩ := removed (Verdict.action_eq_discard_iff.mp asked)
    exact andThen_alike answer after fun alike => ⟨rfl, kept.notify _ alike⟩
  | report => exact andThen_alike recorded.1 recorded.2 fun alike => ⟨rfl, kept.notify _ alike⟩
  | halt =>
    exact andThen_alike recorded.1 recorded.2 fun alike => ⟨rfl, kept.halt (kept.notify _ alike)⟩

variable [DrawSource σ]

/-- A call has the same answer in two pools that are alike, and leaves them alike, if it gets the
same case, comes as far with it, and its end is the same. -/
theorem runOnce (case : q.caseOf worker = p.caseOf worker)
    (fate : q.fate children worker = p.fate children worker)
    (action : ∀ result, p.fate children worker = .judged result →
      result.verdict.action q.settings.haltOnCandidate =
        result.verdict.action p.settings.haltOnCandidate)
    (staged : R (p.staged worker) (q.staged worker))
    (executed : (∀ f, p.fate children worker ≠ .unstaged f) →
      R (p.executed children worker) (q.executed children worker))
    (discarded : ∀ result, p.fate children worker = .judged result →
      result.verdict = .uninteresting →
      (q.discarded children worker result).1 = (p.discarded children worker result).1 ∧
        R (p.discarded children worker result).2 (q.discarded children worker result).2) :
    (q.runOnce children worker).1 = (p.runOnce children worker).1 ∧
      R (p.runOnce children worker).2 (q.runOnce children worker).2 := by
  rw [runOnce_eq, runOnce_eq, fate, case]
  cases reached : p.fate children worker with
  | unstaged f => exact ⟨rfl, staged⟩
  | unrun f => exact ⟨rfl, executed (by simp [reached])⟩
  | judged result =>
    have settings := (confined_counted children worker result p).settings
    have settings' := (confined_counted children worker result q).settings
    have counted : R (p.counted children worker result) (q.counted children worker result) :=
      kept.count (fun s => s.record result.verdict) (executed (by simp [reached]))
    refine kept.act counted ?_ fun dull => ?_
    · show result.verdict.action (q.counted children worker result).settings.haltOnCandidate =
        result.verdict.action (p.counted children worker result).settings.haltOnCandidate
      rw [settings, settings']
      exact action result reached
    · have removed := discarded result reached dull
      unfold Pool.discarded at removed
      rw [case] at removed
      exact removed

/-! ## Loops and runs -/

variable {Fits : Iteration σ → Prop} (calls : KeptByCalls Fits R)
include calls

omit kept in
/-- A schedule leaves two pools alike. -/
theorem play {turns : List Turn} (alike : R p q) (fits : ∀ i ∈ iterations turns p, Fits i) :
    R (play turns p) (play turns q) := by
  induction turns generalizing p q with
  | nil => exact alike
  | cons t turns ih =>
    have first := calls ⟨p, t⟩ q (fits _ List.mem_cons_self) alike
    exact ih first.after fun i member => fits i (List.mem_cons_of_mem _ member)

/-- The loop of a worker makes the same calls in two pools that are alike, has the same answer and
leaves them alike, or it comes to no end in both. -/
theorem runWorker {fuel : Nat} (alike : R p q)
    (fits : ∀ i ∈ callsOf (journalOfRun t fuel p), Fits i) :
    Option.Rel (fun a b => b.1 = a.1 ∧ R a.2 b.2) (p.runWorker t.children t.worker fuel)
        (q.runWorker t.children t.worker fuel) ∧
      List.Forall₂ (Iteration.Paired Fits R) (callsOf (journalOfRun t fuel p))
        (callsOf (journalOfRun t fuel q)) := by
  induction fuel generalizing p q with
  | zero => exact ⟨.none, .nil⟩
  | succ fuel ih =>
    rw [journalOfRun] at fits ⊢
    rw [journalOfRun, Pool.runWorker, Pool.runWorker, kept.halted alike]
    by_cases halted : p.halted = true
    · rw [if_pos halted, if_pos halted, if_pos halted, if_pos halted]
      exact ⟨.some ⟨rfl, alike⟩, .nil⟩
    · rw [if_neg halted] at fits
      rw [if_neg halted, if_neg halted, if_neg halted, if_neg halted]
      have first := calls ⟨p, t⟩ q (fits _ List.mem_cons_self) alike
      rcases outcome : p.runOnce t.children t.worker with ⟨answer, p'⟩
      rcases outcome' : q.runOnce t.children t.worker with ⟨answer', q'⟩
      have same : answer' = answer := by
        have answers := first.answer
        rw [Iteration.answer, Iteration.answer, outcome, outcome'] at answers
        exact answers
      have after : R p' q' := by
        have pools := first.after
        rw [Iteration.after, Iteration.after, outcome, outcome'] at pools
        exact pools
      subst same
      rw [outcome] at fits
      cases answer' with
      | error f =>
        dsimp only
        by_cases interrupt : f.kind = .interrupt
        · rw [if_pos interrupt, if_pos interrupt, if_pos interrupt, if_pos interrupt]
          exact ⟨.some ⟨rfl, after⟩, .cons first .nil⟩
        · rw [if_neg interrupt, if_neg interrupt, if_neg interrupt, if_neg interrupt]
          exact ⟨.some (kept.giveUp t.worker f after), .cons first .nil⟩
      | ok flow =>
        dsimp only at fits ⊢
        cases halts : flow.halts with
        | true => exact ⟨.some ⟨rfl, after⟩, .cons first .nil⟩
        | false =>
          rw [halts] at fits
          have rest := ih after fun i member => fits i (List.mem_cons_of_mem _ member)
          exact ⟨rest.1, .cons first rest.2⟩

theorem perform {m m' : Move} (paired : Move.Paired R m m') (alike : R p q)
    (fits : ∀ i ∈ callsOf (m.journal p), Fits i) :
    Option.Rel R (m.perform p) (m'.perform q) ∧
      List.Forall₂ (Iteration.Paired Fits R) (callsOf (m.journal p)) (callsOf (m'.journal q)) ∧
      m'.answers q = m.answers p := by
  cases paired with
  | disturb same => exact ⟨.some (same p q alike), .nil, rfl⟩
  | step s =>
    cases s with
    | once t =>
      have first := calls ⟨p, t⟩ q (fits _ List.mem_cons_self) alike
      have answer : (q.runOnce t.children t.worker).1 = (p.runOnce t.children t.worker).1 :=
        first.answer
      exact ⟨.some first.after, .cons first .nil, by rw [Move.answers, Move.answers, answer]⟩
    | stop => exact ⟨.some (kept.stop alike), .nil, rfl⟩
    | run t fuel =>
      obtain ⟨ends, made⟩ := kept.runWorker calls alike fits
      show Option.Rel R ((p.runWorker t.children t.worker fuel).map (·.2))
          ((q.runWorker t.children t.worker fuel).map (·.2)) ∧ _ ∧
        [(q.runWorker t.children t.worker fuel).map (·.1)] =
          [(p.runWorker t.children t.worker fuel).map (·.1)]
      revert ends
      generalize p.runWorker t.children t.worker fuel = a
      generalize q.runWorker t.children t.worker fuel = b
      rintro (same | _)
      · exact ⟨.some same.2, made, congrArg (fun answer => [some answer]) same.1⟩
      · exact ⟨.none, made, rfl⟩

/-- The same moves make the same calls in two pools that are alike, have the same answers and leave
the pools alike, or there is a worker that comes to no end in both. -/
theorem performAll {moves moves' : List Move} (paired : List.Forall₂ (Move.Paired R) moves moves')
    (alike : R p q) (fits : ∀ i ∈ callsOf (Move.journalOfAll moves p), Fits i) :
    Option.Rel R (Move.performAll moves p) (Move.performAll moves' q) ∧
      List.Forall₂ (Iteration.Paired Fits R) (callsOf (Move.journalOfAll moves p))
        (callsOf (Move.journalOfAll moves' q)) ∧
      Move.answersOfAll moves' q = Move.answersOfAll moves p := by
  induction paired generalizing p q with
  | nil => exact ⟨.some alike, .nil, rfl⟩
  | @cons m m' moves moves' one _ ih =>
    rw [Move.journalOfAll, callsOf_append] at fits
    rw [Move.journalOfAll, Move.journalOfAll, Move.performAll, Move.performAll,
      Move.answersOfAll, Move.answersOfAll, callsOf_append, callsOf_append]
    obtain ⟨ends, made, told⟩ := kept.perform calls one alike fun i member =>
      fits i (List.mem_append_left _ member)
    cases performed : m.perform p with
    | none =>
      cases performed' : m'.perform q with
      | some q' =>
        rw [performed, performed'] at ends
        cases ends
      | none => exact ⟨.none, List.rel_append made .nil, by rw [told]⟩
    | some p' =>
      cases performed' : m'.perform q with
      | none =>
        rw [performed, performed'] at ends
        cases ends
      | some q' =>
        rw [performed] at fits
        rw [performed, performed'] at ends
        cases ends with
        | some alike' =>
          obtain ⟨ends', made', told'⟩ := ih alike' fun i member =>
            fits i (List.mem_append_right _ member)
          refine ⟨ends', List.rel_append made made', ?_⟩
          rw [told]
          exact congrArg (m.answers p ++ ·) told'

end Kept

end Pool

end CrashDiff
