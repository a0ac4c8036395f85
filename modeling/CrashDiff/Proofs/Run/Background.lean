import CrashDiff.Proofs.Run.Parallel
import Mathlib.Logic.Function.Basic
import Mathlib.Logic.Relation

/-!
# Runs in the background

When both variants are run at once, the starts and the ends of their children come in any order, and
a failure of the baseline leaves the candidate behind at any point. A flight is both runs on the
way. As long as the children do nothing but end, every flight comes to the same results and leaves
the outcome of the pool alone, so nothing that follows can tell them apart.

Results:
1. `tracks_of_reaches`: what holds of a flight wherever it is, by one lemma for a step.
2. `answer_eq_joined`: every flight has the answer of the runs one after the other.
3. `reaches_execute`: one of the flights is the execution of the pool.
4. `agrees_performAll`: runs with the variants at once and one after the other.
-/

namespace CrashDiff

open JournalEntry

/-- How far the run of a variant is. -/
inductive Phase where
  | waiting
  | running
  | ended (result : Except Failure VariantResult)

/-- Both variants on the way: the pool, and how far the run of each variant is. -/
structure Flight (σ : Type) where
  pool : Pool σ
  phase : Variant → Phase

namespace Flight

variable {σ : Type} {children : Children} {case : TestCase} {p : Pool σ} {f f' : Flight σ}

/-- Neither variant has been started. -/
def ready (p : Pool σ) : Flight σ :=
  ⟨p, fun _ => .waiting⟩

/-- The flight with another pool, and with the run of a variant come further. -/
def advance (v : Variant) (phase : Phase) (q : Pool σ) (f : Flight σ) : Flight σ :=
  ⟨q, Function.update f.phase v phase⟩

@[simp] theorem phase_advance_self (v : Variant) (phase : Phase) (q : Pool σ) (f : Flight σ) :
    (f.advance v phase q).phase v = phase :=
  Function.update_self _ _ _

theorem phase_advance_of_ne {v w : Variant} (different : w ≠ v) (phase : Phase) (q : Pool σ)
    (f : Flight σ) : (f.advance v phase q).phase w = f.phase w :=
  Function.update_of_ne different _ _

/-- The answer of both runs. A failure of the baseline is not kept waiting for the candidate. -/
def answer (f : Flight σ) : Option (Except Failure DualResult) :=
  match f.phase f.pool.settings.execution.baseline,
    f.phase f.pool.settings.execution.candidate with
  | .ended (.error e), _ => some (.error e)
  | .ended (.ok _), .ended (.error e) => some (.error e)
  | .ended (.ok baseline), .ended (.ok candidate) => some (.ok ⟨baseline, candidate⟩)
  | _, _ => none

/-- What can happen next.

* `start`, `refuse`: a variant is started, or its start fails.
* `finish`: the child of a variant ends. -/
inductive Step (children : Children) (case : TestCase) : Flight σ → Flight σ → Prop
  | start {f : Flight σ} {v : Variant} {q : Pool σ} :
      v ∈ f.pool.settings.execution.variants → f.phase v = .waiting →
      f.pool.launch case v (children case v) = (.ok (), q) →
      Step children case f (f.advance v .running q)
  | refuse {f : Flight σ} {v : Variant} {e : Failure} {q : Pool σ} :
      v ∈ f.pool.settings.execution.variants → f.phase v = .waiting →
      f.pool.launch case v (children case v) = (.error e, q) →
      Step children case f (f.advance v (.ended (.error e)) q)
  | finish {f : Flight σ} {v : Variant} : f.phase v = .running →
      Step children case f (f.advance v (.ended (f.pool.resultOfChild v (children case v)))
        (f.pool.afterEnd case v (children case v)))

/-- A flight that comes from another one. -/
abbrev Reaches (children : Children) (case : TestCase) : Flight σ → Flight σ → Prop :=
  Relation.ReflTransGen (Step children case)

/-- What holds of a flight from the pool `p` wherever it is.

* `outcome`: the outcome of the pool is as it was.
* `results`: a variant that has ended has come to what the end of its child says.
* `started`: the variants that are no longer waiting have been noted, each once. -/
structure Tracks (children : Children) (case : TestCase) (p : Pool σ) (f : Flight σ) : Prop where
  outcome : Pool.SameOutcome p f.pool
  results : ∀ v result, f.phase v = .ended result → result = p.resultOfChild v (children case v)
  started : ∃ vs : List Variant, vs.Nodup ∧ vs ⊆ p.settings.execution.variants ∧
    (∀ v, v ∈ vs ↔ f.phase v ≠ .waiting) ∧ f.pool.calls = p.calls ++ vs.map (p.callOf case)

namespace Tracks

theorem variants_eq (tracks : Tracks children case p f) :
    f.pool.settings.execution.variants = p.settings.execution.variants :=
  tracks.outcome.map fun r => r.settings.execution.variants

theorem step (plain : ∀ v, (children case v).OnlyEnds) (tracks : Tracks children case p f)
    (next : Step children case f f') : Tracks children case p f' := by
  obtain ⟨vs, distinct, known, started, calls⟩ := tracks.started
  cases next with
  | @start v q member waiting launched =>
    rw [Pool.launch_of_plain (plain v)] at launched
    cases launched
    have fresh : v ∉ vs := fun old => (started v).mp old waiting
    refine ⟨tracks.outcome, fun w result ended => ?_, vs ++ [v], ?_, ?_, fun w => ?_, ?_⟩
    · by_cases same : w = v
      · subst same
        rw [phase_advance_self] at ended
        cases ended
      · rw [phase_advance_of_ne same] at ended
        exact tracks.results w result ended
    · refine List.nodup_append.mpr ⟨distinct, by simp, fun w old w' new => ?_⟩
      rw [List.mem_singleton.mp new]
      exact fun same => fresh (same ▸ old)
    · refine List.append_subset.mpr ⟨known, ?_⟩
      rw [tracks.variants_eq] at member
      simpa using member
    · by_cases same : w = v
      · simp [same]
      · simp [same, started w, phase_advance_of_ne same]
    · have call : f.pool.callOf case v = p.callOf case v :=
        tracks.outcome.map fun r => r.callOf case v
      show f.pool.calls ++ [f.pool.callOf case v] = _
      rw [calls, call]
      simp
  | @refuse v e q member waiting launched =>
    rw [Pool.launch_of_plain (plain v)] at launched
    cases launched
  | @finish v running =>
    refine ⟨?_, fun w result ended => ?_, vs, distinct, known, fun w => ?_, ?_⟩
    · exact tracks.outcome.trans (Pool.outcome_afterEnd case v _ f.pool)
    · by_cases same : w = v
      · subst same
        rw [phase_advance_self] at ended
        cases ended
        exact tracks.outcome.resultOfChild_eq w _
      · rw [phase_advance_of_ne same] at ended
        exact tracks.results w result ended
    · by_cases same : w = v
      · simp [same, started v, running]
      · simp [started w, phase_advance_of_ne same]
    · rw [← calls]
      unfold Pool.afterEnd
      dsimp only
      split
      · rfl
      · split <;> rfl

end Tracks

theorem tracks_ready (children : Children) (case : TestCase) (p : Pool σ) :
    Tracks children case p (ready p) where
  outcome := .refl p
  results _ _ ended := by cases ended
  started := ⟨[], List.nodup_nil, List.nil_subset _, fun v => by simp [ready],
    (List.append_nil _).symm⟩

theorem tracks_of_reaches (plain : ∀ v, (children case v).OnlyEnds)
    (reaches : Reaches children case (ready p) f) : Tracks children case p f := by
  induction reaches with
  | refl => exact tracks_ready children case p
  | tail _ next ih => exact ih.step plain next

/-- A flight has no other answer than the runs one after the other. -/
theorem answer_eq_joined (tracks : Tracks children case p f) {answer : Except Failure DualResult}
    (answered : f.answer = some answer) : answer = p.joined children case := by
  have baseline : f.pool.settings.execution.baseline = p.settings.execution.baseline :=
    tracks.outcome.map fun r => r.settings.execution.baseline
  have candidate : f.pool.settings.execution.candidate = p.settings.execution.candidate :=
    tracks.outcome.map fun r => r.settings.execution.candidate
  unfold Flight.answer at answered
  rw [baseline, candidate] at answered
  unfold Pool.joined
  split at answered
  · rename_i e ended
    rw [← tracks.results _ _ ended]
    cases answered
    rfl
  · rename_i result e ended ended'
    rw [← tracks.results _ _ ended, ← tracks.results _ _ ended']
    cases answered
    rfl
  · rename_i result result' ended ended'
    rw [← tracks.results _ _ ended, ← tracks.results _ _ ended']
    cases answered
    rfl
  · cases answered

/-- The flight after the whole run of a variant. -/
def ran (children : Children) (case : TestCase) (v : Variant) (f : Flight σ) : Flight σ :=
  f.advance v (.ended (f.pool.runVariant children case v).1) (f.pool.runVariant children case v).2

/-- A variant that is waiting can be run at once. -/
theorem reaches_ran {v : Variant} (plain : (children case v).OnlyEnds)
    (member : v ∈ f.pool.settings.execution.variants) (waiting : f.phase v = .waiting) :
    Reaches children case f (f.ran children case v) := by
  have started := Step.start member waiting (Pool.launch_of_plain plain f.pool)
  have ended : Step children case (f.advance v .running (f.pool.afterStart case v)) _ :=
    .finish (phase_advance_self v _ _ f)
  have whole : (f.advance v .running (f.pool.afterStart case v)).advance v
      (.ended ((f.pool.afterStart case v).resultOfChild v (children case v)))
      ((f.pool.afterStart case v).afterEnd case v (children case v)) = f.ran children case v := by
    rw [ran, Pool.runVariant_of_plain plain]
    exact congrArg (Flight.mk _) (Function.update_idem _ _ _)
  rw [← whole]
  exact (Relation.ReflTransGen.single started).tail ended

/-- The execution of a pool that runs both variants at once is one of the flights. -/
theorem reaches_execute (plain : ∀ v, (children case v).OnlyEnds)
    (double : p.settings.execution.parallel = true) :
    ∃ f, Reaches children case (ready p) f ∧ f.answer = some (p.execute children case).1 ∧
      f.pool = (p.execute children case).2 := by
  have names := p.settings.execution_valid.names_distinct
  have different : p.settings.execution.candidate ≠ p.settings.execution.baseline := fun same =>
    names (congrArg Variant.name same).symm
  have first := reaches_ran (f := ready p) (plain p.settings.execution.baseline)
    (by simp [ready, ExecutionSettings.variants]) rfl
  have settings : ((ready p).ran children case p.settings.execution.baseline).pool.settings =
      p.settings := (Pool.confined_runVariant children case _ p).settings
  have second := reaches_ran (f := (ready p).ran children case p.settings.execution.baseline)
    (plain p.settings.execution.candidate) (by simp [settings, ExecutionSettings.variants])
    (phase_advance_of_ne different _ _ _)
  refine ⟨_, first.trans second, ?_⟩
  have settings' := (Pool.confined_runVariant children case p.settings.execution.candidate
    ((ready p).ran children case p.settings.execution.baseline).pool).settings.trans settings
  unfold Flight.answer
  unfold ran advance at settings' ⊢
  dsimp only at settings' ⊢
  rw [settings', Function.update_self, Function.update_of_ne different.symm, Function.update_self]
  unfold Pool.execute ExecutionSettings.runBoth ready
  dsimp only
  rcases p.runVariant children case p.settings.execution.baseline with ⟨result, p'⟩
  rcases run : p'.runVariant children case p.settings.execution.candidate with ⟨result', p''⟩
  cases result with
  | error e => simp [double, run]
  | ok baseline => cases result' <;> simp [run]

end Flight

namespace Pool

variable {σ : Type} {children : Children} {case : TestCase} {p q r : Pool σ}

/-! ## Pools that have just been started -/

variable {settings : RunSettings} {substitute : Bool} {sources : Nat → σ} {host h : Host}

theorem start_inParallel (both : Bool)
    (started : start (settings.inParallel false) substitute sources host = (.ok p, h)) :
    start (settings.inParallel both) substitute sources host = (.ok (p.inParallel both), h) := by
  have fresh := fresh_of_start started
  have events : p.events = { path := (settings.inParallel both).healthLog } := fresh.events
  refine (start_of_started started (by rfl)).trans ?_
  rw [← events]
  unfold inParallel
  rw [fresh.settings]
  rfl

theorem calls_of_start (started : start settings substitute sources host = (.ok p, h)) :
    p.calls = [] := by
  obtain ⟨files, _, rfl, rfl⟩ := start_cases started
  rfl

theorem calls_giveUp (worker : Nat) (f : Failure) (p : Pool σ) :
    (p.giveUp worker f).2.calls = p.calls := by
  cases accepts : p.events.accepts with
  | true =>
    rw [giveUp_of_accepts accepts]
    rfl
  | false =>
    rw [giveUp_of_refuses accepts]
    rfl

/-! ## Calls and schedules -/

/-- The end of a call on a case that has been run. -/
def conclude (case : TestCase) (answer : Except Failure DualResult) (p : Pool σ) :
    Except Failure Flow × Pool σ :=
  match answer with
  | .error f => (.error f, p)
  | .ok result =>
    { p with stats := p.stats.record result.verdict }.act case result result.verdict

theorem conclude_sameOutcome (case : TestCase) (answer : Except Failure DualResult)
    (same : SameOutcome p q) :
    (q.conclude case answer).1 = (p.conclude case answer).1 ∧
      SameOutcome (p.conclude case answer).2 (q.conclude case answer).2 := by
  cases answer with
  | error f => exact ⟨rfl, same⟩
  | ok result =>
    have settings : q.settings.haltOnCandidate = p.settings.haltOnCandidate :=
      same.map fun r => r.settings.haltOnCandidate
    have counted := kept_sameOutcome.count (fun s => s.record result.verdict) same
    exact kept_sameOutcome.act counted (congrArg (Verdict.action · _) settings) fun _ =>
      removeFile_sameOutcome case.path counted

variable [DrawSource σ]

theorem runOnce_eq_conclude (children : Children) {worker : Nat}
    (stages : ((p.nextCase worker).2.stage (p.caseOf worker)).1 = .ok ()) :
    p.runOnce children worker = (p.executed children worker).conclude (p.caseOf worker)
      ((p.staged worker).execute children (p.caseOf worker)).1 := by
  rw [runOnce_eq]
  unfold fate conclude
  rw [stages]
  dsimp only
  cases ((p.staged worker).execute children (p.caseOf worker)).1 <;> rfl

theorem runOnce_of_unstaged (children : Children) {worker : Nat} {f : Failure}
    (fails : ((p.nextCase worker).2.stage (p.caseOf worker)).1 = .error f) :
    p.runOnce children worker = (.error f, p.staged worker) := by
  rw [runOnce_eq]
  unfold fate
  rw [fails]

/-- A call that runs both variants at once on its case. -/
inductive CallsAtOnce (t : Turn) (p : Pool σ) : Except Failure Flow → Pool σ → Prop
  | unstaged {f : Failure} :
      ((p.nextCase t.worker).2.stage (p.caseOf t.worker)).1 = .error f →
      CallsAtOnce t p (.error f) (p.staged t.worker)
  | staged {f : Flight σ} {answer : Except Failure DualResult} :
      ((p.nextCase t.worker).2.stage (p.caseOf t.worker)).1 = .ok () →
      Flight.Reaches t.children (p.caseOf t.worker) (.ready (p.staged t.worker)) f →
      f.answer = some answer →
      CallsAtOnce t p (f.pool.conclude (p.caseOf t.worker) answer).1
        (f.pool.conclude (p.caseOf t.worker) answer).2

/-- A schedule of such calls with their answers. Between two calls the account of starts and the
messages may change in any way, since a child that a call has left behind may still be noted. -/
inductive PlaysAtOnce : List Turn → Pool σ → List (Except Failure Flow) → Pool σ → Prop
  | nil {p : Pool σ} : PlaysAtOnce [] p [] p
  | cons {t : Turn} {turns : List Turn} {answer : Except Failure Flow}
      {answers : List (Except Failure Flow)} {p q r : Pool σ} (calls : List Call)
      (messages : List Message) (err : String) : CallsAtOnce t p answer q →
      PlaysAtOnce turns
        { q with calls := calls, host := { q.host with messages := messages, err := err } }
        answers r →
      PlaysAtOnce (t :: turns) p (answer :: answers) r

/-- A call has one answer and one outcome, however the starts and the ends of its children come. -/
theorem callsAtOnce_agrees {i : Iteration σ} (plain : i.Plain) (same : SameOutcome i.before p)
    {answer : Except Failure Flow} (called : CallsAtOnce i.turn p answer q) :
    answer = i.answer ∧ SameOutcome i.after q := by
  obtain ⟨stages, staged⟩ := same.staged i.turn.worker
  have case := (same.nextCase i.turn.worker).1
  cases called with
  | unstaged fails =>
    rw [stages] at fails
    have outcome := runOnce_of_unstaged i.turn.children fails
    rw [Iteration.answer, Iteration.after, outcome]
    exact ⟨rfl, staged⟩
  | @staged f joined done reaches answered =>
    rw [case] at reaches ⊢
    have tracks := Flight.tracks_of_reaches plain reaches
    have ran := execute_of_plain plain (i.before.staged i.turn.worker)
    have result : joined = ((i.before.staged i.turn.worker).execute i.turn.children i.case).1 := by
      rw [ran.1, Flight.answer_eq_joined tracks answered]
      exact staged.joined_eq _ _
    have pools : SameOutcome (i.before.executed i.turn.children i.turn.worker) f.pool :=
      ran.2.symm.trans (staged.trans tracks.outcome)
    have outcome := runOnce_eq_conclude i.turn.children (stages.symm.trans done)
    rw [Iteration.answer, Iteration.after, outcome, result]
    exact conclude_sameOutcome _ _ pools

/-- A schedule has one list of answers and one outcome, however the starts and the ends of its
children come. -/
theorem playsAtOnce_agrees {turns : List Turn} {answers : List (Except Failure Flow)}
    (plain : ∀ i ∈ iterations turns p, i.Plain) (same : SameOutcome p q)
    (played : PlaysAtOnce turns q answers r) :
    answers = (iterations turns p).map (·.answer) ∧ SameOutcome (play turns p) r := by
  induction played generalizing p with
  | nil => exact ⟨rfl, same⟩
  | cons calls messages err called _ ih =>
    obtain ⟨answer, after⟩ := callsAtOnce_agrees (plain _ List.mem_cons_self) same called
    obtain ⟨answers, last⟩ := ih (fun i member => plain i (List.mem_cons_of_mem _ member)) after
    exact ⟨List.cons_eq_cons.mpr ⟨answer, answers⟩, last⟩

/-- The calls of a pool that runs both variants at once are such calls. -/
theorem callsAtOnce_runOnce {i : Iteration σ} (plain : i.Plain)
    (double : i.before.settings.execution.parallel = true) :
    CallsAtOnce i.turn i.before i.answer i.after := by
  cases stages : ((i.before.nextCase i.turn.worker).2.stage (i.before.caseOf i.turn.worker)).1 with
  | error f =>
    rw [Iteration.answer, Iteration.after, runOnce_of_unstaged i.turn.children stages]
    exact .unstaged stages
  | ok u =>
    obtain ⟨f, reaches, answered, pool⟩ := Flight.reaches_execute (p :=
      i.before.staged i.turn.worker) plain double
    have called := CallsAtOnce.staged stages reaches answered
    rw [pool] at called
    rw [Iteration.answer, Iteration.after, runOnce_eq_conclude i.turn.children stages]
    exact called

/-! ## The account of starts -/

/-- The starts that a run has noted are those of its calls. -/
theorem calls_performAll {moves : List Move} (performed : Move.performAll moves p = some q) :
    q.calls = p.calls ++ (callsOf (Move.journalOfAll moves p)).flatMap (·.starts) := by
  refine performAll_induction
    (R := fun journal p q => q.calls = p.calls ++ (callsOf journal).flatMap (·.starts))
    (fun p => (List.append_nil _).symm) (fun first second => ?_) (fun i => ?_)
    (fun p worker f => ?_) (fun p => (List.append_nil _).symm)
    (fun change p => (List.append_nil _).symm) performed
  · rw [second, first, callsOf_append, List.flatMap_append, List.append_assoc]
  · rw [i.calls_after]
    simp
  · rw [calls_giveUp]
    exact (List.append_nil _).symm

/-! ## Both ways of running the variants -/

/-- A pool that runs the variants one after the other, and one that runs them at once, with children
that do nothing but end.

* Where the first one can be started, so can the second one.
* Under the same moves, they make the same calls, which come equally far, to the same results or the
  same failure, with the same answers, and leave the same behind: texts, statistics, counts, files
  and halt flag. They come to the same outcome, or to none. The noted starts are those of the calls:
  both variants for each staged case, but without running them at once only the baseline if it fails
  to start.
* This holds of a schedule however the starts and the ends of the children come. -/
theorem agrees_performAll
    (started : start (settings.inParallel false) substitute sources host = (.ok p, h)) :
    start (settings.inParallel true) substitute sources host = (.ok (p.inParallel true), h) ∧
      (∀ moves, (∀ i ∈ callsOf (Move.journalOfAll moves p), i.Plain) →
        List.Forall₂ Iteration.Agrees (callsOf (Move.journalOfAll moves p))
            (callsOf (Move.journalOfAll moves (p.inParallel true))) ∧
          Option.Rel
            (fun q q' => SameOutcome q q' ∧
              q.calls = (callsOf (Move.journalOfAll moves p)).flatMap (·.starts) ∧
              q'.calls =
                (callsOf (Move.journalOfAll moves (p.inParallel true))).flatMap (·.starts))
            (Move.performAll moves p) (Move.performAll moves (p.inParallel true))) ∧
      ∀ turns answers q, (∀ i ∈ iterations turns p, i.Plain) →
        PlaysAtOnce turns (p.inParallel true) answers q →
        answers = (iterations turns p).map (·.answer) ∧ SameOutcome (play turns p) q := by
  have started' := start_inParallel true started
  have single : p.settings.execution.parallel = false := by
    rw [(fresh_of_start started).settings]
    rfl
  have side : SideBySide p (p.inParallel true) := ⟨rfl, single, rfl⟩
  refine ⟨started', fun moves plain => ?_, fun turns answers q plain played =>
    playsAtOnce_agrees plain side.outcome played⟩
  have same : List.Forall₂ (Move.Paired (SideBySide (σ := σ))) moves moves := by
    refine List.forall₂_same.mpr fun m _ => ?_
    cases m with
    | step s => exact .step s
    | disturb change =>
      refine .disturb fun p q alike => ⟨?_, alike.single, alike.double⟩
      exact (alike.outcome.step (f := fun r => ((), Move.disturbed change r)) (fun _ => rfl)
        (fun _ => rfl)).2
  obtain ⟨ends, calls, _⟩ := kept_sideBySide.performAll keptByCalls_sideBySide same side plain
  refine ⟨calls.imp fun _ _ => Iteration.agrees_of_paired,
    rel_imp_of_mem ends fun q performed q' performed' alike => ⟨alike.outcome, ?_, ?_⟩⟩
  · rw [calls_performAll performed, calls_of_start started, List.nil_append]
  · rw [calls_performAll performed', calls_of_start started', List.nil_append]

/-- Children that both fail to start. -/
def withoutCompilers : Children := fun _ v =>
  { ending := .failed (.withText .os ("no " ++ v.name)) }

/-- A crash of the baseline, and a case that no variant can be run on. -/
def failingMoves : List Move :=
  [.step (.once ⟨0, .exiting 101 1⟩), .step (.run ⟨0, withoutCompilers⟩ 2)]

/-- The failure of the baseline counts in both ways. The candidate that fails, too, is noted in one
of them only. -/
theorem agrees_of_failing_moves :
    ∃ q q', Move.performAll failingMoves (small "/sbx" []) = some q ∧
      Move.performAll failingMoves ((small "/sbx" []).inParallel true) = some q' ∧
      SameOutcome q q' ∧ q.calls.length = 3 ∧ q'.calls.length = 4 ∧
      ∃ answer r, PlaysAtOnce [⟨0, withoutCompilers⟩] ((small "/sbx" []).inParallel true)
          [answer] r ∧
        answer = .error (.withText .os "no baseline") ∧ r.host.out = "" := by
  have plain : ∀ i ∈ callsOf (Move.journalOfAll failingMoves (small "/sbx" [])), i.Plain := by
    have calls : callsOf (Move.journalOfAll failingMoves (small "/sbx" [])) =
        [⟨small "/sbx" [], ⟨0, .exiting 101 1⟩⟩,
          ⟨play [⟨0, .exiting 101 1⟩] (small "/sbx" []), ⟨0, withoutCompilers⟩⟩] := rfl
    intro i member v
    rw [calls] at member
    rcases List.mem_pair.mp member with rfl | rfl <;> exact ⟨rfl, rfl⟩
  have started : start ((RunSettings.small (.ofText "/sbx")).inParallel false) false
      (fun _ => Zeros.mk) (small "/sbx" []).host =
    (.ok (small "/sbx" []), (small "/sbx" []).host) := start_small []
  obtain ⟨_, runs, plays⟩ := agrees_performAll started
  obtain ⟨_, ends⟩ := runs failingMoves plain
  obtain ⟨q, performed⟩ : ∃ q, Move.performAll failingMoves (small "/sbx" []) = some q := ⟨_, rfl⟩
  obtain ⟨q', performed'⟩ : ∃ q',
    Move.performAll failingMoves ((small "/sbx" []).inParallel true) = some q' := ⟨_, rfl⟩
  have alike := ends
  rw [performed, performed'] at alike
  obtain ⟨same, noted, noted'⟩ := alike
  have plain' : Iteration.Plain
      ⟨(small "/sbx" []).inParallel true, ⟨0, withoutCompilers⟩⟩ := fun v => ⟨rfl, rfl⟩
  have played := PlaysAtOnce.cons [] [] "" (callsAtOnce_runOnce plain' rfl) .nil
  obtain ⟨answers, outcome⟩ := plays [⟨0, withoutCompilers⟩] _ _
    (fun i member v => by
      rw [List.mem_singleton.mp member]
      exact ⟨rfl, rfl⟩) played
  refine ⟨q, q', performed, performed', same, ?_, ?_, _, _, played, ?_, ?_⟩
  · rw [noted]
    rfl
  · rw [noted']
    rfl
  · exact (List.cons_eq_cons.mp answers).1
  · exact outcome.map fun r => r.host.out

end Pool

end CrashDiff
