import CrashDiff.Proofs.Run.Journal

/-!
# The bodies of a worker

A call draws one body from the random source of its worker, whatever becomes of the case, and leaves
the sources of the other workers alone. So the bodies of a worker are those that its source yields
one after the other, and two runs from the same seed differ in the identifiers only.

Results:
1. `sources_after`: what a call draws.
2. `Leads.hasBody`: the bodies of a worker, in terms of its source.
3. `bodies_of_seed`: the bodies of a worker in two runs from the same seed.
-/

namespace CrashDiff

open JournalEntry

variable {σ : Type} [DrawSource σ]

namespace GenerationSettings

variable (s : GenerationSettings) (valid : s.Valid)

/-- The body that a random source yields, and the source after it. -/
def drawBody (source : σ) : Body × σ :=
  (Draws.body s).run (Draws.feasible_body valid) source

/-- The body with an index among those that a random source yields one after the other. -/
def bodyAt : Nat → σ → Body
  | 0, source => (s.drawBody valid source).1
  | j + 1, source => bodyAt j (s.drawBody valid source).2

theorem bodyAt_congr {s' : GenerationSettings} {valid' : s'.Valid} (same : s' = s) (j : Nat)
    (source : σ) : s'.bodyAt valid' j source = s.bodyAt valid j source := by
  subst same
  rfl

end GenerationSettings

/-- The case has a given body: the tags, and the text with the identifier of the case in it. -/
structure TestCase.HasBody (case : TestCase) (body : Body) (typeCount : Nat) : Prop where
  parameters : case.parameters = body.parameters
  arguments : case.arguments = body.arguments
  source : case.source =
    Source.render case.identifier body.parameters body.arguments typeCount

namespace Iteration

/-- The case of a call has the body that the source of its worker yields. -/
theorem hasBody_case (i : Iteration σ) :
    i.case.HasBody (i.before.settings.generation.drawBody i.before.settings.generation_valid
      (i.before.sources i.turn.worker)).1 i.before.settings.generation.typeCount :=
  ⟨rfl, rfl, rfl⟩

/-- A call draws one body from the source of its worker, and nothing from the others. -/
theorem sources_after (i : Iteration σ) (worker : Nat) :
    i.after.sources worker =
      if worker = i.turn.worker then
        (i.before.settings.generation.drawBody i.before.settings.generation_valid
          (i.before.sources i.turn.worker)).2
      else i.before.sources worker := by
  rw [(Pool.idle_after i).sources]
  rfl

/-- The calls of a worker among calls. -/
def callsBy (worker : Nat) (calls : List (Iteration σ)) : List (Iteration σ) :=
  calls.filter fun i => i.turn.worker = worker

end Iteration

open Iteration

namespace Pool

variable {p q : Pool σ} {calls : List (Iteration σ)}

/-- The calls of a worker get the bodies that its source yields, one each, whatever becomes of their
cases and whatever other workers do in between. -/
theorem Leads.hasBody (leads : Leads calls p q) {worker j : Nat} {i : Iteration σ}
    (nth : (callsBy worker calls)[j]? = some i) :
    i.case.HasBody (p.settings.generation.bodyAt p.settings.generation_valid j (p.sources worker))
      p.settings.generation.typeCount := by
  induction leads generalizing j with
  | nil _ => cases nth
  | @cons next calls p q same rest ih =>
    have settings : next.after.settings = p.settings :=
      (idle_after next).settings.trans same.settings
    have sources := sources_after next worker
    rw [same.settings, same.sources] at sources
    rw [callsBy, List.filter_cons] at nth
    split at nth
    · rename_i own
      have own : next.turn.worker = worker := of_decide_eq_true own
      cases j with
      | zero =>
        cases nth
        have body := hasBody_case i
        rw [same.settings, same.sources, own] at body
        exact body
      | succ j =>
        have later := ih nth
        rw [settings, sources, if_pos own.symm, own] at later
        exact later
    · rename_i other
      have later := ih nth
      have other : worker ≠ next.turn.worker := fun same => other (decide_eq_true same.symm)
      rw [settings, sources, if_neg other] at later
      exact later

variable {settings settings' : RunSettings} {seed : Int} {substitute substitute' : Bool}
  {own own' : Nat → Int} {host host' h h' : Host} {p q p' q' : Pool Twister}
  {moves moves' : List Move}

/-- The calls of a worker in a run from a seed: they get the bodies that the seed yields for the
worker, one each. -/
theorem hasBody_of_seed (seeded : settings.seed = some seed)
    (started : start settings substitute (sourcesFor settings own) host = (.ok p, h))
    (performed : Move.performAll moves p = some q) {worker j : Nat} {i : Iteration Twister}
    (nth : (callsBy worker (callsOf (Move.journalOfAll moves p)))[j]? = some i) :
    i.case.HasBody (settings.generation.bodyAt settings.generation_valid j
      (Twister.seeded (Seed.ofWorker seed worker))) settings.generation.typeCount := by
  have fresh := fresh_of_start started
  have body := (leads_performAll performed).hasBody nth
  rw [fresh.settings, fresh.sources, sourcesFor, seeded] at body
  exact body

/-- The calls of a run that has just been started are numbered from zero on. -/
theorem identifiers_of_start
    (started : start settings substitute (sourcesFor settings own) host = (.ok p, h))
    (performed : Move.performAll moves p = some q) :
    (callsOf (Move.journalOfAll moves p)).map (·.case.identifier) =
      (List.range (callsOf (Move.journalOfAll moves p)).length).map fun n : Nat => (n : Int) := by
  obtain ⟨numbers, _⟩ := (leads_performAll performed).identifiers
  rw [numbers, (fresh_of_start started).counter]
  exact List.map_congr_left fun n _ => Int.zero_add n

/-- Two runs from the same seed, with the same settings for generation and anything else different.

* A call of a worker has the same body as the call with the same index of this worker in the other
  run: the one that the seed yields for the worker and the index. The texts of the two cases are
  that of the body with the one identifier or the other.
* In either run the calls are numbered from zero on. -/
theorem bodies_of_seed (seeded : settings.seed = some seed) (seeded' : settings'.seed = some seed)
    (generation : settings'.generation = settings.generation)
    (started : start settings substitute (sourcesFor settings own) host = (.ok p, h))
    (started' : start settings' substitute' (sourcesFor settings' own') host' = (.ok p', h'))
    (performed : Move.performAll moves p = some q)
    (performed' : Move.performAll moves' p' = some q') :
    (∀ (worker j : Nat) (i i' : Iteration Twister),
      (callsBy worker (callsOf (Move.journalOfAll moves p)))[j]? = some i →
      (callsBy worker (callsOf (Move.journalOfAll moves' p')))[j]? = some i' →
      ∃ body, body = settings.generation.bodyAt settings.generation_valid j
          (Twister.seeded (Seed.ofWorker seed worker)) ∧
        i.case.HasBody body settings.generation.typeCount ∧
        i'.case.HasBody body settings.generation.typeCount) ∧
      (callsOf (Move.journalOfAll moves p)).map (·.case.identifier) =
        (List.range (callsOf (Move.journalOfAll moves p)).length).map (fun n : Nat => (n : Int)) ∧
      (callsOf (Move.journalOfAll moves' p')).map (·.case.identifier) =
        (List.range (callsOf (Move.journalOfAll moves' p')).length).map
          (fun n : Nat => (n : Int)) := by
  refine ⟨fun worker j i i' nth nth' => ?_, identifiers_of_start started performed,
    identifiers_of_start started' performed'⟩
  have one := hasBody_of_seed seeded started performed nth
  have two := hasBody_of_seed seeded' started' performed' nth'
  rw [GenerationSettings.bodyAt_congr _ settings.generation_valid generation, generation] at two
  exact ⟨_, rfl, one, two⟩

/-- Settings with a seed. -/
def withSeed (haltOnCandidate : Bool) : RunSettings :=
  { RunSettings.small (.ofText "/sbx") with seed := some 7, haltOnCandidate := haltOnCandidate }

/-- Two schedules in which the worker 0 is called twice: with a call of the worker 1 in between, and
with the scratch directory taken away in between. -/
def twoSchedules : List Move × List Move :=
  ([.step (.once ⟨0, .exiting 1 1⟩), .step (.once ⟨1, .exiting 101 1⟩),
      .step (.once ⟨0, .exiting 1 1⟩)],
    [.step (.once ⟨0, .exiting 1 101⟩), .disturb fun fs => { fs with entries := [] },
      .step (.once ⟨0, .exiting 1 1⟩)])

/-- The second body of the worker 0 is the same in both schedules, with different numbers. -/
theorem second_bodies_of_two_schedules :
    ∃ p h p' h' i i',
      start (withSeed false) false (sourcesFor (withSeed false) fun _ => 0)
        (small "/sbx" []).host = (.ok p, h) ∧
      start (withSeed true) false (sourcesFor (withSeed true) fun _ => 1)
        (small "/sbx" []).host = (.ok p', h') ∧
      (callsOf (Move.journalOfAll twoSchedules.1 p))[2]? = some i ∧
      (callsOf (Move.journalOfAll twoSchedules.2 p'))[1]? = some i' ∧
      i.case.parameters = i'.case.parameters ∧ i.case.arguments = i'.case.arguments ∧
      i.case.identifier = 2 ∧ i'.case.identifier = 1 := by
  obtain ⟨p, h, started⟩ : ∃ p h, start (withSeed false) false
      (sourcesFor (withSeed false) fun _ => 0) (small "/sbx" []).host = (.ok p, h) := ⟨_, _, rfl⟩
  obtain ⟨p', h', started'⟩ : ∃ p h, start (withSeed true) false
      (sourcesFor (withSeed true) fun _ => 1) (small "/sbx" []).host = (.ok p, h) := ⟨_, _, rfl⟩
  obtain ⟨q, performed⟩ : ∃ q, Move.performAll twoSchedules.1 p = some q := ⟨_, rfl⟩
  obtain ⟨q', performed'⟩ : ∃ q, Move.performAll twoSchedules.2 p' = some q := ⟨_, rfl⟩
  have seeded (halts : Bool) : (withSeed halts).seed = some 7 := rfl
  have generation : (withSeed true).generation = (withSeed false).generation := rfl
  obtain ⟨bodies, numbers, numbers'⟩ := bodies_of_seed (seeded false) (seeded true) generation
    started started' performed performed'
  -- The third call of the one run and the second of the other one are the second ones of worker 0.
  obtain ⟨i, third⟩ : ∃ i, (callsOf (Move.journalOfAll twoSchedules.1 p))[2]? = some i := ⟨_, rfl⟩
  obtain ⟨i', second⟩ : ∃ i, (callsOf (Move.journalOfAll twoSchedules.2 p'))[1]? = some i :=
    ⟨_, rfl⟩
  obtain ⟨body, _, one, two⟩ := bodies 0 1 i i' third second
  have number : some i.case.identifier = some 2 := by
    have listed := congrArg (·[2]?) numbers
    simp only [List.getElem?_map, third] at listed
    exact listed
  have number' : some i'.case.identifier = some 1 := by
    have listed := congrArg (·[1]?) numbers'
    simp only [List.getElem?_map, second] at listed
    exact listed
  exact ⟨p, h, p', h', i, i', started, started', third, second,
    one.parameters.trans two.parameters.symm, one.arguments.trans two.arguments.symm,
    Option.some.inj number, Option.some.inj number'⟩

end Pool

end CrashDiff
