import CrashDiff.Proofs.Files.Path
import CrashDiff.Proofs.Run.Ending

/-!
# Schedules

What holds of all calls of a schedule: their cases are numbered one after the other, whatever
worker makes them, so no two of them have a file in common.

Results:
1. `identifiers_iterations`, `nodup_paths`: the cases are numbered, and their paths are distinct.
2. `confined_play`: a schedule touches the files of its cases, the event log and the transcript.
3. `lookup_own`: the file of a case is touched by its own call only.
-/

namespace CrashDiff

open FileSystem

namespace Pool

variable {σ : Type}

/-! ## The counter -/

theorem counter_runVariant (children : Children) (case : TestCase) (v : Variant) (p : Pool σ) :
    (p.runVariant children case v).2.counter = p.counter := by
  have launched : (p.launch case v (children case v)).2.counter = p.counter := by
    unfold launch
    dsimp only
    split <;> split <;> rfl
  rcases runVariant_snd children case v p with same | ⟨m, logged⟩
  · rw [same, launched]
  · rw [logged]
    exact launched

theorem counter_recordEvents (events : List Event) (p : Pool σ) :
    (p.recordEvents events).2.counter = p.counter :=
  recordEvents_induction (motive := fun q => q.counter = p.counter) events rfl fun _ _ same => same

variable [DrawSource σ] {children : Children} {worker : Nat} {p : Pool σ} {l : Location}

theorem counter_executed (children : Children) (worker : Nat) (p : Pool σ) :
    (p.executed children worker).counter = p.counter.next.2 := by
  have staged : (p.staged worker).counter = p.counter.next.2 := rfl
  unfold executed
  refine (execute_induction (motive := fun q => q.counter = p.counter.next.2) staged ?_).2
  exact fun v q same => (counter_runVariant children _ v q).trans same

/-- Every call takes the next identifier, whatever comes of it. -/
theorem counter_runOnce (children : Children) (worker : Nat) (p : Pool σ) :
    (p.runOnce children worker).2.counter = p.counter.next.2 := by
  have executed := counter_executed children worker p
  obtain ⟨answer, q, outcome, ends⟩ := exists_ends children worker p
  rw [outcome]
  cases ends with
  | unstaged _ => rfl
  | unrun _ => exact executed
  | undeleted _ _ _ => exact executed
  | discarded _ _ _ => exact executed
  | unrecorded _ _ _ => exact (counter_recordEvents _ _).trans executed
  | reported _ _ _ => exact (counter_recordEvents _ _).trans executed
  | halted _ _ _ => exact (counter_recordEvents _ _).trans executed

/-- The cases of a schedule are numbered from the counter of the pool on. -/
theorem identifiers_iterations (turns : List Turn) (p : Pool σ) :
    (iterations turns p).map (·.case.identifier) =
      (List.range turns.length).map fun n : Nat => p.counter.value + n := by
  induction turns generalizing p with
  | nil => rfl
  | cons t turns ih =>
    rw [iterations, List.map_cons, ih, counter_runOnce, List.length_cons, List.range_succ_eq_map]
    simp only [List.map_cons, List.map_map, Iteration.case, caseOf_identifier, Counter.next]
    refine List.cons_eq_cons.mpr ⟨by simp, List.map_congr_left fun n _ => ?_⟩
    simp only [Function.comp_apply]
    omega

/-! ## Footprints of schedules -/

/-- What a schedule may touch. -/
def TouchedBy (turns : List Turn) (p : Pool σ) (l : Location) : Prop :=
  (∃ i ∈ iterations turns p, p.host.files.IsPlace i.case.path l) ∨ p.host.LogsAt l ∨
    p.RecordsAt l

/-- A schedule touches the files of its cases, the transcript and the event log. -/
theorem confined_play (turns : List Turn) (sound : p.Sound) :
    Confined (p.TouchedBy turns) p (play turns p) := by
  induction turns generalizing p with
  | nil => exact .refl _ p
  | cons t turns ih =>
    have first := confined_runOnce t.children t.worker sound
    have rest := ih (first.sound sound)
    have wider : Confined (p.TouchedBy (t :: turns)) p (p.runOnce t.children t.worker).2 := by
      refine first.mono ?_
      rintro l ((place | logs) | records)
      · exact Or.inl ⟨_, List.mem_cons_self, place⟩
      · exact Or.inr (Or.inl logs)
      · exact Or.inr (Or.inr records)
    refine wider.trans (rest.mono ?_)
    rintro l (⟨i, member, place⟩ | logs | records)
    · exact Or.inl ⟨i, List.mem_cons_of_mem _ member, first.isPlace_iff.mp place⟩
    · exact Or.inr (Or.inl (first.transcript l logs))
    · exact Or.inr (Or.inr (first.recordsAt_iff.mp records))

/-- A call of a schedule is made in the pool that the turns before it leave. -/
theorem exists_split_of_mem {turns : List Turn} {i : Iteration σ}
    (member : i ∈ iterations turns p) :
    ∃ earlier later, turns = earlier ++ i.turn :: later ∧ i.before = play earlier p := by
  induction turns generalizing p with
  | nil => cases member
  | cons t turns ih =>
    rcases List.mem_cons.mp member with rfl | inRest
    · exact ⟨[], turns, rfl, rfl⟩
    · obtain ⟨earlier, later, rfl, before⟩ := ih inRest
      exact ⟨t :: earlier, later, rfl, before⟩

theorem confined_before {turns : List Turn} {i : Iteration σ} (sound : p.Sound)
    (member : i ∈ iterations turns p) : Confined (fun _ => True) p i.before := by
  obtain ⟨earlier, later, _, before⟩ := exists_split_of_mem member
  rw [before]
  exact (confined_play earlier sound).mono fun _ _ => trivial

theorem identifier_of_mem {turns : List Turn} {i : Iteration σ}
    (member : i ∈ iterations turns p) : ∃ n : Nat, i.case.identifier = p.counter.value + n := by
  have inList : i.case.identifier ∈ (iterations turns p).map (·.case.identifier) :=
    List.mem_map_of_mem member
  rw [identifiers_iterations] at inList
  obtain ⟨n, _, same⟩ := List.mem_map.mp inList
  exact ⟨n, same.symm⟩

/-- The path of a case lies in the scratch directory and is named after its number. -/
theorem path_of_mem {turns : List Turn} {i : Iteration σ} (sound : p.Sound)
    (member : i ∈ iterations turns p) : i.case.path =
      p.settings.execution.scratchDir.child (Source.fileName i.case.identifier) := by
  rw [← (confined_before sound member).settings]
  rfl

theorem nodup_paths (turns : List Turn) (sound : p.Sound) :
    ((iterations turns p).map (·.case.path)).Nodup := by
  have paths : (iterations turns p).map (·.case.path) =
      ((iterations turns p).map (·.case.identifier)).map fun n =>
        p.settings.execution.scratchDir.child (Source.fileName n) := by
    rw [List.map_map]
    exact List.map_congr_left fun i member => path_of_mem sound member
  rw [paths, identifiers_iterations, List.map_map]
  refine List.Pairwise.map _ (fun m n different same => different ?_) List.nodup_range
  have names := List.append_cancel_left (congrArg Path.names same)
  have numbers : p.counter.value + m = p.counter.value + n :=
    Source.fileName_injective (List.cons.inj names).1
  omega

/-! ## What logs add -/

/-- A call adds to the files that it touches besides those of its case and of the transcript. -/
theorem extends_runOnce (children : Children) (sound : p.Sound) (other : ¬ p.Touches worker l) :
    Extends l p (p.runOnce children worker).2 := by
  have notOwn : ¬ p.host.files.IsPlace (p.caseOf worker).path l := fun place =>
    other (Or.inl place)
  have silent {q : Pool σ} (before : Confined (fun _ => True) p q) (n : Notice) :
      Extends l q (q.notify n) :=
    (confined_notify n (before.sound sound)).extends fun logs =>
      other (Or.inr (before.transcript l logs))
  have recorded (result : DualResult) : Extends l p (p.recorded children worker result).2 :=
    ((confined_counted children worker result p).extends notOwn).trans
      (extends_recordEvents _ l _)
  obtain ⟨answer, q, outcome, ends⟩ := exists_ends children worker p
  rw [outcome]
  clear outcome
  induction ends with
  | unstaged _ => exact (confined_staged worker p).extends notOwn
  | unrun _ => exact (confined_executed children worker p).extends notOwn
  | undeleted _ _ _ => exact (confined_discarded children worker _ p).extends notOwn
  | @discarded result _ _ _ =>
    have removed := confined_discarded children worker result p
    exact (removed.extends notOwn).trans (silent (removed.mono fun _ _ => trivial) _)
  | unrecorded _ _ _ => exact recorded _
  | @reported result _ _ _ =>
    have noted := confined_recorded children worker result p
    exact (recorded _).trans (silent (noted.mono fun _ _ => trivial) _)
  | @halted result _ _ _ =>
    have noted := confined_recorded children worker result p
    exact (recorded _).trans (silent (noted.mono fun _ _ => trivial) _)

/-- A schedule adds to the files that it touches besides those of its cases and of the
transcript. -/
theorem extends_play (turns : List Turn) (sound : p.Sound)
    (notOwn : ∀ i ∈ iterations turns p, ¬ p.host.files.IsPlace i.case.path l)
    (noTranscript : ¬ p.host.LogsAt l) : Extends l p (play turns p) := by
  induction turns generalizing p with
  | nil => exact .of_lookup_eq rfl
  | cons t turns ih =>
    have first := confined_runOnce t.children t.worker sound
    have own : ¬ p.Touches t.worker l := by
      rintro (place | logs)
      · exact notOwn _ List.mem_cons_self place
      · exact noTranscript logs
    refine (extends_runOnce t.children sound own).trans ?_
    refine ih (first.sound sound) (fun i member place => ?_) fun logs => ?_
    · exact notOwn i (List.mem_cons_of_mem _ member) (first.isPlace_iff.mp place)
    · exact noTranscript (first.transcript l logs)

/-! ## The file of a case -/

/-- Two calls of a schedule with their files at the same place are the same call. -/
theorem path_eq_of_isPlace {turns : List Turn} {i j : Iteration σ} (sound : p.Sound)
    (one : i ∈ iterations turns p) (two : j ∈ iterations turns p)
    (place : p.host.files.IsPlace i.case.path l) (place' : p.host.files.IsPlace j.case.path l) :
    i.case.path = j.case.path := by
  rw [path_of_mem sound one] at place ⊢
  rw [path_of_mem sound two] at place' ⊢
  rw [place.child_injective place']

/-- Before its call the place of a case is as it was at the start of the schedule, and after its
call it stays as it is. -/
theorem lookup_own {turns : List Turn} {i : Iteration σ} (sound : p.Sound)
    (member : i ∈ iterations turns p) (place : p.host.files.IsPlace i.case.path l)
    (noTranscript : ¬ p.host.LogsAt l) (noLog : ¬ p.RecordsAt l) :
    i.before.host.files.lookup l = p.host.files.lookup l ∧
      (play turns p).host.files.lookup l = i.after.host.files.lookup l := by
  obtain ⟨earlier, later, split, before⟩ := exists_split_of_mem member
  have calls : iterations turns p = iterations earlier p ++ i :: iterations later i.after := by
    rw [split, iterations_append, iterations, ← before]
    rfl
  -- The calls before and after this one have other paths, so their files are at other places.
  have distinct := nodup_paths turns sound
  rw [calls, List.map_append, List.map_cons, List.nodup_append] at distinct
  obtain ⟨_, ownAndLater, apart⟩ := distinct
  have first := confined_play earlier sound
  rw [← before] at first
  have own := confined_runOnce i.turn.children i.turn.worker (first.sound sound)
  have next : Confined (fun _ => True) p i.after :=
    (first.mono fun _ _ => trivial).trans (own.mono fun _ _ => trivial)
  have last := confined_play later (next.sound sound)
  constructor
  · refine first.elsewhere l ?_
    rintro (⟨j, earlierCall, place'⟩ | logs | records)
    · have same := path_eq_of_isPlace sound (calls ▸ List.mem_append_left _ earlierCall) member
        place' place
      exact apart _ (List.mem_map_of_mem earlierCall) _ List.mem_cons_self same
    · exact noTranscript logs
    · exact noLog records
  · have ends : play turns p = play later i.after := by
      rw [split, play_append, play, ← before]
      rfl
    rw [ends]
    refine last.elsewhere l ?_
    rintro (⟨j, laterCall, place'⟩ | logs | records)
    · have inAll : j ∈ iterations turns p :=
        calls ▸ List.mem_append_right _ (List.mem_cons_of_mem _ laterCall)
      have same := path_eq_of_isPlace sound inAll member (next.isPlace_iff.mp place') place
      refine (List.nodup_cons.mp ownAndLater).1 ?_
      rw [← same]
      exact List.mem_map_of_mem laterCall
    · exact noTranscript (next.transcript l logs)
    · exact noLog (next.recordsAt_iff.mp records)

end Pool

end CrashDiff
