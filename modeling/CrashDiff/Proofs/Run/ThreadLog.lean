import CrashDiff.Proofs.Run.Threads
import Mathlib.Data.List.Induction

/-!
# The log of threads

What the threads of a session do to the log, in whatever order they move. Up to its closing the
file of the log mirrors the output stream. From then on it stays as it is, and the output stream
gets nothing more than pieces of traces of workers that had not come to their end by then.

Results:
1. `Thread.fair_move`: what comes of a move of a worker.
2. `Invariant.worker`, `Invariant.main`, `Invariant.interrupt`: each move keeps up the invariant.
3. `invariant_run`: so does every schedule.
-/

namespace CrashDiff

variable {σ α β : Type} {l : Location} {base : String}

/-! ## What moves say -/

namespace Saying

@[simp] theorem shownOf_nil : shownOf [] = "" := rfl

@[simp] theorem shownOf_singleton (x : Saying) : shownOf [x] = x.shown := by
  simp [shownOf]

@[simp] theorem shownOf_append (said more : List Saying) :
    shownOf (said ++ more) = shownOf said ++ shownOf more := by
  simp [shownOf, String.join_append]

end Saying

namespace Pool

variable {p q r : Pool σ} {said more : List Saying}

/-- A thread leads from the first pool to the second one, and the output stream gets what is said.
The file at a location that is not reserved stays what it is to the output stream. -/
structure Speaks (l : Location) (base : String) (said : List Saying) (p q : Pool σ) : Prop where
  later : Later p q
  stands : ¬ q.Reserves l → ∀ text?, p.host.Stands l base text? → q.host.Stands l base text?
  out : q.host.out = p.host.out ++ Saying.shownOf said
  shared : q.host.shared = p.host.shared

theorem Quiet.speaks (quiet : Quiet l base p q) : Speaks l base [] p q :=
  ⟨quiet.later, quiet.stands, quiet.out.trans String.append_empty.symm, quiet.shared⟩

theorem speaks_notify (n : Notice) (sound : p.Sound) :
    Speaks l base [.progress (p.progress.written n)] p (p.notify n) where
  later := later_notify n sound
  stands _ _ stands := stands_notify n stands
  out := by
    rw [out_notify, Saying.shownOf_singleton]
    rfl
  shared := shared_notify n p

theorem speaks_writeErr (text : String) (sound : p.Sound) :
    Speaks l base [.spoken p.host.transcript.isSome text] p
      { p with host := p.host.writeErr text } where
  later := ⟨(confined_writeErr text sound).mono fun _ _ => trivial, Int.le_refl _, id⟩
  stands _ _ stands := stands.writeErr text
  out := by
    rw [Saying.shownOf_singleton]
    exact Host.out_writeErr text p.host
  shared := Host.shared_writeErr text p.host

theorem speaks_writeTo (worker : Nat) (shared : Bool) (text : String) (sound : p.Sound) :
    Speaks l base [.traced worker shared text] p
      { p with host := p.host.writeTo shared text } := by
  have out : (p.host.writeTo shared text).out = p.host.out ++ if shared then text else "" := by
    unfold Host.writeTo
    cases shared with
    | true => exact Host.out_writeOut text p.host
    | false => exact String.append_empty.symm
  have kept : (p.host.writeTo shared text).shared = p.host.shared := by
    unfold Host.writeTo
    cases shared with
    | true => exact Host.shared_writeOut text p.host
    | false => rfl
  have confined : Confined (fun _ => True) p { p with host := p.host.writeTo shared text } := by
    have past : Confined (fun _ => True) p { p with host := p.host.writeConsoleErr text } :=
      .of_eq rfl rfl rfl rfl rfl
    cases shared with
    | false => exact past
    | true =>
      -- With a transcript the standard error stream goes the same way.
      have written := (confined_writeErr text sound).mono fun _ _ => trivial
      unfold Host.writeErr at written
      split at written
      · rename_i none
        exact .of_eq rfl rfl rfl (by simp [Host.writeTo, Host.writeOut, none])
          (by simp [Host.writeTo, Host.writeOut, none])
      · exact written
  exact ⟨⟨confined, Int.le_refl _, id⟩, fun _ _ stands => stands.writeTo shared text,
    by rw [Saying.shownOf_singleton]; exact out, kept⟩

end Pool

/-! ## Workers -/

/-- The next thing that code does says nothing but what the progress stream gets, and nothing if
that is closed. -/
theorem Code.speaks_move {c : Code σ α} {p : Pool σ} (keeps : c.Keeps l base p) (sound : p.Sound) :
    Pool.Speaks l base (c.move p).2.2 p (c.move p).2.1 ∧
      (c.move p).1.Keeps l base (c.move p).2.1 ∧
      ∀ x ∈ (c.move p).2.2, ∃ text, x = .progress text ∧
        (p.progress.closed = true → text = "") := by
  cases c with
  | done result => exact ⟨(Pool.Quiet.refl p).speaks, trivial, fun x member => by cases member⟩
  | act effect next =>
    obtain ⟨quiet, rest⟩ := keeps p (.refl p)
    exact ⟨quiet.speaks, rest, fun x member => by cases member⟩
  | tell n next =>
    refine ⟨Pool.speaks_notify n sound, keeps p (.refl p) sound, fun x member => ?_⟩
    rw [List.mem_singleton.mp member]
    exact ⟨_, rfl, fun closed => if_pos closed⟩

namespace Thread

/-- The code of a worker is kept up. A stream is shared with the console output stream only if
there is a log. -/
def Keeps (l : Location) (base : String) (p : Pool σ) : Thread σ → Prop
  | .calling rest => rest.Keeps l base p
  | .failing _ rest => rest.Keeps l base p
  | .tracing shared _ _ => shared = true → p.settings.logFile.isSome = true
  | .looking | .answering _ | .finished => True

variable {p q : Pool σ} {t : Thread σ}

theorem Keeps.later (keeps : t.Keeps l base p) (later : Pool.Later p q) : t.Keeps l base q := by
  cases t with
  | calling rest => exact Code.Keeps.later keeps later
  | failing f rest => exact Code.Keeps.later keeps later
  | tracing shared texts f =>
    intro given
    rw [later.confined.settings]
    exact keeps given
  | looking => trivial
  | answering flow => trivial
  | finished => trivial

/-- What a worker may say: something on the progress stream, unless that is closed, or a piece of a
trace. -/
def MaySay (worker : Nat) (p : Pool σ) (x : Saying) : Prop :=
  (∃ text, x = .progress text ∧ (p.progress.closed = true → text = "")) ∨
    ∃ shared text, x = .traced worker shared text ∧
      (shared = true → p.settings.logFile.isSome = true)

/-- `Fair l base worker p t m`: what comes of a move of a worker. A worker whose thread has ended
says nothing any more. -/
structure Fair (l : Location) (base : String) (worker : Nat) (p : Pool σ) (t : Thread σ)
    (m : Moved σ) : Prop where
  speaks : Pool.Speaks l base m.said p m.pool
  keeps : m.thread.Keeps l base m.pool
  said : ∀ x ∈ m.said, MaySay worker p x
  ended : t = .finished → m.thread = .finished ∧ m.said = []

theorem fair_of_code {c : Code σ α} {worker : Nat} (wrap : Code σ α → Thread σ)
    (lives : t ≠ .finished) (keeps : c.Keeps l base p) (sound : p.Sound)
    (wraps : ∀ (c : Code σ α) (q : Pool σ), c.Keeps l base q → (wrap c).Keeps l base q) :
    Fair l base worker p t
      { thread := wrap (c.move p).1, pool := (c.move p).2.1, said := (c.move p).2.2 } := by
  obtain ⟨speaks, rest, said⟩ := Code.speaks_move keeps sound
  exact ⟨speaks, wraps _ _ rest, fun x member => Or.inl (said x member),
    fun ended => absurd ended lives⟩

/-- A move that leaves the pool alone. -/
theorem fair_of_still {worker : Nat} {next : Thread σ} {result : Option Flow}
    (keeps : next.Keeps l base p) (ended : t = .finished → next = .finished) :
    Fair l base worker p t { thread := next, pool := p, result := result } :=
  ⟨(Pool.Quiet.refl p).speaks, keeps, fun _ member => absurd member List.not_mem_nil,
    fun here => ⟨ended here, rfl⟩⟩

/-- Each move of a worker is fair. -/
theorem fair_move [DrawSource σ] {worker : Nat} (children : Children) (sound : p.Sound)
    (positive : 0 ≤ p.counter.value)
    (shared : p.host.shared = true → p.settings.logFile.isSome = true)
    (keeps : t.Keeps l base p) : Fair l base worker p t (t.move children worker p) := by
  have begins (texts : List String) (f : Option Failure) (lives : t ≠ .finished) :
      Fair l base worker p t (begin p texts f) :=
    fair_of_still shared fun ended => absurd ended lives
  cases t with
  | looking =>
    rw [move]
    split
    · exact fair_of_still trivial fun ended => by cases ended
    · exact fair_of_still (Code.keeps_runOnce positive _ _ _) fun ended => by cases ended
  | calling rest =>
    cases rest with
    | done answer =>
      cases answer with
      | ok flow =>
        rw [move]
        split
        · exact fair_of_still trivial fun ended => by cases ended
        · exact fair_of_still trivial fun ended => by cases ended
      | error f =>
        rw [move]
        split
        · exact begins _ _ (by simp)
        · exact fair_of_still (Code.keeps_giveUp _ _ p) fun ended => by cases ended
    | act effect next =>
      exact fair_of_code .calling (by simp) keeps sound fun _ _ keeps => keeps
    | tell n next =>
      exact fair_of_code .calling (by simp) keeps sound fun _ _ keeps => keeps
  | failing f rest =>
    cases rest with
    | done answer =>
      cases answer with
      | ok u => exact begins _ _ (by simp)
      | error f => exact begins _ _ (by simp)
    | act effect next =>
      exact fair_of_code (.failing f) (by simp) keeps sound fun _ _ keeps => keeps
    | tell n next =>
      exact fair_of_code (.failing f) (by simp) keeps sound fun _ _ keeps => keeps
  | tracing through texts f =>
    cases texts with
    | cons text texts =>
      refine ⟨Pool.speaks_writeTo worker through text sound, keeps, fun x member => ?_,
        fun ended => by cases ended⟩
      rw [List.mem_singleton.mp member]
      exact Or.inr ⟨through, text, rfl, keeps⟩
    | nil =>
      cases f with
      | none => exact fair_of_still trivial fun ended => by cases ended
      | some f =>
        exact ⟨(Pool.quiet_halt p).speaks, trivial, fun _ member => absurd member List.not_mem_nil,
          fun ended => by cases ended⟩
  | answering flow => exact fair_of_still trivial fun ended => by cases ended
  | finished => exact fair_of_still trivial fun _ => rfl

end Thread

/-! ## All threads -/

namespace MainThread

/-- The transcript has not been closed yet. -/
def isOpen : MainThread → Bool
  | .watching _ | .halting .. | .silencing .. | .telling .. | .summing .. | .printing .. => true
  | .restoring .. | .parting .. | .ended .. => false

/-- The progress stream has been closed. -/
def isSilent : MainThread → Bool
  | .watching _ | .halting .. | .silencing .. => false
  | .telling .. | .summing .. | .printing .. | .restoring .. | .parting .. | .ended .. => true

/-- How the streams are set up. The transcript that has been closed is kept for the result. -/
def Streams (logged shared : Bool) : MainThread → Prop
  | .watching _ | .halting .. | .silencing .. | .telling .. | .summing .. | .printing .. =>
    shared = logged
  | .restoring _ log _ => logged = true ∧ ∃ t, log = some t ∧ t.closed = true
  | .parting _ log _ => logged = true ∧ shared = false ∧ ∃ t, log = some t ∧ t.closed = true
  | .ended (.status _) log => shared = false ∧
    if logged then ∃ t, log = some t ∧ t.closed = true else log = none
  | .ended _ _ => True

end MainThread

namespace Threads

variable {s s' start : Threads σ} {input : SessionInput} {schedule : List Mover}

/-- The worker has not come to its end. -/
def Lives (k : Nat) (s : Threads σ) : Prop :=
  ∃ t : Thread σ, s.workers[k]? = some t ∧ t ≠ .finished

/-- No worker of the second state is new, and none has begun again. -/
def Ages (s s' : Threads σ) : Prop :=
  ∀ k, Lives k s' → Lives k s

/-- What holds of the threads whatever they do. -/
structure Kept (l : Location) (base : String) (s : Threads σ) : Prop where
  sound : s.pool.Sound
  positive : 0 ≤ s.pool.counter.value
  shared : s.pool.host.shared = true → s.pool.settings.logFile.isSome = true
  workers : ∀ t ∈ s.workers, t.Keeps l base s.pool

/-- The log was closed by the main thread in the state `m`, and the file of the log has stayed as it
was. After that, nothing has reached the output stream but pieces of traces of workers that had not
come to their end. -/
structure ClosedIn (l : Location) (base : String) (m : Threads σ) (later : List Saying)
    (s : Threads σ) : Prop where
  closing : ∃ c log path, m.main = .restoring c log path
  said : s.said = m.said ++ later
  out : s.pool.host.out = m.pool.host.out ++ Saying.shownOf later
  settled : ¬ s.pool.Reserves l → ∃ told, m.pool.host.out = base ++ told ∧
    s.pool.host.Settled l told
  ages : Ages m s
  late : ∀ x ∈ later, x.shown ≠ "" → ∃ k text, x = .traced k true text ∧ Lives k m

/-- What holds of the threads after a schedule. -/
structure Invariant (l : Location) (base : String) (input : SessionInput) (start : Threads σ)
    [DrawSource σ] (schedule : List Mover) (s : Threads σ) : Prop where
  kept : Kept l base s
  later : Pool.Later start.pool s.pool
  out : s.pool.host.out = start.pool.host.out ++ Saying.shownOf s.said
  plain : s.pool.settings.logFile = none → ∀ x ∈ s.said, x.shown = x.onProgress
  streams : s.main.Streams s.pool.settings.logFile.isSome s.pool.host.shared
  silent : s.main.isSilent = true → s.pool.progress.closed = true
  mirrors : s.main.isOpen = true → s.pool.settings.logFile.isSome = true → ¬ s.pool.Reserves l →
    s.pool.host.Mirrors l base
  closed : s.main.isOpen = false → s.pool.settings.logFile.isSome = true →
    (∀ f log, s.main ≠ .ended (.raised f) log) →
    ∃ early rest later, schedule = early ++ rest ∧
      ClosedIn l base (start.run input early) later s

theorem lives_set {k j : Nat} {t : Thread σ}
    (lives : Lives j { s with workers := s.workers.set k t })
    (ended : s.workers[k]? = some .finished → t = .finished) : Lives j s := by
  obtain ⟨t', here, lively⟩ := lives
  rw [List.getElem?_set] at here
  split at here
  · rename_i same
    subst same
    split at here
    · cases here
      rename_i below
      exact ⟨s.workers[k], List.getElem?_eq_getElem below, fun finished =>
        lively (ended (by rw [List.getElem?_eq_getElem below, finished]))⟩
    · cases here
  · exact ⟨t', here, lively⟩

theorem Kept.of_later {p : Pool σ} (kept : Kept l base s) (later : Pool.Later s.pool p)
    (shared : p.host.shared = true → s.pool.settings.logFile.isSome = true)
    (workers : s'.workers = s.workers) (pool : s'.pool = p) : Kept l base s' := by
  subst pool
  exact ⟨later.confined.sound kept.sound, Int.le_trans kept.positive later.drawn,
    later.confined.settings ▸ shared,
    fun t member => (kept.workers t (workers ▸ member)).later later⟩

variable [DrawSource σ]

theorem run_append (input : SessionInput) (schedule more : List Mover) (s : Threads σ) :
    s.run input (schedule ++ more) = (s.run input schedule).run input more :=
  List.foldl_append

/-- What holds after a schedule holds behind moves that say something. -/
theorem Invariant.of_speaks {said : List Saying} {m : Mover}
    (before : Invariant l base input start schedule s)
    (speaks : Pool.Speaks l base said s.pool s'.pool) (told : s'.said = s.said ++ said)
    (workers : ∀ t ∈ s'.workers, t.Keeps l base s'.pool)
    (ages : Ages s s')
    (plain : s.pool.settings.logFile = none → ∀ x ∈ said, x.shown = x.onProgress)
    (late : s.main.isOpen = false → ∀ x ∈ said, x.shown ≠ "" →
      ∃ k text, x = .traced k true text ∧ Lives k s)
    (streams : s'.main.Streams s.pool.settings.logFile.isSome s.pool.host.shared)
    (silent : s'.main.isSilent = true → s'.pool.progress.closed = true)
    (opened : s'.main.isOpen = true → s.main.isOpen = true)
    (closed : s'.main.isOpen = false → s'.pool.settings.logFile.isSome = true →
      (∀ f log, s'.main ≠ .ended (.raised f) log) →
      s.main.isOpen = false ∧ ∀ f log, s.main ≠ .ended (.raised f) log) :
    Invariant l base input start (schedule ++ [m]) s' := by
  have settings := speaks.later.confined.settings
  refine ⟨⟨?_, ?_, ?_, workers⟩, before.later.trans speaks.later, ?_, ?_, ?_, silent, ?_, ?_⟩
  · exact speaks.later.confined.sound before.kept.sound
  · exact Int.le_trans before.kept.positive speaks.later.drawn
  · rw [speaks.shared, settings]
    exact before.kept.shared
  · rw [speaks.out, before.out, told, Saying.shownOf_append, String.append_assoc]
  · intro none x member
    rw [settings] at none
    rw [told] at member
    rcases List.mem_append.mp member with old | new
    · exact before.plain none x old
    · exact plain none x new
  · rw [settings, speaks.shared]
    exact streams
  · intro isOpen logged free
    rw [settings] at logged
    exact speaks.stands free none (before.mirrors (opened isOpen) logged fun reserved =>
      free (speaks.later.reserves reserved))
  · intro isClosed logged notRaised
    obtain ⟨isClosed', notRaised'⟩ := closed isClosed logged notRaised
    rw [settings] at logged
    obtain ⟨early, rest, later, rfl, closedIn⟩ := before.closed isClosed' logged notRaised'
    refine ⟨early, rest ++ [m], later ++ said, (List.append_assoc ..), closedIn.closing, ?_, ?_, ?_,
      ?_, ?_⟩
    · rw [told, closedIn.said, List.append_assoc]
    · rw [speaks.out, closedIn.out, Saying.shownOf_append, String.append_assoc]
    · intro free
      obtain ⟨text, out, settled⟩ := closedIn.settled fun reserved =>
        free (speaks.later.reserves reserved)
      exact ⟨text, out, speaks.stands free (some text) settled⟩
    · exact fun k lives => closedIn.ages k (ages k lives)
    · intro x member seen
      rcases List.mem_append.mp member with old | new
      · exact closedIn.late x old seen
      · obtain ⟨k, text, rfl, lives⟩ := late isClosed' x new seen
        exact ⟨k, text, rfl, closedIn.ages k lives⟩

theorem Invariant.of_still (before : Invariant l base input start schedule s) (m : Mover) :
    Invariant l base input start (schedule ++ [m]) s := by
  refine { before with closed := fun isClosed logged notRaised => ?_ }
  obtain ⟨early, rest, later, rfl, closedIn⟩ := before.closed isClosed logged notRaised
  exact ⟨early, rest ++ [m], later, List.append_assoc .., closedIn⟩

theorem move_worker {k : Nat} {t : Thread σ} (found : s.workers[k]? = some t) :
    s.move input (.worker k) =
      { s with
        pool := (t.move input.children k s.pool).pool
        workers := s.workers.set k (t.move input.children k s.pool).thread
        results := s.results ++ (t.move input.children k s.pool).result.toList
        said := s.said ++ (t.move input.children k s.pool).said } := by
  simp only [move, found]

theorem move_no_worker {k : Nat} (missing : s.workers[k]? = none) :
    s.move input (.worker k) = s := by
  simp only [move, missing]

/-- A move of a worker keeps up the invariant. -/
theorem Invariant.worker (before : Invariant l base input start schedule s) (k : Nat) :
    Invariant l base input start (schedule ++ [.worker k]) (s.move input (.worker k)) := by
  have silent (isClosed : s.main.isOpen = false) : s.pool.progress.closed = true := by
    refine before.silent ?_
    cases main : s.main <;> rw [main] at isClosed <;> first | rfl | cases isClosed
  cases found : s.workers[k]? with
  | none =>
    rw [move_no_worker found]
    exact before.of_still _
  | some t =>
    rw [move_worker found]
    have member : t ∈ s.workers := List.mem_of_getElem? found
    have fair : Thread.Fair l base k s.pool t _ := Thread.fair_move input.children
      before.kept.sound before.kept.positive before.kept.shared (before.kept.workers t member)
    refine before.of_speaks fair.speaks rfl ?_ ?_ ?_ ?_ ?_ ?_ id ?_
    · intro t' member'
      rcases List.mem_or_eq_of_mem_set member' with old | rfl
      · exact (before.kept.workers t' old).later fair.speaks.later
      · exact fair.keeps
    · intro j lives
      refine lives_set (s := s) lives fun ended => (fair.ended ?_).1
      rw [found] at ended
      exact Option.some.inj ended
    · intro none x said
      rcases fair.said x said with ⟨text, rfl, _⟩ | ⟨shared, text, rfl, logged⟩
      · rfl
      · cases shared with
        | false => rfl
        | true => exact absurd (logged rfl) (by simp [none])
    · intro isClosed x said seen
      rcases fair.said x said with ⟨text, rfl, empty⟩ | ⟨shared, text, rfl, _⟩
      · exact absurd (empty (silent isClosed)) seen
      · cases shared with
        | false => exact absurd rfl seen
        | true =>
          refine ⟨k, text, rfl, t, found, ?_⟩
          rintro rfl
          rw [(fair.ended rfl).2] at said
          cases said
    · exact before.streams
    · exact fun isSilent => fair.speaks.later.closed (before.silent isSilent)
    · exact fun isClosed _ notRaised => ⟨isClosed, notRaised⟩

/-- A move of the main thread that says something, while the streams stay as they are. -/
theorem Invariant.of_main {said : List Saying} {p : Pool σ} {m : Mover} {results : List Flow}
    {next : MainThread} (before : Invariant l base input start schedule s)
    (speaks : Pool.Speaks l base said s.pool p)
    (spoken : ∀ x ∈ said, ∃ text, x = .spoken s.pool.host.shared text)
    (past : s.main.isOpen = false → said ≠ [] → s.pool.host.shared = false)
    (streams : next.Streams s.pool.settings.logFile.isSome s.pool.host.shared)
    (silent : next.isSilent = true → p.progress.closed = true)
    (opened : next.isOpen = true → s.main.isOpen = true)
    (closed : next.isOpen = false → s.pool.settings.logFile.isSome = true →
      (∀ f log, next ≠ .ended (.raised f) log) →
      s.main.isOpen = false ∧ ∀ f log, s.main ≠ .ended (.raised f) log) :
    Invariant l base input start (schedule ++ [m])
      { s with pool := p, results := results, main := next, said := s.said ++ said } := by
  refine before.of_speaks speaks rfl
    (fun t member => (before.kept.workers t member).later speaks.later) (fun _ lives => lives)
    ?_ ?_ streams silent opened ?_
  · intro none x member
    obtain ⟨text, rfl⟩ := spoken x member
    cases shared : s.pool.host.shared with
    | false => rfl
    | true => exact absurd (before.kept.shared shared) (by simp [none])
  · intro isClosed x member seen
    obtain ⟨text, rfl⟩ := spoken x member
    rw [past isClosed (List.ne_nil_of_mem member)] at seen
    exact absurd rfl seen
  · intro isClosed logged notRaised
    exact closed isClosed (speaks.later.confined.settings ▸ logged) notRaised

/-- A move of the main thread that says nothing and stays in front of the closing of the log. -/
theorem Invariant.of_open {p : Pool σ} {m : Mover} {results : List Flow} {next : MainThread}
    (before : Invariant l base input start schedule s) (quiet : Pool.Quiet l base s.pool p)
    (isOpen : s.main.isOpen = true) (isOpen' : next.isOpen = true)
    (silent : next.isSilent = true → p.progress.closed = true) :
    Invariant l base input start (schedule ++ [m])
      { s with pool := p, results := results, main := next } := by
  have streams {main : MainThread} (isOpen : main.isOpen = true) (logged shared : Bool) :
      main.Streams logged shared ↔ shared = logged := by
    cases main <;> first | rfl | cases isOpen
  have after : Invariant l base input start (schedule ++ [m])
      { s with pool := p, results := results, main := next, said := s.said ++ [] } :=
    before.of_main quiet.speaks (fun _ member => absurd member List.not_mem_nil)
      (fun _ some => absurd rfl some)
      ((streams isOpen' _ _).mpr ((streams isOpen _ _).mp before.streams)) silent (fun _ => isOpen)
      (fun isClosed => by rw [isOpen'] at isClosed; cases isClosed)
  rwa [List.append_nil] at after

/-- A move of the main thread that speaks. -/
theorem Invariant.speak {m : Mover} {text : String} {next : MainThread}
    (before : Invariant l base input start schedule s)
    (past : s.main.isOpen = false → s.pool.host.shared = false)
    (streams : next.Streams s.pool.settings.logFile.isSome s.pool.host.shared)
    (silent : next.isSilent = true → s.pool.progress.closed = true)
    (opened : next.isOpen = s.main.isOpen)
    (notRaised : ∀ f log, s.main ≠ .ended (.raised f) log) :
    Invariant l base input start (schedule ++ [m]) { s.speak text with main := next } :=
  before.of_main (Pool.speaks_writeErr text before.kept.sound)
    (fun _ member => ⟨text, List.mem_singleton.mp member⟩) (fun isClosed _ => past isClosed) streams
    silent (fun isOpen => opened ▸ isOpen) fun isClosed _ _ => ⟨opened ▸ isClosed, notRaised⟩

/-- The main thread comes to its end. -/
theorem Invariant.ends {m : Mover} {ending : SessionEnding} {log : Option Transcript}
    (before : Invariant l base input start schedule s)
    (streams : (MainThread.ended ending log).Streams s.pool.settings.logFile.isSome
      s.pool.host.shared)
    (silent : s.pool.progress.closed = true)
    (closed : s.pool.settings.logFile.isSome = true → (∀ f, ending ≠ .raised f) →
      s.main.isOpen = false ∧ ∀ f log, s.main ≠ .ended (.raised f) log) :
    Invariant l base input start (schedule ++ [m]) { s with main := .ended ending log } := by
  have after : Invariant l base input start (schedule ++ [m])
      { s with main := .ended ending log, said := s.said ++ [] } :=
    before.of_main (Pool.Quiet.refl s.pool).speaks (fun _ member => absurd member List.not_mem_nil)
      (fun _ some => absurd rfl some) streams (fun _ => silent) (fun isOpen => by cases isOpen)
      fun _ logged notRaised => closed logged fun f raised => notRaised f log (by rw [raised])
  rwa [List.append_nil] at after

/-- When the main thread closes the log, the file has what the output stream has got. -/
theorem Invariant.close {c : Session.Conclusion} {path : Path} {log : Option Transcript}
    (before : Invariant l base input start schedule s) (here : s = start.run input schedule)
    (main : s.main = .printing c []) (logged : s.pool.settings.logFile = some path)
    (closed : log = s.pool.host.transcript.map fun t => t.close.2)
    (moved : s.move input .main = s') (after : s' = { s with
      pool := { s.pool with host := { s.pool.host with transcript := log } }
      main := .restoring c log path }) :
    Invariant l base input start (schedule ++ [.main]) s' := by
  have isSome : s.pool.settings.logFile.isSome = true := by rw [logged]; rfl
  have shared : s.pool.host.shared = true := by
    have streams := before.streams
    rw [main, isSome] at streams
    exact streams
  obtain ⟨t, transcript⟩ := Option.isSome_iff_exists.mp shared
  obtain rfl : log = some t.close.2 := by rw [closed, transcript]; rfl
  have later : Pool.Later s.pool s'.pool := by
    rw [after]
    refine ⟨⟨rfl, rfl, rfl, .refl _, fun _ _ => rfl, ?_⟩, Int.le_refl _, id⟩
    rintro l' ⟨t', given, location⟩
    cases given
    exact ⟨t, transcript, location⟩
  have silent : s.pool.progress.closed = true := before.silent (by rw [main]; rfl)
  refine ⟨before.kept.of_later later (fun _ => isSome) (by rw [after]) rfl,
    before.later.trans later, ?_, ?_, ?_, ?_, ?_, ?_⟩
  · rw [after]
    exact before.out
  · rw [after]
    exact before.plain
  · rw [after]
    exact ⟨isSome, _, rfl, rfl⟩
  · rw [after]
    exact fun _ => silent
  · rw [after]
    exact fun isOpen => by cases isOpen
  · intro _ _ _
    refine ⟨schedule ++ [.main], [], [], (List.append_nil _).symm, ?_⟩
    have run : start.run input (schedule ++ [.main]) = s' := by
      rw [run_append, ← here]
      exact moved
    rw [run]
    refine ⟨?_, (List.append_nil _).symm, String.append_empty.symm, fun free => ?_,
      fun _ lives => lives, fun _ member => absurd member List.not_mem_nil⟩
    · rw [after]
      exact ⟨_, _, _, rfl⟩
    · obtain ⟨text, out, file, _⟩ := before.mirrors (by rw [main]; rfl) isSome fun reserved =>
        free (later.reserves reserved)
      rw [after]
      refine ⟨text, out, file, fun t' given => ?_⟩
      cases given
      rfl

/-- When the main thread restores the streams, the closed transcript is taken away. -/
theorem Invariant.restore {c : Session.Conclusion} {path : Path} {log : Option Transcript}
    {texts : List String} (before : Invariant l base input start schedule s)
    (main : s.main = .restoring c log path) :
    Invariant l base input start (schedule ++ [.main]) { s with
      pool := { s.pool with host := { s.pool.host with transcript := none } }
      main := .parting c log texts } := by
  have streams := before.streams
  rw [main] at streams
  obtain ⟨logged, closed⟩ := streams
  have later : Pool.Later s.pool
      { s.pool with host := { s.pool.host with transcript := none } } := by
    refine ⟨⟨rfl, rfl, rfl, .refl _, fun _ _ => rfl, ?_⟩, Int.le_refl _, id⟩
    rintro l' ⟨t, given, _⟩
    cases given
  have silent : s.pool.progress.closed = true := before.silent (by rw [main]; rfl)
  refine ⟨before.kept.of_later later (fun _ => logged) rfl rfl, before.later.trans later,
    before.out, before.plain, ⟨logged, rfl, closed⟩, fun _ => silent,
    fun isOpen => (by cases isOpen), fun _ _ _ => ?_⟩
  obtain ⟨early, rest, later', rfl, closedIn⟩ := before.closed (by rw [main]; rfl) logged
    (by rw [main]; simp)
  refine ⟨early, rest ++ [.main], later', List.append_assoc .., closedIn.closing, closedIn.said,
    closedIn.out, fun free => ?_, closedIn.ages, closedIn.late⟩
  obtain ⟨told, out, settled⟩ := closedIn.settled free
  exact ⟨told, out, settled.1, fun t given => by cases given⟩

/-- A move of the main thread keeps up the invariant. -/
theorem Invariant.main (before : Invariant l base input start schedule s)
    (here : s = start.run input schedule) :
    Invariant l base input start (schedule ++ [.main]) (s.move input .main) := by
  have still := before.of_still (.main)
  have refl : Pool.Quiet l base s.pool s.pool := .refl _
  have moved : s.move input .main = s.moveMain input := rfl
  cases main : s.main with
  | watching count =>
    cases count with
    | zero =>
      rw [moved, moveMain, main]
      exact before.of_open refl (by rw [main]; rfl) rfl fun silent => by cases silent
    | succ count =>
      rw [moved, moveMain, main]
      dsimp only
      split
      · exact still
      · refine before.of_open refl (by rw [main]; rfl) ?_ ?_
        · split <;> rfl
        · split <;> exact fun silent => by cases silent
  | halting c texts =>
    rw [moved, moveMain, main]
    exact before.of_open (Pool.quiet_halt _) (by rw [main]; rfl) rfl fun silent => by cases silent
  | silencing c texts =>
    rw [moved, moveMain, main]
    exact before.of_open (Pool.quiet_close _) (by rw [main]; rfl) rfl fun _ =>
      Pool.closed_notify_close _
  | telling c texts =>
    have silent : s.pool.progress.closed = true := before.silent (by rw [main]; rfl)
    have streams := before.streams
    rw [main] at streams
    rw [moved, moveMain, main]
    cases texts with
    | nil => exact before.of_open refl (by rw [main]; rfl) rfl fun _ => silent
    | cons text texts =>
      exact before.speak (by rw [main]; simp [MainThread.isOpen]) streams (fun _ => silent)
        (by rw [main]; rfl) (by rw [main]; simp)
  | summing c counters =>
    have silent : s.pool.progress.closed = true := before.silent (by rw [main]; rfl)
    rw [moved, moveMain, main]
    dsimp only
    split
    · exact before.ends trivial silent fun _ notRaised => absurd rfl (notRaised _)
    · exact before.of_open refl (by rw [main]; rfl) rfl fun _ => silent
  | printing c texts =>
    have silent : s.pool.progress.closed = true := before.silent (by rw [main]; rfl)
    have streams := before.streams
    rw [main] at streams
    cases texts with
    | cons text texts =>
      rw [moved, moveMain, main]
      exact before.speak (by rw [main]; simp [MainThread.isOpen]) streams (fun _ => silent)
        (by rw [main]; rfl) (by rw [main]; simp)
    | nil =>
      cases logged : s.pool.settings.logFile with
      | some path =>
        exact before.close here main logged rfl rfl (by rw [moved, moveMain, main, logged])
      | none =>
        rw [moved, moveMain, main]
        dsimp only
        rw [logged]
        have unshared : s.pool.host.shared = false := by rw [streams, logged]; rfl
        exact before.ends ⟨unshared, by rw [logged]; rfl⟩ silent fun isSome => by
          rw [logged] at isSome
          cases isSome
  | restoring c log path =>
    rw [moved, moveMain, main]
    exact before.restore main
  | parting c log texts =>
    have silent : s.pool.progress.closed = true := before.silent (by rw [main]; rfl)
    have streams := before.streams
    rw [main] at streams
    obtain ⟨logged, unshared, closed⟩ := streams
    rw [moved, moveMain, main]
    cases texts with
    | cons text texts =>
      exact before.speak (fun _ => unshared) ⟨logged, unshared, closed⟩ (fun _ => silent)
        (by rw [main]; rfl) (by rw [main]; simp)
    | nil =>
      exact before.ends ⟨unshared, by rw [logged]; exact closed⟩ silent fun _ _ => by
        rw [main]
        exact ⟨rfl, by simp⟩
  | ended ending log =>
    rw [moved, moveMain, main]
    exact still

theorem Invariant.interrupt (before : Invariant l base input start schedule s) :
    Invariant l base input start (schedule ++ [.interrupt]) (s.move input .interrupt) := by
  unfold move
  dsimp only
  split
  · rename_i count main
    exact before.of_open (.refl _) (by rw [main]; rfl) rfl fun silent => by cases silent
  · exact before.of_still _

/-- Whatever the threads do, in any order, the invariant is kept up. -/
theorem invariant_run (first : Invariant l base input start [] start) (schedule : List Mover) :
    Invariant l base input start schedule (start.run input schedule) := by
  induction schedule using List.reverseRecOn with
  | nil => exact first
  | append_singleton schedule m ih =>
    rw [run_append]
    cases m with
    | worker k => exact ih.worker k
    | main => exact ih.main rfl
    | interrupt => exact ih.interrupt

/-- What holds of threads that have just been started. -/
theorem invariant_start {p : Pool σ} (sound : p.Sound) (positive : 0 ≤ p.counter.value)
    (shared : p.host.shared = p.settings.logFile.isSome)
    (mirrors : p.settings.logFile.isSome = true → p.host.Mirrors l base) :
    Invariant l base input (.start p) [] (.start p) where
  kept := ⟨sound, positive, fun given => shared ▸ given, fun t member => by
    rw [(List.mem_replicate.mp member).2]
    trivial⟩
  later := .refl p
  out := String.append_empty.symm
  plain _ x member := by cases member
  streams := shared
  silent isSilent := by cases isSilent
  mirrors _ logged _ := mirrors logged
  closed isClosed := by cases isClosed

end Threads

end CrashDiff
