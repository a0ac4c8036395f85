import CrashDiff.Proofs.Run.Ending

/-!
# Recording events

What becomes of an event depends on the path of the event log alone. A failure of the operating
system to write is forgiven, so every event is counted, unless the path is one that the operating
system is not even asked about: then every event is refused.

Results:
1. `writeLine_fst`: when the line of an event is refused.
2. `recordEvent_of_accepts`, `recordEvent_of_refuses`: what becomes of an event.
3. `count_recordEvents`: the counts after events.
4. `giveUp_of_accepts`, `giveUp_of_refuses`: what becomes of a worker that gives up.
-/

namespace CrashDiff

open FileSystem

/-! ## Counts -/

theorem EventCounts.count_add (key other : String) (counts : EventCounts) :
    EventCounts.count other (EventCounts.add key counts) =
      EventCounts.count other counts + if key = other then 1 else 0 := by
  induction counts with
  | nil => simp [add, count]
  | cons e rest ih =>
    obtain ⟨k, n⟩ := e
    by_cases here : k = key
    · subst here
      by_cases same : k = other <;> simp [add, count, same]
    · by_cases same : k = other
      · subst same
        simp [add, count, here, Ne.symm here]
      · simp [add, count, here, same, ih]

/-! ## Refused events -/

theorem SystemError.isSystem_kind (e : SystemError) : e.kind.isSystem = true := by
  cases e <;> rfl

namespace EventLog

/-- Whether the log takes events: its path, if it has one, is one that the operating system can be
asked about. -/
def accepts (log : EventLog) : Bool :=
  match log.path with
  | none => true
  | some path => !hasNull path

theorem accepts_iff {log : EventLog} :
    log.accepts = true ↔ ∀ path ∈ log.path, hasNull path = false := by
  unfold accepts
  cases log.path <;> simp

theorem accepts_congr {log log' : EventLog} (same : log'.path = log.path) :
    log'.accepts = log.accepts := by
  simp only [accepts, same]

/-- Whether a line is refused does not depend on the files. -/
theorem writeLine_fst (log : EventLog) (line : String) (fs : FileSystem) :
    (log.writeLine line fs).1 = if log.accepts then .ok () else .error nullFailure := by
  unfold writeLine accepts
  cases log.path with
  | none => rfl
  | some path =>
    by_cases null : hasNull path = true
    · simp [append, null, nullFailure, Failure.withText, FailureKind.isSystem]
    · cases located : fs.locateFile path with
      | error e => simp [append, null, located, SystemError.failure, SystemError.isSystem_kind]
      | ok l => simp [append, null, located]

/-- A log that takes events counts all of them, whatever becomes of their lines. -/
theorem record_of_accepts {log : EventLog} (accepts : log.accepts = true) (time : String)
    (e : Event) (fs : FileSystem) : (log.record time e fs).1 = .ok () ∧
      (log.record time e fs).2.1 = { log with counts := log.counts.add e.key } := by
  have written := writeLine_fst log (e.line time) fs
  rw [accepts, if_pos rfl] at written
  unfold record
  rcases line : log.writeLine (e.line time) fs with ⟨result, fs'⟩
  rw [line] at written
  cases written
  exact ⟨rfl, rfl⟩

end EventLog

namespace Pool

variable {σ : Type} {p : Pool σ}

/-- An event that is not refused is counted. -/
theorem recordEvent_of_accepts (accepts : p.events.accepts = true) (e : Event) :
    (p.recordEvent e).1 = .ok () ∧
      (p.recordEvent e).2.events = { p.events with counts := p.events.counts.add e.key } :=
  EventLog.record_of_accepts accepts p.host.time e p.host.files

/-- An event that is refused is not counted. -/
theorem recordEvent_of_refuses (refuses : p.events.accepts = false) (e : Event) :
    (p.recordEvent e).1 = .error nullFailure ∧ (p.recordEvent e).2.events = p.events := by
  have written := EventLog.writeLine_fst p.events (e.line p.host.time) p.host.files
  rw [refuses] at written
  unfold recordEvent EventLog.record
  rcases line : p.events.writeLine (e.line p.host.time) p.host.files with ⟨result, fs⟩
  rw [line] at written
  cases written
  exact ⟨rfl, rfl⟩

/-- What becomes of an event depends on the event log alone. -/
theorem recordEvent_eq (e : Event) (p : Pool σ) :
    (p.recordEvent e).1 = (if p.events.accepts then .ok () else .error nullFailure) ∧
      (p.recordEvent e).2.events = { p.events with
        counts := if p.events.accepts then p.events.counts.add e.key else p.events.counts } := by
  cases accepts : p.events.accepts with
  | true => exact recordEvent_of_accepts accepts e
  | false => exact recordEvent_of_refuses accepts e

theorem accepts_recordEvent (e : Event) (p : Pool σ) :
    (p.recordEvent e).2.events.accepts = p.events.accepts :=
  EventLog.accepts_congr (confined_recordEvent e p).logPath

/-- A log that takes events takes all of them. -/
theorem recordEvents_of_accepts (accepts : p.events.accepts = true) (events : List Event) :
    (p.recordEvents events).1 = .ok () := by
  induction events generalizing p with
  | nil => rfl
  | cons e events ih =>
    have first := (recordEvent_of_accepts accepts e).1
    have next := accepts_recordEvent e p
    rw [recordEvents]
    rcases recorded : p.recordEvent e with ⟨result, q⟩
    rw [recorded] at first next
    cases first
    exact ih (next.trans accepts)

theorem count_recordEvent (e : Event) (key : String) (p : Pool σ) :
    (p.recordEvent e).2.events.counts.count key = p.events.counts.count key +
      if p.events.accepts then [e.key].count key else 0 := by
  cases accepts : p.events.accepts with
  | true =>
    rw [(recordEvent_of_accepts accepts e).2, EventCounts.count_add]
    simp [List.count_singleton]
  | false =>
    rw [(recordEvent_of_refuses accepts e).2]
    rfl

/-- The events that are counted: all of them, or none if they are refused. -/
theorem count_recordEvents (events : List Event) (key : String) (p : Pool σ) :
    (p.recordEvents events).2.events.counts.count key = p.events.counts.count key +
      if p.events.accepts then (events.map Event.key).count key else 0 := by
  induction events generalizing p with
  | nil => simp [recordEvents]
  | cons e events ih =>
    have counted := count_recordEvent e key p
    rw [recordEvents]
    cases accepts : p.events.accepts with
    | true =>
      have answer := (recordEvent_of_accepts accepts e).1
      have next := accepts_recordEvent e p
      rw [accepts] at counted next
      rcases recorded : p.recordEvent e with ⟨result, q⟩
      rw [recorded] at answer counted next
      cases answer
      dsimp only at counted next ⊢
      rw [ih, counted, next, if_pos rfl, if_pos rfl, if_pos rfl, Nat.add_assoc,
        ← List.count_append]
      rfl
    | false =>
      have answer := (recordEvent_of_refuses accepts e).1
      rw [accepts] at counted
      rcases recorded : p.recordEvent e with ⟨result, q⟩
      rw [recorded] at answer counted
      cases answer
      exact counted

/-! ## Workers that give up -/

/-- The pool after the failure of a worker has been counted and recorded. -/
def failureNoted (worker : Nat) (f : Failure) (p : Pool σ) : Pool σ :=
  ({ p with stats := p.stats.recordFailure }.recordEvent (.infrastructureError worker f.shown)).2

/-- A worker that gives up reports its failure and halts the run. -/
theorem giveUp_of_accepts (accepts : p.events.accepts = true) (worker : Nat) (f : Failure) :
    p.giveUp worker f = (.ok (.failed f),
      { (p.failureNoted worker f).notify (.lastReport (failureLine worker f)) with
        host := ((p.failureNoted worker f).notify
          (.lastReport (failureLine worker f))).host.writeTrace f
        halted := true }) := by
  have answer := (recordEvent_of_accepts (p := { p with stats := p.stats.recordFailure }) accepts
    (.infrastructureError worker f.shown)).1
  unfold giveUp failureNoted
  dsimp only
  rcases recorded : { p with stats := p.stats.recordFailure }.recordEvent
    (.infrastructureError worker f.shown) with ⟨result, q⟩
  rw [recorded] at answer ⊢
  cases answer
  rfl

/-- A worker whose failure is refused by the event log fails with that refusal. -/
theorem giveUp_of_refuses (refuses : p.events.accepts = false) (worker : Nat) (f : Failure) :
    p.giveUp worker f = (.error nullFailure, p.failureNoted worker f) := by
  have answer := (recordEvent_of_refuses (p := { p with stats := p.stats.recordFailure }) refuses
    (.infrastructureError worker f.shown)).1
  unfold giveUp failureNoted
  dsimp only
  rcases recorded : { p with stats := p.stats.recordFailure }.recordEvent
    (.infrastructureError worker f.shown) with ⟨result, q⟩
  rw [recorded] at answer ⊢
  cases answer
  rfl

end Pool

end CrashDiff
