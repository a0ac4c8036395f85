import CrashDiff.Proofs.Run.Mirror
import CrashDiff.Run.Threads

/-!
# What the code of a worker does

The threads of a session share a pool, so anything may become of the pool between two actions of a
worker, as far as other threads can bring it about: directories, settings and the path of the event
log stay as they are, more cases are drawn, and a closed progress stream stays closed. Under that,
each action in the code of a worker is quiet: it writes nothing to the output stream, and it leaves
the file of the log alone, unless that is the event log or the file of a case that has been drawn.

Results:
1. `quiet_stage`, `quiet_launch`, `quiet_removeFile`, `quiet_recordEvent`: the actions are quiet.
2. `keeps_bind`: code is kept up part by part.
3. `keeps_runOnce`, `keeps_giveUp`: so is the code of a worker.
-/

namespace CrashDiff

open FileSystem

variable {σ α β : Type} {l : Location} {base : String}

/-! ## The file of the log -/

namespace Host

/-- The file at the location has the text, and no transcript writes on. -/
def Settled (l : Location) (text : String) (h : Host) : Prop :=
  h.files.contents? l = some text ∧ ∀ t, h.transcript = some t → t.closed = true

/-- The file at the location mirrors the output stream or, if a text is given, is settled with
it. -/
def Stands (l : Location) (base : String) : Option String → Host → Prop
  | none, h => h.Mirrors l base
  | some text, h => h.Settled l text

namespace Stands

variable {text? : Option String} {h h' : Host}

theorem of_spared (stands : h.Stands l base text?) (out : h'.out = h.out)
    (entry : h'.files.lookup l = h.files.lookup l) (transcript : h'.transcript = h.transcript) :
    h'.Stands l base text? := by
  cases text? with
  | none => exact Mirrors.of_spared stands out entry transcript
  | some text =>
    obtain ⟨file, closed⟩ := stands
    exact ⟨by rwa [contents?_eq_some, entry, ← contents?_eq_some],
      fun t given => closed t (transcript ▸ given)⟩

theorem remove (stands : h.Stands l base text?) {path : Path}
    (other : ¬ h.files.IsPlace path l) : (h.remove path).2.Stands l base text? := by
  cases text? with
  | none => exact Mirrors.remove stands other
  | some text =>
    obtain ⟨file, closed⟩ := stands
    rcases remove_cases path h with ⟨f, failed⟩ | ⟨l', _, place, _, removed⟩
    · rw [failed]
      exact ⟨file, closed⟩
    · have different : l ≠ l' := by
        rintro rfl
        exact other place
      rw [removed]
      refine ⟨?_, fun t given => ?_⟩
      · rw [contents?_eq_some, lookup_erase_of_ne different, ← contents?_eq_some]
        exact file
      · obtain ⟨t', before, rfl⟩ := Option.map_eq_some_iff.mp given
        have still : (t'.forget l').closed = t'.closed := by
          unfold Transcript.forget
          split <;> rfl
        rw [still]
        exact closed t' before

/-- A closed transcript passes on what is written, and leaves the file alone. -/
theorem writeOut (stands : h.Stands l base text?) (text : String) :
    (h.writeOut text).Stands l base text? := by
  cases text? with
  | none => exact Mirrors.writeOut stands text
  | some held =>
    obtain ⟨file, closed⟩ := stands
    unfold Host.writeOut
    cases transcript : h.transcript with
    | none => exact ⟨file, fun t given => closed t (transcript ▸ given)⟩
    | some t =>
      have shut := closed t transcript
      simp only [Transcript.write, shut, if_true]
      refine ⟨file, fun t' given => ?_⟩
      cases given
      exact shut

theorem writeErr (stands : h.Stands l base text?) (text : String) :
    (h.writeErr text).Stands l base text? := by
  unfold Host.writeErr
  split
  · exact stands.of_spared rfl rfl rfl
  · exact stands.writeOut text

theorem writeTo (stands : h.Stands l base text?) (shared : Bool) (text : String) :
    (h.writeTo shared text).Stands l base text? := by
  unfold Host.writeTo
  split
  · exact stands.writeOut text
  · exact stands.of_spared rfl rfl rfl

end Stands

end Host

/-! ## What other threads may do to a pool -/

namespace Pool

variable {p q r : Pool σ}

/-- The location is that of the event log, or of the file of a case that has been drawn. -/
def Reserves (p : Pool σ) (l : Location) : Prop :=
  p.RecordsAt l ∨ ∃ n : Nat, (n : Int) < p.counter.value ∧
    p.host.files.IsPlace (p.settings.execution.scratchDir.child (Source.fileName n)) l

/-- `Later p q`: moves of threads lead from the first pool to the second one. -/
structure Later (p q : Pool σ) : Prop where
  confined : Confined (fun _ => True) p q
  drawn : p.counter.value ≤ q.counter.value
  closed : p.progress.closed = true → q.progress.closed = true

namespace Later

theorem refl (p : Pool σ) : Later p p :=
  ⟨.refl _ p, Int.le_refl _, id⟩

theorem trans (first : Later p q) (second : Later q r) : Later p r :=
  ⟨first.confined.trans second.confined, Int.le_trans first.drawn second.drawn,
    fun closed => second.closed (first.closed closed)⟩

theorem reserves (later : Later p q) (reserves : p.Reserves l) : q.Reserves l := by
  rcases reserves with records | ⟨n, drawn, place⟩
  · exact Or.inl (later.confined.recordsAt_iff.mpr records)
  · refine Or.inr ⟨n, Int.lt_of_lt_of_le drawn later.drawn, ?_⟩
    rw [later.confined.settings]
    exact later.confined.isPlace_iff.mpr place

end Later

/-- A thread leads from the first pool to the second one, without a text on the output stream. The
file at a location that is not reserved is left alone. -/
structure Quiet (l : Location) (base : String) (p q : Pool σ) : Prop where
  later : Later p q
  stands : ¬ q.Reserves l → ∀ text?, p.host.Stands l base text? → q.host.Stands l base text?
  out : q.host.out = p.host.out
  shared : q.host.shared = p.host.shared

namespace Quiet

theorem refl (p : Pool σ) : Quiet l base p p :=
  ⟨.refl p, fun _ _ stands => stands, rfl, rfl⟩

theorem trans (first : Quiet l base p q) (second : Quiet l base q r) : Quiet l base p r where
  later := first.later.trans second.later
  stands free text? stands := second.stands free text?
    (first.stands (fun reserved => free (second.later.reserves reserved)) text? stands)
  out := second.out.trans first.out
  shared := second.shared.trans first.shared

/-- What leaves the streams alone and touches reserved locations only is quiet. -/
theorem of_confined {touched : Location → Prop} (confined : Confined touched p q)
    (drawn : p.counter.value ≤ q.counter.value)
    (closed : p.progress.closed = true → q.progress.closed = true)
    (reserved : ∀ l, touched l → q.Reserves l) (out : q.host.out = p.host.out)
    (transcript : q.host.transcript = p.host.transcript) : Quiet l base p q where
  later := ⟨confined.mono fun _ _ => trivial, drawn, closed⟩
  stands free _ stands := stands.of_spared out
    (confined.elsewhere l fun touches => free (reserved l touches)) transcript
  out := out
  shared := congrArg Option.isSome transcript

/-- What leaves host, settings and event log alone is quiet. -/
theorem of_host (settings : q.settings = p.settings) (substitute : q.substitute = p.substitute)
    (logPath : q.events.path = p.events.path) (drawn : p.counter.value ≤ q.counter.value)
    (closed : p.progress.closed = true → q.progress.closed = true) (host : q.host = p.host) :
    Quiet l base p q := by
  have still : Confined (fun _ => False) p q :=
    .of_eq settings substitute logPath (by rw [host]) (by rw [host])
  exact of_confined still drawn closed (fun _ touches => touches.elim) (by rw [host]) (by rw [host])

end Quiet

/-! ## The actions of a worker -/

/-- The case is one that has been drawn. -/
def HasDrawn (p : Pool σ) (case : TestCase) : Prop :=
  ∃ n : Nat, (n : Int) < p.counter.value ∧
    case.path = p.settings.execution.scratchDir.child (Source.fileName n)

variable {case : TestCase} {children : Children}

theorem Later.hasDrawn (later : Later p q) (drawn : p.HasDrawn case) : q.HasDrawn case := by
  obtain ⟨n, below, path⟩ := drawn
  exact ⟨n, Int.lt_of_lt_of_le below later.drawn, by rw [later.confined.settings, path]⟩

/-- The place of a case that has been drawn is reserved. -/
theorem HasDrawn.reserves (drawn : p.HasDrawn case) (later : Later p q)
    (place : p.host.files.IsPlace case.path l) : q.Reserves l := by
  obtain ⟨n, below, path⟩ := drawn
  exact later.reserves (Or.inr ⟨n, below, path ▸ place⟩)

theorem quiet_removeFile (drawn : p.HasDrawn case) :
    Quiet l base p (p.removeFile case.path).2 := by
  have later : Later p (p.removeFile case.path).2 :=
    ⟨(confined_removeFile _ _).mono fun _ _ => trivial, Int.le_refl _, id⟩
  exact ⟨later, fun free text? stands => stands.remove fun place => free
    (drawn.reserves later place), Host.out_remove _ _, Host.shared_remove _ _⟩

theorem quiet_stage (drawn : p.HasDrawn case) : Quiet l base p (p.stage case).2 := by
  have later : Later p (p.stage case).2 :=
    ⟨(confined_stage case p).mono fun _ _ => trivial, Int.le_refl _, id⟩
  exact .of_confined (confined_stage case p) later.drawn later.closed
    (fun _ place => drawn.reserves later place) rfl rfl

theorem closed_notify_close (p : Pool σ) : (p.notify .close).progress.closed = true := by
  simp [notify, Progress.after, Progress.closes]

theorem quiet_close (p : Pool σ) : Quiet l base p (p.notify .close) :=
  .of_host rfl rfl rfl (Int.le_refl _) (fun _ => closed_notify_close p) (host_stop p)

theorem quiet_halt (p : Pool σ) : Quiet l base p { p with halted := true } :=
  .of_host rfl rfl rfl (Int.le_refl _) id rfl

theorem quiet_stop (p : Pool σ) : Quiet l base p p.stop :=
  (quiet_halt p).trans (quiet_close _)

theorem quiet_launch (drawn : p.HasDrawn case) (v : Variant) (child : Child) :
    Quiet l base p (p.launch case v child).2 := by
  unfold launch
  dsimp only
  generalize (if p.substitute then ExecutionSettings.substituteCall v case.path
    else p.settings.execution.call v case.path) = call
  have noted : Quiet l base p { p with calls := p.calls ++ [call] } :=
    .of_host rfl rfl rfl (Int.le_refl _) id rfl
  have stopped : Quiet l base p (if child.stopsRun then Pool.stop { p with
      calls := p.calls ++ [call] } else { p with calls := p.calls ++ [call] }) := by
    split
    · exact noted.trans (quiet_stop _)
    · exact noted
  split
  · exact stopped.trans (quiet_removeFile (stopped.later.hasDrawn drawn))
  · exact stopped

theorem quiet_log (m : Message) (p : Pool σ) :
    Quiet l base p { p with host := p.host.log m } := by
  have still : Confined (fun _ => False) p { p with host := p.host.log m } :=
    .of_eq rfl rfl rfl (Host.files_log m _) (Host.transcript_log m _)
  exact .of_confined still (Int.le_refl _) id (fun _ touches => touches.elim) (Host.out_log m _)
    (Host.transcript_log m _)

theorem quiet_finish (v : Variant) (child : Child) (p : Pool σ) :
    Quiet l base p (Code.finish case v child p).2 := by
  unfold Code.finish
  split
  · exact .refl p
  · dsimp only
    split
    · exact .refl p
    · exact quiet_log _ p

theorem quiet_recordEvent (e : Event) (p : Pool σ) : Quiet l base p (p.recordEvent e).2 := by
  have confined := confined_recordEvent e p
  exact .of_confined confined (Int.le_refl _) id
    (fun _ records => Or.inl (confined.recordsAt_iff.mpr records)) rfl rfl

/-- A notice is told on the output stream, and the file of the log goes along with that. -/
theorem later_notify (n : Notice) (sound : p.Sound) : Later p (p.notify n) :=
  ⟨(confined_notify n sound).mono fun _ _ => trivial, Int.le_refl _, fun closed => by
    simp [notify, Progress.after, closed]⟩

theorem stands_notify (n : Notice) {text? : Option String} (stands : p.host.Stands l base text?) :
    (p.notify n).host.Stands l base text? := by
  unfold notify
  dsimp only
  split
  · exact stands
  · exact stands.writeOut _

end Pool

/-! ## Code that is kept up -/

namespace Code

/-- Whatever other threads do in between, from the pool on each action of the code is quiet. -/
def Keeps (l : Location) (base : String) : Code σ α → Pool σ → Prop
  | .done _, _ => True
  | .act effect next, p => ∀ q, Pool.Later p q →
      Pool.Quiet l base q (effect q) ∧ (next q).Keeps l base (effect q)
  | .tell n next, p => ∀ q, Pool.Later p q → q.Sound → next.Keeps l base (q.notify n)

variable {p q : Pool σ}

theorem Keeps.later {c : Code σ α} (keeps : c.Keeps l base p) (later : Pool.Later p q) :
    c.Keeps l base q := by
  cases c with
  | done result => exact keeps
  | act effect next => exact fun r more => keeps r (later.trans more)
  | tell n next => exact fun r more => keeps r (later.trans more)

theorem keeps_bind {c : Code σ α} {rest : α → Code σ β} (first : c.Keeps l base p)
    (second : ∀ a q, Pool.Later p q → (rest a).Keeps l base q) :
    (c.bind rest).Keeps l base p := by
  induction c generalizing p with
  | done result => exact second result p (.refl p)
  | act effect next ih =>
    intro q later
    obtain ⟨quiet, keeps⟩ := first q later
    exact ⟨quiet, ih q keeps fun a r more => second a r (later.trans (quiet.later.trans more))⟩
  | tell n next ih =>
    intro q later sound
    exact ih (first q later sound) fun a r more =>
      second a r (later.trans ((Pool.later_notify n sound).trans more))

theorem keeps_atomic {f : Pool σ → α × Pool σ}
    (quiet : ∀ q, Pool.Later p q → Pool.Quiet l base q (f q).2) : (atomic f).Keeps l base p :=
  fun q later => ⟨quiet q later, trivial⟩

theorem keeps_change {effect : Pool σ → Pool σ}
    (quiet : ∀ q, Pool.Later p q → Pool.Quiet l base q (effect q)) :
    (change effect).Keeps l base p :=
  fun q later => ⟨quiet q later, trivial⟩

theorem keeps_notify (n : Notice) : (notify n).Keeps l base p :=
  fun _ _ _ => trivial

theorem keeps_recordEvents (events : List Event) (p : Pool σ) :
    (recordEvents events).Keeps l base p := by
  induction events generalizing p with
  | nil => trivial
  | cons e events ih =>
    refine keeps_bind (keeps_atomic fun q _ => Pool.quiet_recordEvent e q) fun answer q _ => ?_
    cases answer with
    | error f => trivial
    | ok u => exact ih q

variable {case : TestCase} {children : Children}

theorem keeps_runVariant (drawn : p.HasDrawn case) (v : Variant) :
    (runVariant children case v).Keeps l base p := by
  refine keeps_bind (keeps_atomic fun q later =>
    Pool.quiet_launch (later.hasDrawn drawn) v (children case v)) fun answer q _ => ?_
  cases answer with
  | error f => trivial
  | ok u => exact keeps_atomic fun r _ => Pool.quiet_finish v (children case v) r

theorem keeps_execute (drawn : p.HasDrawn case) (s : ExecutionSettings) :
    (execute s children case).Keeps l base p := by
  refine keeps_bind (keeps_runVariant drawn s.baseline) fun answer q later => ?_
  have candidate : (runVariant children case s.candidate).Keeps l base q :=
    keeps_runVariant (later.hasDrawn drawn) s.candidate
  cases answer with
  | error f =>
    dsimp only
    split
    · exact keeps_bind candidate fun _ _ _ => trivial
    · trivial
  | ok baseline =>
    refine keeps_bind candidate fun answer r _ => ?_
    cases answer with
    | error f => trivial
    | ok candidate => trivial

theorem keeps_actOn (drawn : p.HasDrawn case) (haltOnCandidate : Bool) (result : DualResult)
    (verdict : Verdict) : (actOn haltOnCandidate case result verdict).Keeps l base p := by
  unfold actOn
  split
  · refine keeps_bind (keeps_atomic fun q later =>
      Pool.quiet_removeFile (later.hasDrawn drawn)) fun answer q _ => ?_
    cases answer with
    | error f => trivial
    | ok u => exact keeps_bind (keeps_notify .point) fun _ _ _ => trivial
  · refine keeps_bind (keeps_recordEvents _ p) fun answer q _ => ?_
    cases answer with
    | error f => trivial
    | ok u =>
      dsimp only
      split
      · exact keeps_bind (keeps_notify _) fun _ _ _ => trivial
      · exact keeps_bind (keeps_notify _) fun _ _ _ =>
          keeps_bind (keeps_change fun q _ => Pool.quiet_halt q) fun _ _ _ => trivial

/-- A call of a worker is kept up: it uses the file of its case and the event log only. -/
theorem keeps_runOnce [DrawSource σ] (positive : 0 ≤ p.counter.value) (s : RunSettings)
    (children : Children) (worker : Nat) : (runOnce s children worker).Keeps l base p := by
  intro q later
  have next : (q.nextCase worker).2.counter.value = q.counter.value + 1 := rfl
  have drawn : (q.nextCase worker).2.HasDrawn (q.nextCase worker).1 := by
    obtain ⟨n, here⟩ := Int.eq_ofNat_of_zero_le (Int.le_trans positive later.drawn)
    refine ⟨n, by rw [next, here]; omega, ?_⟩
    exact here ▸ Pool.caseOf_path worker q
  refine ⟨.of_host rfl rfl rfl (by rw [next]; omega) id rfl, ?_⟩
  refine keeps_bind (c := atomic (·.stage (q.nextCase worker).1))
    (keeps_atomic fun r after => Pool.quiet_stage (after.hasDrawn drawn)) fun answer r after => ?_
  cases answer with
  | error f => trivial
  | ok u =>
    refine keeps_bind (keeps_execute (after.hasDrawn drawn) s.execution) fun answer r' after' => ?_
    cases answer with
    | error f => trivial
    | ok result =>
      refine keeps_bind (keeps_change fun _ _ => .of_host rfl rfl rfl (Int.le_refl _) id rfl)
        fun _ r'' after'' => ?_
      exact keeps_actOn (after''.hasDrawn (after'.hasDrawn (after.hasDrawn drawn))) _ _ _

theorem keeps_giveUp (worker : Nat) (f : Failure) (p : Pool σ) :
    (giveUp worker f).Keeps l base p := by
  refine keeps_bind (keeps_change fun _ _ => .of_host rfl rfl rfl (Int.le_refl _) id rfl)
    fun _ q _ => ?_
  refine keeps_bind (keeps_atomic fun r _ => Pool.quiet_recordEvent _ r) fun answer r _ => ?_
  cases answer with
  | error f => trivial
  | ok u => exact keeps_bind (keeps_notify _) fun _ _ _ => trivial

end Code

end CrashDiff
