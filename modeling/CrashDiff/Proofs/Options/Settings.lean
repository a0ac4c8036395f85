import CrashDiff.Proofs.Options.Choices
import CrashDiff.Run.Session

/-!
# Settings from the command line

A command line that writes choices makes the settings that were chosen, with the defaults where
nothing was. There is one gap: the separator as a value, which can only be written behind `=`,
leaves its option without any value. A count of workers below one is a complaint, whatever else is
chosen.

Results:
1. `accept_default`: the default settings of the generator are accepted.
2. `exists_isFor`, `plain_of_settings`: when the chosen settings are made.
3. `settings_of_few_workers`: the complaint about the count of workers.
4. `isFor_of_writes`: from the words to the settings, or to the end of the session.
-/

namespace CrashDiff

open Choice

/-! ## Default settings -/

theorem Ratio.ofJson_eq_ok {v : Json} {q : Rat} (read : (ofJson v).toOption = some q) :
    ofJson v = .ok q := by
  cases found : ofJson v with
  | error e =>
    rw [found] at read
    cases read
  | ok p =>
    rw [found] at read
    exact congrArg _ (Option.some.inj read)

theorem GenerationRequest.probability_eq_ok {v : Json} {q : Rat}
    (read : (Ratio.ofJson v).toOption = some q) (proper : GenerationSettings.IsProbability q)
    (name : ProbabilityName) : probability name v = .ok ⟨q, proper⟩ := by
  rw [probability, Ratio.ofJson_eq_ok read]
  dsimp only
  rw [dif_pos proper]

/-- The default settings of the generator are accepted as they are. -/
theorem GenerationRequest.accept_default :
    ({} : GenerationRequest).accept = .ok ⟨{}, GenerationSettings.valid_default⟩ := by
  have valid := GenerationSettings.valid_default
  have argument : probability .argumentSubset (.str "3/4") = .ok ⟨mkRat 3 4, _⟩ :=
    probability_eq_ok (by decide +kernel) valid.argumentSubset _
  have parameter : probability .parameterSubset (.str "1/2") = .ok ⟨mkRat 1 2, _⟩ :=
    probability_eq_ok (by decide +kernel) valid.parameterSubset _
  have shuffle : probability .shuffle (.str "1/4") = .ok ⟨mkRat 1 4, _⟩ :=
    probability_eq_ok (by decide +kernel) valid.shuffle _
  rw [accept]
  dsimp only
  rw [dif_neg (by decide), argument, parameter, shuffle]
  dsimp only
  rw [dif_pos (by decide), dif_pos (by decide)]
  rfl

theorem ExecutionSettings.accept_of_valid {s : ExecutionSettings} (valid : s.Valid) :
    s.accept = .ok ⟨s, valid⟩ := by
  rw [accept, dif_neg valid.crashCode_distinct, dif_neg valid.names_distinct]

/-- A request with the default settings of the generator is accepted, if there are workers. -/
theorem RunRequest.accept_of_workers {r : RunRequest} (generation : r.generation = {})
    (valid : r.execution.Valid) (positive : 1 ≤ r.workers) :
    ∃ s, r.accept = .ok s ∧ (s.workers : Int) = r.workers ∧ s.seed = r.seed ∧
      s.haltOnCandidate = r.haltOnCandidate ∧ s.generation = {} ∧ s.execution = r.execution ∧
      s.logFile = r.logFile ∧ s.healthLog = r.healthLog := by
  rw [accept, generation, GenerationRequest.accept_default,
    ExecutionSettings.accept_of_valid valid]
  dsimp only
  rw [dif_neg (by omega)]
  exact ⟨_, rfl, Int.toNat_of_nonneg (by omega), rfl, rfl, rfl, rfl, rfl, rfl⟩

theorem RunRequest.execution_of_accept {r : RunRequest} {s : RunSettings}
    (accepted : r.accept = .ok s) : s.execution = r.execution := by
  unfold accept at accepted
  split at accepted
  · cases accepted
  · split at accepted
    · cases accepted
    · rename_i execution checked
      have same : execution.1 = r.execution := by
        unfold ExecutionSettings.accept at checked
        split at checked
        · cases checked
        · split at checked
          · cases checked
          · cases checked
            rfl
      split at accepted
      · cases accepted
      · cases accepted
        exact same

/-! ## Chosen settings -/

variable {cs : List Choice} {argv : List String}

/-- The settings are the chosen ones: each option has its last value, or the default if there is
none, and the variants have the names that they always have. -/
structure RunSettings.IsFor (s : RunSettings) (cs : List Choice) : Prop where
  workers : (s.workers : Int) = workersOf cs
  seed : s.seed = last? seed? cs
  haltOnCandidate : s.haltOnCandidate = decide (.flag .haltOnCandidate ∈ cs)
  generation : s.generation = {}
  execution : s.execution = {
    compiler := (last? (text? .compiler) cs).getD "rustc"
    baseline := ⟨"baseline", (last? (text? .baseline) cs).getD "+nightly"⟩
    candidate := ⟨"candidate", (last? (text? .candidate) cs).getD "+stage1"⟩
    scratchDir := ((last? (text? .scratchDir) cs).map Path.ofText).getD ⟨.root, ["tmp"]⟩
    parallel := decide (.flag .parallelVariants ∈ cs) }
  logFile : s.logFile = (last? (text? .logFile) cs).map Path.ofText
  healthLog : s.healthLog = (last? (text? .healthLog) cs).map Path.ofText

/-- No option has the separator as its last value. -/
def Choice.Plain (cs : List Choice) : Prop :=
  ∀ o, last? (text? o) cs ≠ some "--"

namespace Configuration

theorem exists_of_bind {ε α β : Type} {x : Except ε α} {f : α → Except ε β} {b : β}
    (bound : (x >>= f) = .ok b) : ∃ a, x = .ok a ∧ f a = .ok b := by
  cases x with
  | error e => cases bound
  | ok a => exact ⟨a, rfl, bound⟩

theorem need_text (key : OptionKey) (substitute : String) (chosen : Option String) :
    need key (chosen.elim (.value substitute) (givenText id)) =
      if chosen = some "--" then .error (.emptied key) else .ok (chosen.getD substitute) := by
  cases chosen with
  | none => rfl
  | some value =>
    by_cases separator : value = "--" <;> simp [need, givenText, separator]

theorem needOptional_path (key : OptionKey) (chosen : Option String) :
    needOptional key (chosen.map (givenText Path.ofText)) =
      if chosen = some "--" then .error (.emptied key) else .ok (chosen.map Path.ofText) := by
  cases chosen with
  | none => rfl
  | some value =>
    by_cases separator : value = "--" <;>
      simp [needOptional, need, givenText, separator, Except.map]

theorem needOptional_value {α : Type} (key : OptionKey) (chosen : Option α) :
    needOptional key (chosen.map .value) = .ok chosen := by
  cases chosen <;> rfl

/-- The request that is made of values for all options. -/
def requestOf (c : Configuration) (seed : Option Int) (compiler baseline candidate : String)
    (scratchDir logFile healthLog : Option Path) : RunRequest where
  workers := c.workers
  seed := seed
  haltOnCandidate := c.haltOnCandidate
  execution := {
    compiler := compiler
    baseline := ⟨"baseline", baseline⟩
    candidate := ⟨"candidate", candidate⟩
    scratchDir := scratchDir.getD ⟨.root, ["tmp"]⟩
    parallel := c.parallel }
  logFile := logFile
  healthLog := healthLog

/-- Settings are made when no value is missing and the request is accepted. -/
theorem settings_eq_ok_iff {c : Configuration} {s : RunSettings} :
    c.settings = .ok s ↔ ∃ seed compiler baseline candidate scratchDir logFile healthLog,
      needOptional .seed c.seed = .ok seed ∧
      need .compiler c.compiler = .ok compiler ∧ need .baseline c.baseline = .ok baseline ∧
      need .candidate c.candidate = .ok candidate ∧
      needOptional .scratchDir c.scratchDir = .ok scratchDir ∧
      needOptional .logFile c.logFile = .ok logFile ∧
      needOptional .healthLog c.healthLog = .ok healthLog ∧
      (c.requestOf seed compiler baseline candidate scratchDir logFile healthLog).accept =
        .ok s := by
  constructor
  · intro accepted
    unfold settings at accepted
    obtain ⟨seed, one, accepted⟩ := exists_of_bind accepted
    obtain ⟨compiler, two, accepted⟩ := exists_of_bind accepted
    obtain ⟨baseline, three, accepted⟩ := exists_of_bind accepted
    obtain ⟨candidate, four, accepted⟩ := exists_of_bind accepted
    obtain ⟨scratchDir, five, accepted⟩ := exists_of_bind accepted
    obtain ⟨logFile, six, accepted⟩ := exists_of_bind accepted
    obtain ⟨healthLog, seven, accepted⟩ := exists_of_bind accepted
    refine ⟨seed, compiler, baseline, candidate, scratchDir, logFile, healthLog, one, two, three,
      four, five, six, seven, ?_⟩
    dsimp only at accepted
    split at accepted
    · rename_i made
      cases accepted
      exact made
    · cases accepted
  · rintro ⟨seed, compiler, baseline, candidate, scratchDir, logFile, healthLog, one, two, three,
      four, five, six, seven, accepted⟩
    unfold settings
    rw [one, two, three, four, five, six, seven]
    dsimp only [bind, Except.bind]
    split
    · rename_i made
      cases made.symm.trans accepted
      rfl
    · rename_i refused
      cases refused.symm.trans accepted

end Configuration

namespace Arguments

open Configuration

/-- Arguments make settings when their configuration does. -/
theorem settings_eq_ok_iff_configuration {a : Arguments} {s : RunSettings} :
    a.settings = .ok s ↔ ∃ c, a.configuration = .ok c ∧ c.settings = .ok s := by
  constructor
  · exact exists_of_bind
  · rintro ⟨c, configured, accepted⟩
    rw [settings, configured]
    exact accepted

/-- A command line does not name the variants. -/
theorem names_of_settings {a : Arguments} {s : RunSettings} (accepted : a.settings = .ok s) :
    s.execution.baseline.name = "baseline" ∧ s.execution.candidate.name = "candidate" := by
  obtain ⟨c, _, accepted⟩ := settings_eq_ok_iff_configuration.mp accepted
  obtain ⟨_, _, _, _, _, _, _, _, _, _, _, _, _, _, made⟩ := settings_eq_ok_iff.mp accepted
  rw [RunRequest.execution_of_accept made]
  exact ⟨rfl, rfl⟩

theorem configuration_of_workers {a : Arguments} {n : Int} (given : a.workers = .value n)
    (positive : 1 ≤ n) : a.configuration = .ok (a.withWorkers n) := by
  rw [configuration, given, needWorkers, if_neg (Int.not_lt.mpr positive)]
  rfl

/-- The chosen settings are made, if there are workers and no value is the separator. -/
theorem exists_isFor (positive : 1 ≤ workersOf cs) (plain : Plain cs) :
    ∃ s, (arguments cs).settings = .ok s ∧ s.IsFor cs := by
  have text (key : OptionKey) (o : TextOption) (substitute : String) :=
    (need_text key substitute (last? (text? o) cs)).trans (if_neg (plain o))
  have path (key : OptionKey) (o : TextOption) :=
    (needOptional_path key (last? (text? o) cs)).trans (if_neg (plain o))
  let chosen := (arguments cs).withWorkers (workersOf cs)
  let request := chosen.requestOf (last? seed? cs)
    ((last? (text? .compiler) cs).getD "rustc") ((last? (text? .baseline) cs).getD "+nightly")
    ((last? (text? .candidate) cs).getD "+stage1") ((last? (text? .scratchDir) cs).map Path.ofText)
    ((last? (text? .logFile) cs).map Path.ofText) ((last? (text? .healthLog) cs).map Path.ofText)
  have valid : request.execution.Valid :=
    ⟨ExecutionSettings.valid_default.crashCode_distinct,
      ExecutionSettings.valid_default.names_distinct⟩
  obtain ⟨s, accepted, workers, seed, halt, generation, execution, logFile, healthLog⟩ :=
    RunRequest.accept_of_workers (r := request) rfl valid positive
  have made : chosen.settings = .ok s := settings_eq_ok_iff.mpr ⟨_, _, _, _, _, _, _,
    needOptional_value _ _, text _ .compiler _, text _ .baseline _, text _ .candidate _,
    path _ .scratchDir, path _ .logFile, path _ .healthLog, accepted⟩
  exact ⟨s, settings_eq_ok_iff_configuration.mpr
    ⟨chosen, configuration_of_workers rfl positive, made⟩,
    ⟨workers, seed, halt, generation, execution, logFile, healthLog⟩⟩

/-- They are not made otherwise. -/
theorem plain_of_settings {s : RunSettings} (accepted : (arguments cs).settings = .ok s) :
    Plain cs := by
  obtain ⟨c, configured, accepted⟩ := settings_eq_ok_iff_configuration.mp accepted
  obtain ⟨workers, _, rfl⟩ : ∃ workers, needWorkers (arguments cs).workers = .ok workers ∧
      (arguments cs).withWorkers workers = c := by
    unfold configuration at configured
    cases needed : needWorkers (arguments cs).workers with
    | error e =>
      rw [needed] at configured
      cases configured
    | ok workers =>
      rw [needed] at configured
      exact ⟨workers, rfl, Except.ok.inj configured⟩
  obtain ⟨_, _, _, _, _, _, _, _, compiler, baseline, candidate, scratchDir, logFile, healthLog,
    _⟩ := settings_eq_ok_iff.mp accepted
  have text (key : OptionKey) (o : TextOption) (substitute value : String)
      (needed : need key ((last? (text? o) cs).elim (.value substitute) (givenText id)) =
        .ok value) : last? (text? o) cs ≠ some "--" := by
    intro separator
    rw [need_text, if_pos separator] at needed
    cases needed
  have path (key : OptionKey) (o : TextOption) (value : Option Path)
      (needed : needOptional key ((last? (text? o) cs).map (givenText Path.ofText)) = .ok value) :
      last? (text? o) cs ≠ some "--" := by
    intro separator
    rw [needOptional_path, if_pos separator] at needed
    cases needed
  intro o
  cases o with
  | compiler => exact text _ _ _ _ compiler
  | baseline => exact text _ _ _ _ baseline
  | candidate => exact text _ _ _ _ candidate
  | scratchDir => exact path _ _ _ scratchDir
  | logFile => exact path _ _ _ logFile
  | healthLog => exact path _ _ _ healthLog

/-- Fewer than one worker are refused, whatever else is chosen. -/
theorem settings_of_few_workers (few : workersOf cs < 1) :
    (arguments cs).settings = .error (.refused (.workers (workersOf cs))) := by
  have refused : (arguments cs).configuration = .error (.refused (.workers (workersOf cs))) := by
    rw [configuration, arguments, needWorkers, if_pos few]
    rfl
  rw [settings, refused]
  rfl

/-- Without a count of workers that is positive, a session ends with a complaint. -/
theorem run_of_few_workers {input : SessionInput} (few : workersOf cs < 1)
    (read : CommandLine.parse input.argv = .ok (.run (arguments cs))) (h : Host) :
    Session.run input h =
      Session.complain (SettingsError.workers (workersOf cs)).message h := by
  rw [Session.run, Session.setUp, read]
  dsimp only
  rw [settings_of_few_workers few]

end Arguments

/-! ## From the words to the settings -/

/-- The words that write choices are read as these. If the count of workers is positive, the chosen
settings are made, except that there are none when the separator is the last value of an option. If
it is not, the session ends with a complaint, whatever else is chosen. -/
theorem isFor_of_writes (written : WritesAll cs argv) (readable : ∀ c ∈ cs, c.Readable) :
    ∃ a, CommandLine.parse argv = .ok (.run a) ∧ (a.verbose = true ↔ .flag .verbose ∈ cs) ∧
      (1 ≤ workersOf cs →
        (Plain cs → ∃ s, a.settings = .ok s ∧ s.IsFor cs) ∧ ∀ s, a.settings = .ok s → Plain cs) ∧
      (workersOf cs < 1 → ∀ (input : SessionInput) (h : Host), input.argv = argv →
        Session.run input h =
          Session.complain (SettingsError.workers (workersOf cs)).message h) := by
  have read := CommandLine.parse_of_writes written readable
  refine ⟨arguments cs, read, decide_eq_true_iff, fun positive =>
    ⟨Arguments.exists_isFor positive, fun s => Arguments.plain_of_settings⟩, ?_⟩
  rintro few input h rfl
  exact Arguments.run_of_few_workers few read h

/-- Words that give some options twice, with names in full and shortened. -/
theorem settings_of_mixed_words : ∃ a s,
    CommandLine.parse ["--workers=2", "--comp", "a b", "--see", "-7", "--par", "--log-file=x//y",
      "-v", "--work", "3", "--compiler=-c"] = .ok (.run a) ∧
    a.settings = .ok s ∧ (s.workers : Int) = 3 ∧ s.seed = some (-7) ∧
    s.execution.compiler = "-c" ∧ s.execution.parallel = true ∧
    s.logFile = some (Path.ofText "x//y") ∧ a.verbose = true := by
  let cs : List Choice := [.workers 2, .text .compiler "a b", .seed (-7), .flag .parallelVariants,
    .text .logFile "x//y", .flag .verbose, .workers 3, .text .compiler "-c"]
  have two : Writes (.workers 2) ["--workers=2"] :=
    @Writes.joined (.workers 2) "--workers" _ rfl (OptionKey.isName_long .workers)
  have blank : Writes (.text .compiler "a b") ["--comp", "a b"] :=
    .apart rfl (by decide) (by decide)
  have seed : Writes (.seed (-7)) ["--see", "-7"] := .apart rfl (by decide) trivial
  have parallel : Writes (.flag .parallelVariants) ["--par"] := .flag (by decide)
  have log : Writes (.text .logFile "x//y") ["--log-file=x//y"] :=
    @Writes.joined (.text .logFile _) "--log-file" _ rfl (OptionKey.isName_long .logFile)
  have three : Writes (.workers 3) ["--work", "3"] := .apart rfl (by decide) trivial
  have minus : Writes (.text .compiler "-c") ["--compiler=-c"] :=
    @Writes.joined (.text .compiler _) "--compiler" _ rfl (OptionKey.isName_long .compiler)
  have written : WritesAll cs ["--workers=2", "--comp", "a b", "--see", "-7", "--par",
      "--log-file=x//y", "-v", "--work", "3", "--compiler=-c"] :=
    ⟨_, .cons two <| .cons blank <| .cons seed <| .cons parallel <| .cons log <| .cons .letter <|
      .cons three <| .cons minus .nil, rfl⟩
  have plain : Plain cs := by
    intro o
    cases o <;> decide
  obtain ⟨a, read, verbose, made, _⟩ := isFor_of_writes written (by decide)
  obtain ⟨s, accepted, chosen⟩ := (made (by decide)).1 plain
  exact ⟨a, s, read, accepted, chosen.workers, chosen.seed,
    congrArg ExecutionSettings.compiler chosen.execution,
    congrArg ExecutionSettings.parallel chosen.execution, chosen.logFile, verbose.mpr (by decide)⟩

/-- The separator is written as the compiler. It is not the compiler of the configuration, which is
left without any, and so there are no settings with this choice. -/
theorem settings_ne_ok_of_separator :
    WritesAll [.text .compiler "--"] ["--compiler=--"] ∧
      (∀ c ∈ [Choice.text .compiler "--"], c.Readable) ∧
      1 ≤ workersOf [.text .compiler "--"] ∧
      CommandLine.parse ["--compiler=--"] = .ok (.run { compiler := .emptied }) ∧
      (∃ c, Arguments.configuration { compiler := .emptied } = .ok c ∧ c.compiler = .emptied) ∧
      ∀ s, Arguments.settings { compiler := .emptied } ≠ .ok s := by
  have written : WritesAll [.text .compiler "--"] ["--compiler=--"] :=
    ⟨[["--compiler=--"]], .cons (@Writes.joined (.text .compiler "--") "--compiler" _ rfl
      (OptionKey.isName_long .compiler)) .nil, rfl⟩
  have emptied : arguments [.text .compiler "--"] = { compiler := .emptied } := by decide
  refine ⟨written, by decide, by decide, ?_, ⟨_, rfl, rfl⟩, fun s accepted => ?_⟩
  · rw [CommandLine.parse_of_writes written (by decide), emptied]
  · rw [← emptied] at accepted
    exact Arguments.plain_of_settings accepted .compiler (by decide)

end CrashDiff
