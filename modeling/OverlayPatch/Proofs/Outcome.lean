import OverlayPatch.Proofs.Attempts
import OverlayPatch.Proofs.LoadAddress
import OverlayPatch.Proofs.Saving

/-!
# How a run of the command ends

A run comes to the attempts of all its modules (`Attempted`) and saves the document of those that
were assembled; then it ends well, or with a report of the others, or the console does not show that
the document is saved (`Saves`). Whatever stands in the way of saving is an `Obstacle`, and a run
that meets one leaves every file as it was. One lemma for each step of the body says how the step
can end, and `body_ends` puts them together; `run_leaves` is what follows for the exit code.

The exit code of an obstacle is 2 or 3, unless an encoder breaks down with an error of the assembler
itself: that error is about no module, so there is no report and no document, but the code is 1 as
for modules that failed (`run_broken`). An address that is too wide for the document is an obstacle
even if all modules were assembled (`run_wide`).
-/

namespace OverlayPatch.Command

set_option autoImplicit false

variable {σ : Type} {console : Console} {workshop : Settings → Workshop σ}
  {environment : Environment} {tree : FileTree} {options : Options} {settings : Settings}

/-! ## Settings of a run -/

theorem ofEnvironment_facts (read : Settings.ofEnvironment environment = .ok settings) :
    settings.architecture = "arm" ∧ settings.sourcePattern = "*.s" := by
  obtain ⟨base, -, read⟩ := bind_ok read
  obtain ⟨jobs, -, read⟩ := bind_ok read
  cases read
  exact ⟨rfl, rfl⟩

/-- Neither the environment nor the options change the architecture and the pattern. -/
theorem settingsOf_facts (chosen : settingsOf environment options = .ok settings) :
    Architecture.ofName settings.architecture = .ok .arm ∧ settings.sourcePattern = "*.s" := by
  obtain ⟨base, read, chosen⟩ := bind_ok chosen
  cases read' : Settings.ofEnvironment environment with
  | error error =>
      rw [read'] at read
      cases read
  | ok same =>
      rw [read'] at read
      cases read
      cases chosen
      obtain ⟨arm, pattern⟩ := ofEnvironment_facts read'
      refine ⟨?_, pattern⟩
      change Architecture.ofName base.architecture = .ok .arm
      rw [arm]
      decide

theorem settingsOf_eq_error {trouble : Trouble}
    (failed : settingsOf environment options = .error trouble) :
    ∃ error, Settings.ofEnvironment environment = .error error ∧
      trouble = .usage error.message := by
  unfold settingsOf at failed
  cases read : Settings.ofEnvironment environment with
  | error error =>
      rw [read] at failed
      cases failed
      exact ⟨error, rfl, rfl⟩
  | ok base =>
      rw [read] at failed
      cases failed

theorem settingsOf_ne_ok {error : Number.LiteralError}
    (unread : Settings.ofEnvironment environment = .error error) :
    settingsOf environment options ≠ .ok settings := by
  intro chosen
  simp only [settingsOf, unread] at chosen
  cases chosen

/-- The pattern of the settings can always be searched for. -/
theorem files_default (tree : FileTree) (directory : Path) :
    ∃ found, Glob.files tree "*.s" directory = .ok found := by
  have read : Glob.read "*.s" = .ok [.deep, .wild [.any, .plain '.', .plain 's']] := by cbv
  unfold Glob.files
  rw [read]
  simp only [bind, Except.bind, pure, Except.pure]
  split
  · exact ⟨_, rfl⟩
  · exact ⟨_, rfl⟩

/-! ## Obstacles -/

/-- The sources of a run and what the attempt at each of them came to. -/
structure Attempted (workshop : Settings → Workshop σ) (environment : Environment)
    (tree : FileTree) (options : Options) (settings : Settings)
    (outcomes : List (Path × ModuleOutcome)) : Prop where
  chosen : settingsOf environment options = .ok settings
  found : Glob.files tree settings.sourcePattern options.source = .ok (outcomes.map Prod.fst)
  each : ∀ item ∈ outcomes,
    Batch.attempt (workshop settings) tree settings options.overlays item.1 = .ok item.2

/-- Settings, sources and attempts are determined. -/
theorem Attempted.unique {settings' : Settings} {outcomes outcomes' : List (Path × ModuleOutcome)}
    (first : Attempted workshop environment tree options settings outcomes)
    (second : Attempted workshop environment tree options settings' outcomes') :
    settings = settings' ∧ outcomes = outcomes' := by
  obtain rfl : settings = settings' := Except.ok.inj (first.chosen.symm.trans second.chosen)
  have sources := Except.ok.inj (first.found.symm.trans second.found)
  have attempts : ∀ {outcomes : List (Path × ModuleOutcome)},
      Attempted workshop environment tree options settings outcomes →
      outcomes.map (fun item => (item.1, (Except.ok item.2 : Except Failure ModuleOutcome))) =
        (outcomes.map Prod.fst).map fun source =>
          (source, Batch.attempt (workshop settings) tree settings options.overlays source) := by
    intro outcomes attempted
    rw [List.map_map]
    exact List.map_congr_left fun item member => by simp [attempted.each item member]
  refine ⟨rfl, List.map_injective_iff.mpr ?_ ((attempts first).trans ?_)⟩
  · rintro ⟨source, outcome⟩ ⟨source', outcome'⟩ same
    simpa using same
  · rw [sources, attempts second]

/-- A module of the run that could be read. -/
structure Loads (environment : Environment) (tree : FileTree) (options : Options)
    (settings : Settings) (file : SourceFile) : Prop where
  chosen : settingsOf environment options = .ok settings
  loaded : ∃ found source, Glob.files tree settings.sourcePattern options.source = .ok found ∧
    source ∈ found ∧ SourceFile.load tree settings source options.overlays = .ok file

def shownText (messages : List String) : String :=
  String.join (messages.map echo)

/-- The console does not show a message behind others. -/
def Console.Refuses (console : Console) (before : List String) (message : String)
    (problem : ConsoleProblem) : Prop :=
  console.refusal? (shownText before) (echo message) = some problem

/-- What keeps a run from writing its document, and the trouble it ends with. -/
inductive Obstacle (console : Console) (workshop : Settings → Workshop σ)
    (environment : Environment) (tree : FileTree) (options : Options) : Trouble → Prop where
  /-- The environment holds no number where one is due. -/
  | configuration {error : Number.LiteralError}
      (unread : Settings.ofEnvironment environment = .error error) :
      Obstacle console workshop environment tree options (.usage error.message)
  /-- The console does not show the settings that a talkative run starts with. -/
  | console {settings : Settings} {before after : List String} {message : String}
      {problem : ConsoleProblem} (verbose : options.verbose = true)
      (chosen : settingsOf environment options = .ok settings)
      (split : preamble settings = before ++ message :: after)
      (refused : console.Refuses before message problem) :
      Obstacle console workshop environment tree options (.ofConsole problem)
  /-- No encoder can be had. -/
  | encoder {settings : Settings} {file : SourceFile} {failure : Failure}
      (loads : Loads environment tree options settings file)
      (none : (workshop settings).fresh = .error failure)
      (notFault : ∀ fault, failure ≠ .fault fault) :
      Obstacle console workshop environment tree options (.ofFailure failure)
  /-- The encoder breaks down. -/
  | crash {settings : Settings} {file : SourceFile} {state : σ} {breakdown : Breakdown}
      (loads : Loads environment tree options settings file)
      (fresh : (workshop settings).fresh = .ok state)
      (broke : (workshop settings).encoder.Fails (.crash breakdown))
      (ran : ((assembleSource (workshop settings).encoder settings none file.name file.text
        file.start).run { state }).1 = .error (.crash breakdown)) :
      Obstacle console workshop environment tree options (.ofFailure (.crash breakdown))
  /-- The output cannot be opened. -/
  | output {settings : Settings} {outcomes : List (Path × ModuleOutcome)}
      {problem : FileTree.PathProblem}
      (attempted : Attempted workshop environment tree options settings outcomes)
      (refused : tree.Refuses options.output problem) :
      Obstacle console workshop environment tree options (.ofProblem problem)
  /-- Modules were assembled, but the load address has too many digits to be written. -/
  | address {settings : Settings} {outcomes : List (Path × ModuleOutcome)}
      {error : Number.LiteralError}
      (attempted : Attempted workshop environment tree options settings outcomes)
      (some : Batch.patches outcomes ≠ [])
      (long : 10 ^ Number.decimalLimit ≤ settings.base.natAbs)
      (refused : (Batch.gather outcomes).document.write = .error error) :
      Obstacle console workshop environment tree options (.usage error.message)

/-- An encoder of the run, or the making of one, breaks down with an error of the assembler that is
about no module. -/
def BreaksAssembler (workshop : Settings → Workshop σ) (environment : Environment)
    (options : Options) : Prop :=
  ∃ settings message, settingsOf environment options = .ok settings ∧
    ((workshop settings).fresh = .error (.crash (.assembler message)) ∨
      (workshop settings).encoder.Fails (.crash (.assembler message)))

theorem exitCode_ofConsole (problem : ConsoleProblem) :
    (Trouble.ofConsole problem).exitCode = .invalidArguments := by
  cases problem <;> rfl

/-- Of the failures that are no faults, only an error of the assembler counts as one of the
modules. -/
theorem exitCode_ofFailure {failure : Failure} (notFault : ∀ fault, failure ≠ .fault fault) :
    (Trouble.ofFailure failure).exitCode ∈ [.invalidArguments, .internalError] ∨
      ∃ message, failure = .crash (.assembler message) := by
  cases failure with
  | fault fault => exact absurd rfl (notFault fault)
  | crash breakdown => cases breakdown <;> simp [Trouble.ofFailure, Trouble.exitCode]
  | _ => simp [Trouble.ofFailure, Trouble.exitCode]

/-- Only an error of the assembler itself makes an obstacle look like modules that failed. -/
theorem Obstacle.exitCode {trouble : Trouble}
    (obstacle : Obstacle console workshop environment tree options trouble) :
    trouble.exitCode ∈ [.invalidArguments, .internalError] ∨
      trouble.exitCode = .buildError ∧ BreaksAssembler workshop environment options := by
  cases obstacle with
  | console _ _ _ _ => exact .inl (by simp [exitCode_ofConsole])
  | encoder loads none notFault =>
      refine (exitCode_ofFailure notFault).imp_right ?_
      rintro ⟨message, rfl⟩
      exact ⟨rfl, _, message, loads.chosen, .inl none⟩
  | @crash _ _ _ breakdown loads fresh broke ran =>
      have notFault : ∀ fault, Failure.crash breakdown ≠ .fault fault := nofun
      refine (exitCode_ofFailure notFault).imp_right ?_
      rintro ⟨message, same⟩
      cases same
      exact ⟨rfl, _, message, loads.chosen, .inr broke⟩
  | _ => exact .inl (by simp [Trouble.ofProblem, Trouble.exitCode])

theorem obstacle_of_attempt {source : Path} {found : List Path} {failure : Failure}
    (chosen : settingsOf environment options = .ok settings)
    (globbed : Glob.files tree settings.sourcePattern options.source = .ok found)
    (member : source ∈ found)
    (failed : Batch.attempt (workshop settings) tree settings options.overlays source =
      .error failure) :
    Obstacle console workshop environment tree options (.ofFailure failure) := by
  obtain ⟨file, loaded, here⟩ := Batch.attempt_eq_error (settingsOf_facts chosen).1 failed
  have loads : Loads environment tree options settings file :=
    ⟨chosen, found, source, globbed, member, loaded⟩
  rcases here with ⟨none, notFault⟩ | ⟨state, breakdown, fresh, rfl, broke, ran⟩
  · exact .encoder loads none notFault
  · exact .crash loads fresh broke ran

theorem Attempted.of_loads {outcomes : List (Path × ModuleOutcome)} {settings' : Settings}
    {file : SourceFile}
    (attempted : Attempted workshop environment tree options settings outcomes)
    (loads : Loads environment tree options settings' file) :
    settings' = settings ∧ ∃ source outcome,
      SourceFile.load tree settings source options.overlays = .ok file ∧
      Batch.attempt (workshop settings) tree settings options.overlays source = .ok outcome := by
  obtain ⟨chosen, found, source, globbed, member, loaded⟩ := loads
  obtain rfl : settings' = settings := Except.ok.inj (chosen.symm.trans attempted.chosen)
  rw [attempted.found] at globbed
  obtain rfl := Except.ok.inj globbed
  obtain ⟨item, listed, rfl⟩ := List.mem_map.mp member
  exact ⟨rfl, item.1, item.2, loaded, attempted.each item listed⟩

/-- Without an encoder no module that can be read is attempted. -/
theorem not_attempted_of_fresh {file : SourceFile} {failure : Failure} {settings' : Settings}
    {outcomes : List (Path × ModuleOutcome)}
    (loads : Loads environment tree options settings file)
    (none : (workshop settings).fresh = .error failure)
    (notFault : ∀ fault, failure ≠ .fault fault) :
    ¬ Attempted workshop environment tree options settings' outcomes := by
  intro attempted
  obtain ⟨rfl, source, outcome, loaded, here⟩ := attempted.of_loads loads
  simp only [Batch.attempt, loaded, none] at here
  rw [Batch.keep_eq_error.mpr ⟨rfl, notFault⟩] at here
  cases here

/-- Where all modules could be attempted, only the console stands in the way of a talkative run, the
output, or the width of the load address. -/
theorem Attempted.obstacle_cases {outcomes : List (Path × ModuleOutcome)} {trouble : Trouble}
    (attempted : Attempted workshop environment tree options settings outcomes)
    (obstacle : Obstacle console workshop environment tree options trouble) :
    options.verbose = true ∨ (∃ problem, tree.Refuses options.output problem) ∨
      ¬ Document.Short settings.base := by
  cases obstacle with
  | configuration unread => exact absurd attempted.chosen (settingsOf_ne_ok unread)
  | console verbose chosen split refused => exact .inl verbose
  | encoder loads none notFault =>
      exact absurd attempted (not_attempted_of_fresh loads none notFault)
  | crash loads fresh broke ran =>
      obtain ⟨rfl, source, outcome, loaded, here⟩ := attempted.of_loads loads
      simp only [Batch.attempt, loaded, fresh, Batch.alone, ran] at here
      cases here
  | output again refused => exact .inr (.inl ⟨_, refused⟩)
  | address again some long refused =>
      obtain ⟨rfl, -⟩ := attempted.unique again
      exact .inr (.inr (Nat.not_lt.mpr long))

/-! ## Steps -/

namespace Step

variable {outcome : Outcome}

/-- A message is shown, or the console refuses it and nothing has changed. -/
theorem say_ends (console : Console) (message : String) (outcome : Outcome) :
    (say console message).Ends outcome
      (fun _ later => later = { outcome with stdout := outcome.stdout ++ echo message })
      (fun trouble later => later = outcome ∧
        ∃ problem, console.refusal? outcome.stdout (echo message) = some problem ∧
          trouble = .ofConsole problem) := by
  unfold ExceptT.Ends
  cases refused : console.refusal? outcome.stdout (echo message) with
  | some problem =>
      have ran : (say console message).run outcome = (.error (.ofConsole problem), outcome) := by
        simp only [say, ExceptT.run, refused]
      rw [ran]
      exact ⟨rfl, problem, rfl, rfl⟩
  | none =>
      have ran : (say console message).run outcome =
          (.ok (), { outcome with stdout := outcome.stdout ++ echo message }) := by
        simp only [say, ExceptT.run, refused]
      rw [ran]

/-- Messages are shown one after the other, up to the first that the console refuses. -/
theorem forM_say_ends (console : Console) (messages : List String) (outcome : Outcome) :
    (messages.forM (say console)).Ends outcome
      (fun _ later => later = { outcome with stdout := outcome.stdout ++ shownText messages })
      (fun trouble later => later.tree = outcome.tree ∧ ∃ before message after problem,
        messages = before ++ message :: after ∧
        console.refusal? (outcome.stdout ++ shownText before) (echo message) = some problem ∧
        trouble = .ofConsole problem) := by
  induction messages generalizing outcome with
  | nil =>
      refine ExceptT.ends_pure ?_
      simp [shownText]
  | cons message messages ih =>
      refine ExceptT.ends_bind ((say_ends console message outcome).mono ?_ ?_)
      · rintro - _ rfl
        refine (ih _).mono ?_ ?_
        · rintro - _ rfl
          simp [shownText, String.append_assoc]
        · rintro trouble later ⟨same, before, other, after, problem, rfl, refused, rfl⟩
          refine ⟨same, message :: before, other, after, problem, rfl, ?_, rfl⟩
          simpa [shownText, String.append_assoc] using refused
      · rintro trouble later ⟨rfl, problem, refused, rfl⟩
        refine ⟨rfl, [], message, messages, problem, rfl, ?_, rfl⟩
        simpa [shownText] using refused

/-- What a run has shown when it has said what it says. -/
def spoken (verbose : Bool) (messages : List String) : List String :=
  if verbose then messages else []

/-- A silent run goes on; a talkative one does if the console shows what is said. -/
theorem talk_ends (console : Console) (verbose : Bool) (messages : List String)
    (outcome : Outcome) :
    (talk console verbose messages).Ends outcome
      (fun _ later =>
        later = { outcome with stdout := outcome.stdout ++ shownText (spoken verbose messages) })
      (fun trouble later => later.tree = outcome.tree ∧ verbose = true ∧
        ∃ before message after problem, messages = before ++ message :: after ∧
          console.refusal? (outcome.stdout ++ shownText before) (echo message) = some problem ∧
          trouble = .ofConsole problem) := by
  unfold talk
  split
  · rename_i verbose
    refine (forM_say_ends console messages outcome).mono ?_ fun _ _ refused =>
      ⟨refused.1, verbose, refused.2⟩
    rintro - _ rfl
    simp [spoken, verbose]
  · rename_i silent
    refine ExceptT.ends_pure ?_
    simp [spoken, silent, shownText]

/-- Assembling gives what the batch comes to and leaves the files alone. -/
theorem assemble_ends (workshop : Workshop σ) (settings : Settings) (options : Options)
    (outcome : Outcome) :
    let come := Batch.combined workshop outcome.tree settings options.source options.overlays
    (assemble workshop settings options).Ends outcome
      (fun result later => come = .ok result ∧ ∃ stderr, later = { outcome with stderr })
      (fun trouble later => later.tree = outcome.tree ∧
        ∃ failure, come = .error failure ∧ trouble = .ofFailure failure) := by
  intro come
  have gives := Batch.assembleDirectory_gives workshop outcome.tree settings options.source
    options.overlays {}
  change _ = come at gives
  have ran : (assemble workshop settings options).run outcome =
      (((Batch.assembleDirectory workshop outcome.tree settings options.source
        options.overlays).run {}).1.mapError .ofFailure, _) := rfl
  unfold ExceptT.Ends
  rw [ran, gives]
  rcases come with failure | result
  · exact ⟨rfl, failure, rfl, rfl⟩
  · exact ⟨rfl, _, rfl⟩

/-- The document is stored, or no file has changed. -/
theorem store_ends (document : Document) (options : Options) (outcome : Outcome) :
    (store document options).Ends outcome
      (fun _ later => ∃ text tree, document.write = .ok text ∧
        outcome.tree.Rewrites options.output (Text.Utf8.encode text) tree ∧
        later = { outcome with tree })
      (fun trouble later => outcome.tree.Grows later.tree ∧
        ((∃ error, document.write = .error error ∧ trouble = .usage error.message) ∨
          ∃ problem, outcome.tree.Refuses options.output problem ∧
            trouble = .ofProblem problem)) := by
  unfold ExceptT.Ends store ExceptT.run
  rcases save_cases document options.output outcome.tree with
    ⟨text, later, shown, saved, rewrites⟩ | ⟨error, later, shown, saved, grows⟩ |
      ⟨problem, later, refused, saved, grows⟩
  · simp only [saved]
    exact ⟨text, later, shown, rewrites, rfl⟩
  · simp only [saved]
    exact ⟨grows, .inl ⟨error, shown, rfl⟩⟩
  · simp only [saved]
    exact ⟨grows, .inr ⟨problem, refused, rfl⟩⟩

end Step

/-! ## The end of a run -/

/-- The output is the document of the modules that were assembled, and no other file has changed. -/
def Saved (tree : FileTree) (options : Options) (outcomes : List (Path × ModuleOutcome))
    (later : FileTree) : Prop :=
  ∃ text, Document.write { patches := Batch.patches outcomes } = .ok text ∧
    tree.Rewrites options.output (Text.Utf8.encode text) later

/-- The console does not show that the document is saved, as a talkative run says at last. -/
def Unsaid (console : Console) (options : Options) (settings : Settings)
    (outcomes : List (Path × ModuleOutcome)) (problem : ConsoleProblem) : Prop :=
  options.verbose = true ∧
    console.Refuses (preamble settings) (closing options { patches := Batch.patches outcomes })
      problem

theorem obstacle_of_store {outcomes : List (Path × ModuleOutcome)} {trouble : Trouble}
    (attempted : Attempted workshop environment tree options settings outcomes)
    (why : (∃ error, (Batch.gather outcomes).document.write = .error error ∧
        trouble = .usage error.message) ∨
      ∃ problem, tree.Refuses options.output problem ∧ trouble = .ofProblem problem) :
    Obstacle console workshop environment tree options trouble := by
  rcases why with ⟨error, refused, rfl⟩ | ⟨problem, refused, rfl⟩
  · have unwritten : ¬ ∃ text, (Batch.gather outcomes).document.write = .ok text := by
      simp [refused]
    rw [Batch.exists_write_iff attempted.each, not_or] at unwritten
    exact .address attempted unwritten.1 (Nat.le_of_not_lt unwritten.2) refused
  · exact .output attempted refused

/-- A batch of the run comes to the attempts of all modules, or to an obstacle. -/
theorem combined_cases (console : Console) (workshop : Settings → Workshop σ) (tree : FileTree)
    (chosen : settingsOf environment options = .ok settings) :
    let come := Batch.combined (workshop settings) tree settings options.source options.overlays
    (∀ result, come = .ok result → ∃ outcomes, result = Batch.gather outcomes ∧
      Attempted workshop environment tree options settings outcomes) ∧
    ∀ failure, come = .error failure →
      Obstacle console workshop environment tree options (.ofFailure failure) := by
  intro come
  obtain ⟨arm, pattern⟩ := settingsOf_facts chosen
  obtain ⟨found, globbed⟩ := files_default tree options.source
  rw [← pattern] at globbed
  rcases Batch.combined_cases (workshop settings) arm options.overlays globbed with
    ⟨outcomes, gathered, rfl, each⟩ | ⟨source, member, failure, broke, failed⟩
  · change come = _ at gathered
    rw [gathered]
    refine ⟨fun result same => ⟨outcomes, (Except.ok.inj same).symm, chosen, globbed, each⟩, nofun⟩
  · change come = _ at broke
    rw [broke]
    refine ⟨nofun, fun failure same => ?_⟩
    cases same
    exact obstacle_of_attempt chosen globbed member failed

/-- The body of a run attempts all modules, saves their document and says so; or it ends with an
obstacle before, and no file has changed. -/
theorem body_ends (console : Console) (workshop : Settings → Workshop σ)
    (environment : Environment) (tree : FileTree) (options : Options) :
    (Step.body console workshop environment options).Ends { exitCode := .success, tree }
      (fun result later => later.exitCode = .success ∧ ∃ settings outcomes,
        Attempted workshop environment tree options settings outcomes ∧
        result = Batch.gather outcomes ∧ Saved tree options outcomes later.tree)
      (fun trouble later =>
        (Obstacle console workshop environment tree options trouble ∧ tree.Grows later.tree) ∨
        ∃ settings outcomes problem,
          Attempted workshop environment tree options settings outcomes ∧
          Saved tree options outcomes later.tree ∧
          Unsaid console options settings outcomes problem ∧ trouble = .ofConsole problem) := by
  unfold Step.body
  refine ExceptT.ends_bind (ExceptT.ends_mk_pure (fun settings chosen => ?chosen) ?unread)
  case unread =>
    intro trouble failed
    obtain ⟨error, unread, rfl⟩ := settingsOf_eq_error failed
    exact .inl ⟨.configuration unread, .refl tree⟩
  obtain ⟨attempts, broken⟩ := combined_cases console workshop tree chosen
  refine ExceptT.ends_bind ((Step.talk_ends console _ _ _).mono ?spoken ?refused)
  case refused =>
    rintro trouble later ⟨same, verbose, before, message, after, problem, split, refused, rfl⟩
    refine .inl ⟨.console verbose chosen split ?_, same ▸ .refl tree⟩
    simpa [Console.Refuses] using refused
  rintro - _ rfl
  refine ExceptT.ends_bind ((Step.assemble_ends _ _ _ _).mono ?assembled ?broke)
  case broke =>
    rintro trouble later ⟨same, failure, broke, rfl⟩
    exact .inl ⟨broken failure broke, same ▸ .refl tree⟩
  rintro result _ ⟨come, stderr, rfl⟩
  obtain ⟨outcomes, rfl, attempted⟩ := attempts result come
  refine ExceptT.ends_bind ((Step.store_ends _ _ _).mono ?stored ?unstored)
  case unstored =>
    rintro trouble later ⟨grows, why⟩
    exact .inl ⟨obstacle_of_store attempted why, grows⟩
  rintro - _ ⟨text, later, written, rewrites, rfl⟩
  have saved : Saved tree options outcomes later := ⟨text, written, rewrites⟩
  refine ExceptT.ends_bind ((Step.talk_ends console _ _ _).mono ?said ?unsaid)
  case unsaid =>
    rintro trouble last ⟨same, verbose, before, message, after, problem, split, refused, rfl⟩
    cases before with
    | cons first before => simp at split
    | nil =>
        cases split
        refine .inr ⟨settings, outcomes, problem, attempted, same ▸ saved, ⟨verbose, ?_⟩, rfl⟩
        simpa [Console.Refuses, Step.spoken, verbose, shownText, Batch.gather] using refused
  rintro - _ rfl
  exact ExceptT.ends_pure ⟨rfl, settings, outcomes, attempted, rfl, saved⟩

/-- The document of the modules that were assembled is saved, and the exit code tells whether any
others are reported. -/
structure Saves (console : Console) (tree : FileTree) (options : Options) (settings : Settings)
    (outcomes : List (Path × ModuleOutcome)) (outcome : Outcome) : Prop where
  saved : Saved tree options outcomes outcome.tree
  ends : (outcome.exitCode = .success ∧ ∀ item ∈ outcomes, ∃ patch, item.2 = .ok patch) ∨
    (outcome.exitCode = .buildError ∧ (∃ item ∈ outcomes, ∃ fault, item.2 = .error fault) ∧
      ∃ shown, outcome.stderr = shown ++ echo (Batch.gather outcomes).report.text) ∨
    (outcome.exitCode = .invalidArguments ∧
      ∃ problem, Unsaid console options settings outcomes problem)

/-- Behind the body the exit code tells whether modules failed. -/
theorem conclude_saves {outcomes : List (Path × ModuleOutcome)} {outcome : Outcome}
    (fine : outcome.exitCode = .success) (saved : Saved tree options outcomes outcome.tree) :
    Saves console tree options settings outcomes (conclude (Batch.gather outcomes) outcome) := by
  unfold conclude
  cases ok : (Batch.gather outcomes).ok with
  | true => exact ⟨saved, .inl ⟨fine, (Batch.ok_gather_iff outcomes).mp ok⟩⟩
  | false => exact ⟨saved, .inr (.inl ⟨rfl, Batch.exists_error_of_not_ok ok, _, rfl⟩)⟩

/-- A run saves its document, or it meets an obstacle and changes no file. -/
theorem execute_cases (console : Console) (workshop : Settings → Workshop σ)
    (environment : Environment) (tree : FileTree) (options : Options) :
    let outcome := execute console workshop environment tree options
    (∃ settings outcomes, Attempted workshop environment tree options settings outcomes ∧
      Saves console tree options settings outcomes outcome) ∨
    ∃ trouble, Obstacle console workshop environment tree options trouble ∧
      outcome.exitCode = trouble.exitCode ∧ tree.Grows outcome.tree := by
  intro outcome
  rcases (body_ends console workshop environment tree options).cases with
    ⟨result, later, ran, fine, settings, outcomes, attempted, rfl, saved⟩ |
      ⟨trouble, later, ran, ⟨obstacle, grows⟩ |
        ⟨settings, outcomes, problem, attempted, saved, unsaid, rfl⟩⟩
  · have ended : outcome = conclude (Batch.gather outcomes) later := by
      simp only [outcome, execute, ran]
    exact .inl ⟨settings, outcomes, attempted, ended ▸ conclude_saves fine saved⟩
  · have ended : outcome = fail console options.verbose trouble later := by
      simp only [outcome, execute, ran]
    rw [ended]
    exact .inr ⟨trouble, obstacle, rfl, grows⟩
  · have ended : outcome = fail console options.verbose (.ofConsole problem) later := by
      simp only [outcome, execute, ran]
    rw [ended]
    exact .inl ⟨settings, outcomes, attempted, saved,
      .inr (.inr ⟨exitCode_ofConsole problem, problem, unsaid⟩)⟩

theorem run_eq_execute {arguments : List String}
    (asked : Request.ofArguments tree arguments = .ok (.run options)) :
    run console workshop environment tree arguments =
      execute console workshop environment tree options := by
  simp only [run, asked]

/-- A run of the command writes the document of the modules that were assembled, with exit code 0 if
those are all and with exit code 1 and a report if they are not, unless it is talkative and the
console does not show that the document is saved: then the exit code is 2. Or it meets an obstacle
and leaves every file as it was, the output among them. Then the exit code is 2 or 3, except that it
is 1 if an encoder, or the making of one, broke down with an error of the assembler that is about no
module. -/
theorem run_leaves (console : Console) (workshop : Settings → Workshop σ)
    (environment : Environment) {tree : FileTree} {arguments : List String} {options : Options}
    (asked : Request.ofArguments tree arguments = .ok (.run options)) :
    let outcome := run console workshop environment tree arguments
    (∃ settings outcomes, Attempted workshop environment tree options settings outcomes ∧
      Saves console tree options settings outcomes outcome) ∨
    ∃ trouble, Obstacle console workshop environment tree options trouble ∧
      outcome.exitCode = trouble.exitCode ∧
      (outcome.exitCode ∈ [.invalidArguments, .internalError] ∨
        outcome.exitCode = .buildError ∧ BreaksAssembler workshop environment options) ∧
      outcome.tree.files = tree.files ∧
      ∀ data, tree.read options.output = .ok data →
        outcome.tree.read options.output = .ok data := by
  intro outcome
  have ended : outcome = execute console workshop environment tree options :=
    run_eq_execute asked
  rw [ended]
  refine (execute_cases console workshop environment tree options).imp_right ?_
  rintro ⟨trouble, obstacle, code, grows⟩
  exact ⟨trouble, obstacle, code, code ▸ obstacle.exitCode, grows.files, fun data => grows.read⟩

/-- If no encoder can be had, a silent run that could read a module leaves every file as it was, and
its exit code is that of the failure: 1 if the making of an encoder failed with an error of the
assembler, although no document is written. -/
theorem run_broken (console : Console) {arguments : List String} {file : SourceFile}
    {failure : Failure} (asked : Request.ofArguments tree arguments = .ok (.run options))
    (silent : options.verbose = false) (loads : Loads environment tree options settings file)
    (none : (workshop settings).fresh = .error failure)
    (notFault : ∀ fault, failure ≠ .fault fault) :
    let outcome := run console workshop environment tree arguments
    outcome.exitCode = (Trouble.ofFailure failure).exitCode ∧ outcome.tree.files = tree.files := by
  intro outcome
  have ended : outcome = execute console workshop environment tree options :=
    run_eq_execute asked
  rw [ended]
  rcases execute_cases console workshop environment tree options with
    ⟨settings', outcomes, attempted, -⟩ | ⟨trouble, obstacle, code, grows⟩
  · exact absurd attempted (not_attempted_of_fresh loads none notFault)
  · refine ⟨code.trans ?_, grows.files⟩
    cases obstacle with
    | configuration unread => exact absurd loads.chosen (settingsOf_ne_ok unread)
    | console verbose =>
        rw [silent] at verbose
        cases verbose
    | encoder again none' =>
        obtain rfl := Except.ok.inj (loads.chosen.symm.trans again.chosen)
        rw [none] at none'
        cases none'
        rfl
    | crash again fresh =>
        obtain rfl := Except.ok.inj (loads.chosen.symm.trans again.chosen)
        rw [none] at fresh
        cases fresh
    | output attempted => exact absurd attempted (not_attempted_of_fresh loads none notFault)
    | address attempted => exact absurd attempted (not_attempted_of_fresh loads none notFault)

/-- A workshop in which every text has the same code. -/
def steadyWorkshop (data : List UInt8) (_ : Settings) : Workshop Unit where
  encoder := .constant data
  fresh := .ok ()

theorem not_breaksAssembler_steady (data : List UInt8) (environment : Environment)
    (options : Options) : ¬ BreaksAssembler (steadyWorkshop data) environment options := by
  rintro ⟨settings, message, -, none | fails⟩
  · cases none
  · cases fails with
    | crashed answer => cases answer

def sampleOptions (base : Option Int) : Options where
  source := Batch.sampleSources
  overlays := Batch.sampleOverlays
  output := { parts := ["out.xml"] }
  base := base

def sampleArguments : List String :=
  ["-s", "src", "-l", "ov", "-o", "out.xml"]

theorem exists_patch {come : Except Failure ModuleOutcome}
    (good : come.toOption.map (·.isOk) = some true) : ∃ patch, come = .ok (.ok patch) := by
  rcases come with failure | fault | patch
  · cases good
  · cases good
  · exact ⟨patch, rfl⟩

theorem exists_fault {come : Except Failure ModuleOutcome}
    (bad : come.toOption.map (·.isOk) = some false) : ∃ fault, come = .ok (.error fault) := by
  rcases come with failure | fault | patch
  · cases bad
  · exact ⟨fault, rfl⟩
  · cases bad

/-- Of the two modules the first is at fault. -/
theorem attempted_halfGood :
    ∃ fault patch, Attempted (steadyWorkshop [0]) [] Batch.halfGood (sampleOptions none) {}
      [(Batch.sampleSources.child "bad.s", .error fault),
        (Batch.sampleSources.child "good.s", .ok patch)] := by
  have globbed : Glob.files Batch.halfGood "*.s" Batch.sampleSources =
      .ok [Batch.sampleSources.child "bad.s", Batch.sampleSources.child "good.s"] := by cbv
  obtain ⟨fault, bad⟩ : ∃ fault, Batch.attempt (steadyWorkshop [0] {}) Batch.halfGood {}
      Batch.sampleOverlays (Batch.sampleSources.child "bad.s") = .ok (.error fault) :=
    exists_fault (by decide +kernel)
  obtain ⟨patch, good⟩ : ∃ patch, Batch.attempt (steadyWorkshop [0] {}) Batch.halfGood {}
      Batch.sampleOverlays (Batch.sampleSources.child "good.s") = .ok (.ok patch) :=
    exists_patch (by decide +kernel)
  refine ⟨fault, patch, rfl, globbed, ?_⟩
  exact List.forall_mem_cons.mpr ⟨bad, List.forall_mem_singleton.mpr good⟩

theorem not_refuses_halfGood (problem : FileTree.PathProblem) :
    ¬ Batch.halfGood.Refuses (sampleOptions none).output problem := by
  have made : Batch.halfGood.ensureDirectory (sampleOptions none).output.parent =
      .ok Batch.halfGood := by cbv
  have written : ∀ data, Batch.halfGood.writeFile (sampleOptions none).output data =
      .ok { Batch.halfGood with files := Batch.halfGood.files ++ [(["out.xml"], data)] } := by
    intro data
    cbv
  intro refuses
  cases refuses with
  | directories refused =>
      rw [made] at refused
      cases refused
  | file again refused =>
      rw [made] at again
      cases again
      rw [written] at refused
      cases refused

/-- One module is at fault: the exit code is 1, and the document holds the other. -/
theorem run_leaves_halfGood :
    let outcome := run {} (steadyWorkshop [0]) [] Batch.halfGood sampleArguments
    Request.ofArguments Batch.halfGood sampleArguments = .ok (.run (sampleOptions none)) ∧
      outcome.exitCode = .buildError ∧
      ∃ patch text, Document.write { patches := [patch] } = .ok text ∧
        outcome.tree.read (sampleOptions none).output = .ok (Text.Utf8.encode text) := by
  intro outcome
  have asked : Request.ofArguments Batch.halfGood sampleArguments =
      .ok (.run (sampleOptions none)) := by decide +kernel
  obtain ⟨fault, patch, attempted⟩ := attempted_halfGood
  rcases run_leaves {} (steadyWorkshop [0]) [] asked with
    ⟨settings, outcomes, again, saves⟩ | ⟨trouble, obstacle, -⟩
  · obtain ⟨rfl, rfl⟩ := attempted.unique again
    obtain ⟨text, written, rewrites⟩ := saves.saved
    refine ⟨asked, ?_, patch, text, written, rewrites.read⟩
    rcases saves.ends with ⟨-, fine⟩ | ⟨code, -⟩ | ⟨-, problem, verbose, -⟩
    · obtain ⟨patch, same⟩ := fine _ List.mem_cons_self
      cases same
    · exact code
    · cases verbose
  · rcases attempted.obstacle_cases obstacle with verbose | ⟨problem, refused⟩ | long
    · cases verbose
    · exact absurd refused (not_refuses_halfGood problem)
    · refine absurd ?_ long
      unfold Document.Short
      decide +kernel

/-! ## A load address that is too wide -/

theorem readAddress?_hexDigits (n : Nat) :
    readAddress? (String.ofList ('0' :: 'x' :: Number.hexDigits n)) = some (n : Int) := by
  have upper : (Number.hexDigits n).map Char.toUpper = Number.hexDigits n :=
    (List.map_congr_left fun c member => (Number.hexDigits_facts member).2).trans (List.map_id' _)
  have none : Text.Blanks [] := nofun
  have address := AddressText.literal none (Number.literal_marked upper 0) none
  simpa using address.read

def lone : FileTree where
  files := [(["ov", "m.bin"], [1, 2, 3, 4]),
    (["src", "m.s"], "arepl_020C8000:\nnop\n".toUTF8.toList)]

def baseArguments (text : String) : List String :=
  ["-s", "src", "-l", "ov", "-o", "out.xml", "--base-address", text]

def baseGiven (text : String) : List Given :=
  [⟨.source, .text "src"⟩, ⟨.overlays, .text "ov"⟩, ⟨.output, .text "out.xml"⟩,
    ⟨.baseAddress, .text text⟩]

theorem applyAll_base {text : String} {n : Int} (read : readAddress? text = some n) :
    Options.applyAll lone (baseGiven text) = .ok
      { source := some Batch.sampleSources, overlays := some Batch.sampleOverlays,
        output := some { parts := ["out.xml"] }, base := some n } := by
  have source : Options.readDirectory lone "src" = .ok Batch.sampleSources := by cbv
  have overlays : Options.readDirectory lone "ov" = .ok Batch.sampleOverlays := by cbv
  have output : Options.readFile lone "out.xml" = .ok { parts := ["out.xml"] } := by cbv
  have base : Options.readBase text = .ok n := by rw [Options.readBase, read]
  have values : Options.lastValues (baseGiven text) = baseGiven text := rfl
  rw [Options.applyAll, values, baseGiven]
  simp only [List.foldlM_cons, List.foldlM_nil, Options.apply, source, overlays, output, base]
  rfl

theorem ofArguments_base {text : String} {n : Int} (read : readAddress? text = some n) :
    Request.ofArguments lone (baseArguments text) = .ok (.run (sampleOptions (some n))) := by
  have sorted : Arguments.read (baseArguments text) = .ok { given := baseGiven text } := rfl
  unfold Request.ofArguments
  rw [sorted]
  have none : Request.question? (baseGiven text) = none := rfl
  simp only [Except.mapError, bind, Except.bind, none, applyAll_base read]
  rfl

/-- A load address of 4335 decimal digits. -/
def wideBase : Nat := 16 ^ 3600

/-- The arguments with this address in hexadecimal, where no limit is set. -/
def wideArguments : List String :=
  baseArguments (String.ofList ('0' :: 'x' :: Number.hexDigits wideBase))

theorem not_short_wideBase : ¬ Document.Short wideBase := by
  unfold Document.Short
  decide +kernel

/-- The one module is assembled at this address. -/
theorem attempted_wide :
    ∃ patch, Attempted (steadyWorkshop [7, 0, 0, 0]) [] lone (sampleOptions (some wideBase))
      { base := wideBase } [(Batch.sampleSources.child "m.s", .ok patch)] := by
  have globbed : Glob.files lone "*.s" Batch.sampleSources =
      .ok [Batch.sampleSources.child "m.s"] := by cbv
  obtain ⟨patch, assembled⟩ : ∃ patch, Batch.attempt (steadyWorkshop [7, 0, 0, 0]
      { base := wideBase }) lone { base := wideBase } Batch.sampleOverlays
        (Batch.sampleSources.child "m.s") = .ok (.ok patch) :=
    exists_patch (by decide +kernel)
  refine ⟨patch, rfl, globbed, fun item member => ?_⟩
  rw [List.mem_singleton.mp member]
  exact assembled

/-- All modules are assembled, and yet no document is written. -/
theorem run_wide :
    let outcome := run {} (steadyWorkshop [7, 0, 0, 0]) [] lone wideArguments
    ∃ options settings outcomes,
      Request.ofArguments lone wideArguments = .ok (.run options) ∧
      Attempted (steadyWorkshop [7, 0, 0, 0]) [] lone options settings outcomes ∧
      (∀ item ∈ outcomes, ∃ patch, item.2 = .ok patch) ∧
      outcome.exitCode ∈ [.invalidArguments, .internalError] ∧ outcome.tree.files = lone.files := by
  intro outcome
  have asked : Request.ofArguments lone wideArguments =
      .ok (.run (sampleOptions (some wideBase))) :=
    ofArguments_base (readAddress?_hexDigits wideBase)
  have ended : outcome =
      execute {} (steadyWorkshop [7, 0, 0, 0]) [] lone (sampleOptions (some wideBase)) :=
    run_eq_execute asked
  obtain ⟨patch, attempted⟩ := attempted_wide
  refine ⟨_, _, _, asked, attempted, by simp, ?_⟩
  rw [ended]
  rcases execute_cases {} (steadyWorkshop [7, 0, 0, 0]) [] lone (sampleOptions (some wideBase)) with
    ⟨settings, outcomes, again, saves⟩ | ⟨trouble, obstacle, code, grows⟩
  · -- The one patch has the load address in it.
    obtain ⟨rfl, rfl⟩ := attempted.unique again
    obtain ⟨text, written, -⟩ := saves.saved
    rcases (Batch.exists_write_iff again.each).mp ⟨text, written⟩ with empty | short
    · cases empty
    · exact absurd short not_short_wideBase
  · refine ⟨?_, grows.files⟩
    rw [code]
    exact obstacle.exitCode.resolve_right fun breaks => not_breaksAssembler_steady _ _ _ breaks.2

end OverlayPatch.Command
