import Mathlib
import OverlayPatch.Batch
import OverlayPatch.Proofs.Faults

/-!
# What comes of a batch

`Batch.attempt` is what comes of one module in a workshop that may have no encoder to give, or one
that breaks down. Whatever was done before, a batch gets just that (`assembleModule_gives`). So it
does not matter whether the modules are taken up one by one or handed to a pool of workers
(`attemptAll_gives`): a batch comes to what its attempts come to, in the order of the sources, or to
the first failure among them (`assembleDirectory_gives`), with any number of jobs
(`assembleDirectory_jobs`).

Since no text can do worse than be at fault (`assembleSource_ends`), a batch whose sources can be
found gives an outcome for each of them: `texts_never_abort`.
-/

namespace OverlayPatch

set_option autoImplicit false

open ExceptT

variable {σ : Type} {encoder : Encoder σ} {state : σ} {workshop : Workshop σ} {settings : Settings}
  {tree : FileTree} {sources overlays source : Path} {found : List Path}

/-- ARM is the one architecture that has a name. -/
theorem Architecture.eq_arm_of_ofName {name : String} {arch : Architecture}
    (known : ofName name = .ok arch) : arch = .arm := by
  unfold ofName at known
  split at known
  · cases known
    rfl
  · cases known

theorem run_assembleSource (arm : Architecture.ofName settings.architecture = .ok .arm)
    (name text : String) (start : Int) (bench : Bench σ) :
    ((assembleSource encoder settings none name text start).run bench).1 =
      ((assembleWith encoder settings .arm name text start).run bench).1.map (·.patch) := by
  unfold assembleSource
  rw [arm]
  show ((assembleWith encoder settings .arm name text start >>= fun assembled =>
    pure assembled.patch).run bench).1 = _
  rw [run_bind_eq]
  rcases (assembleWith encoder settings .arm name text start).run bench with
    ⟨failure | assembled, later⟩
  · rfl
  · rfl

namespace Batch

/-! ## Attempts -/

/-- What a module comes to, by how assembling its text ended. Only faults are kept. -/
def settle (file : SourceFile) : Except Failure Patch → Except Failure ModuleOutcome
  | .ok patch => .ok (.ok patch)
  | .error (.fault fault) => .ok (.error (fault.within { origin := some file.path.name }))
  | .error failure => .error failure

def alone (encoder : Encoder σ) (state : σ) (tree : FileTree) (settings : Settings)
    (overlays source : Path) : Except Failure ModuleOutcome :=
  match SourceFile.load tree settings source overlays with
  | .error fault => .ok (.error fault)
  | .ok file =>
      let work := assembleSource encoder settings none file.name file.text file.start
      settle file (work.run { state }).1

/-- A fault is kept for the report, any other failure ends the batch. -/
def keep : Failure → Except Failure ModuleOutcome
  | .fault fault => .ok (.error fault)
  | failure => .error failure

/-- Reads and assembles a module with an encoder from the workshop, if there is one to be had. -/
def attempt (workshop : Workshop σ) (tree : FileTree) (settings : Settings)
    (overlays source : Path) : Except Failure ModuleOutcome :=
  match SourceFile.load tree settings source overlays, workshop.fresh with
  | .error fault, _ => .ok (.error fault)
  | .ok _, .error failure => keep failure
  | .ok _, .ok state => alone workshop.encoder state tree settings overlays source

theorem attempt_of_fresh (fresh : workshop.fresh = .ok state) :
    attempt workshop tree settings overlays source =
      alone workshop.encoder state tree settings overlays source := by
  unfold attempt
  rw [fresh]
  cases loaded : SourceFile.load tree settings source overlays with
  | error fault => rw [alone, loaded]
  | ok file => rfl

theorem assembleFile_gives (arm : Architecture.ofName settings.architecture = .ok .arm)
    (fresh : workshop.fresh = .ok state) (file : SourceFile) :
    (assembleFile workshop settings .arm file).Gives (settle file
      ((assembleSource workshop.encoder settings none file.name file.text file.start).run
        { state }).1) := by
  rw [run_assembleSource arm]
  unfold assembleFile
  rw [fresh]
  dsimp only
  rcases (assembleWith workshop.encoder settings .arm file.name file.text file.start).run
    { state := state } with ⟨failure | assembled, later⟩
  · refine gives_bind_ok (gives_modify _) ?_
    cases failure with
    | fault fault => exact gives_pure _
    | _ => exact gives_throw _
  · exact gives_bind_ok (gives_modify _) (gives_pure _)

/-- Whatever was done before, a batch gets for a module what the attempt comes to. -/
theorem assembleModule_gives (workshop : Workshop σ) (tree : FileTree)
    (arm : Architecture.ofName settings.architecture = .ok .arm) (overlays source : Path) :
    (assembleModule workshop tree settings .arm overlays source).Gives
      (attempt workshop tree settings overlays source) := by
  unfold assembleModule
  refine gives_bind_ok (gives_modify _) ?_
  cases loaded : SourceFile.load tree settings source overlays with
  | error fault =>
      rw [attempt, loaded]
      exact gives_pure _
  | ok file =>
      cases fresh : workshop.fresh with
      | ok state =>
          rw [attempt_of_fresh fresh, alone, loaded]
          exact assembleFile_gives arm fresh file
      | error failure =>
          simp only [attempt, loaded, fresh, assembleFile]
          cases failure with
          | fault fault => exact gives_pure _
          | _ => exact gives_throw _

/-! ## All modules -/

/-- A pool of workers and a loop come to the same, if no attempt hangs on what was done before. -/
theorem attemptAll_gives {attempt : Path → BatchWork ModuleOutcome}
    {code : Path → Except Failure ModuleOutcome}
    (each : ∀ source, (attempt source).Gives (code source)) (jobs : Int) (sources : List Path) :
    (attemptAll jobs attempt sources).Gives (sources.mapM code) := by
  unfold attemptAll
  split
  · intro trail
    show (sources.map fun source => (attempt source).run {}).mapM (·.1) = _
    rw [List.mapM_map]
    exact congrArg sources.mapM (funext fun source => each source {})
  · exact gives_mapM each sources

/-- What the modules come to, told without workers and trails. -/
def combined (workshop : Workshop σ) (tree : FileTree) (settings : Settings)
    (sources overlays : Path) : Except Failure BatchResult := do
  let _ ← Architecture.ofName settings.architecture
  let found ← Glob.files tree settings.sourcePattern sources
  let come ← found.mapM (attempt workshop tree settings overlays)
  return gather (found.zip come)

/-- Whatever was done before, a batch gives what comes of all its attempts, in the order of the
sources, or ends with the first failure among them. -/
theorem assembleDirectory_gives (workshop : Workshop σ) (tree : FileTree) (settings : Settings)
    (sources overlays : Path) :
    (assembleDirectory workshop tree settings sources overlays).Gives
      (combined workshop tree settings sources overlays) := by
  unfold assembleDirectory combined
  cases known : Architecture.ofName settings.architecture with
  | error failure => exact gives_bind_error (gives_mk_pure _) _
  | ok arch =>
      obtain rfl := Architecture.eq_arm_of_ofName known
      refine gives_bind_ok (gives_mk_pure _) (gives_bind (gives_mk_pure _) fun found => ?_)
      have attempts := attemptAll_gives (assembleModule_gives workshop tree known overlays)
        settings.jobs found
      refine gives_bind attempts fun come => ?_
      refine gives_bind_ok (gives_forIn _ fun _ => ?_) ?_
      · exact gives_bind_ok (gives_modify _) (gives_pure _)
      · exact gives_bind_ok (gives_modify _) (gives_pure _)

theorem attempt_jobs (jobs : Int) :
    attempt workshop tree { settings with jobs } overlays source =
      attempt workshop tree settings overlays source := by
  simp only [attempt, alone, SourceFile.load, SourceFile.overlaySize, overlayPath,
    Settings.startCursor, assembleSource, assembleWith]

/-- How many modules are assembled at a time does not show. -/
theorem assembleDirectory_jobs (workshop : Workshop σ) (jobs : Int) (trail trail' : Trail) :
    ((assembleDirectory workshop tree { settings with jobs } sources overlays).run trail).1 =
      ((assembleDirectory workshop tree settings sources overlays).run trail').1 := by
  have attempts : attempt workshop tree { settings with jobs } overlays =
      attempt workshop tree settings overlays := funext fun _ => attempt_jobs jobs
  have same : combined workshop tree { settings with jobs } sources overlays =
      combined workshop tree settings sources overlays := by
    simp only [combined, attempts]
  rw [assembleDirectory_gives, assembleDirectory_gives, same]

/-- Where the sources are found, all hangs on the attempts at them. -/
theorem combined_eq (arm : Architecture.ofName settings.architecture = .ok .arm)
    (globbed : Glob.files tree settings.sourcePattern sources = .ok found) :
    combined workshop tree settings sources overlays =
      (found.mapM (attempt workshop tree settings overlays)).map fun come =>
        gather (found.zip come) := by
  rw [combined, arm, globbed]
  show (found.mapM (attempt workshop tree settings overlays) >>= _) = _
  cases found.mapM (attempt workshop tree settings overlays) <;> rfl

/-- The outcomes of all attempts, each with its source. -/
theorem attempts_zip {come : List ModuleOutcome}
    (all : found.mapM (attempt workshop tree settings overlays) = .ok come) :
    (found.zip come).map Prod.fst = found ∧
      ∀ item ∈ found.zip come, attempt workshop tree settings overlays item.1 = .ok item.2 := by
  obtain ⟨length, each⟩ := List.forall₂_iff_zip.mp (forall₂_of_mapM_ok all)
  exact ⟨List.map_fst_zip (Nat.le_of_eq length), fun _ member => each member⟩

/-- A batch that gives a result is for ARM and found its sources, and the result gathers what the
attempts come to. -/
theorem exists_outcomes_of_ok {trail : Trail} {result : BatchResult}
    (ran : ((assembleDirectory workshop tree settings sources overlays).run trail).1 = .ok result) :
    Architecture.ofName settings.architecture = .ok .arm ∧
      ∃ outcomes : List (Path × ModuleOutcome),
        Glob.files tree settings.sourcePattern sources = .ok (outcomes.map Prod.fst) ∧
        (∀ item ∈ outcomes, attempt workshop tree settings overlays item.1 = .ok item.2) ∧
        result = gather outcomes := by
  rw [assembleDirectory_gives] at ran
  obtain ⟨arch, known, ran⟩ := bind_ok ran
  obtain ⟨found, globbed, ran⟩ := bind_ok ran
  obtain ⟨come, all, ran⟩ := bind_ok ran
  obtain ⟨order, each⟩ := attempts_zip all
  cases ran
  obtain rfl := Architecture.eq_arm_of_ofName known
  exact ⟨known, found.zip come, by rw [globbed, order], each, rfl⟩

theorem length_patches_failures (outcomes : List (Path × ModuleOutcome)) :
    (patches outcomes).length + (failures outcomes).length = outcomes.length := by
  induction outcomes with
  | nil => rfl
  | cons outcome outcomes ih =>
      obtain ⟨path, fault | patch⟩ := outcome
      · simp [patches, failures, Except.toOption] at ih ⊢
        omega
      · simp [patches, failures, Except.toOption] at ih ⊢
        omega

/-! ## Encoders that only reject -/

/-- With an encoder that only rejects, a module comes to a patch or a fault. -/
theorem exists_alone (rejects : encoder.OnlyRejects) (state : σ)
    (arm : Architecture.ofName settings.architecture = .ok .arm) (tree : FileTree)
    (overlays source : Path) :
    ∃ outcome, alone encoder state tree settings overlays source = .ok outcome := by
  unfold alone
  cases SourceFile.load tree settings source overlays with
  | error fault => exact ⟨_, rfl⟩
  | ok file =>
      have target : none ∈ [none, some Architecture.arm] := by simp
      dsimp only
      rcases (assembleSource_ends rejects arm target file.name file.text file.start
        { state := state }).cases with ⟨patch, later, ran, -⟩ | ⟨failure, later, ran, fault, rfl, -⟩
      · rw [ran]
        exact ⟨_, rfl⟩
      · rw [ran]
        exact ⟨_, rfl⟩

/-- No source that was found is lost. -/
theorem exists_result (rejects : encoder.OnlyRejects) (state : σ)
    (arm : Architecture.ofName settings.architecture = .ok .arm) (overlays : Path)
    (globbed : Glob.files tree settings.sourcePattern sources = .ok found) :
    ∃ result, (assembleDirectory { encoder, fresh := .ok state } tree settings sources
        overlays).Gives (.ok result) ∧
      result.document.patches.length + result.report.failures.length = found.length := by
  obtain ⟨come, all⟩ : ∃ come, found.mapM
      (attempt { encoder, fresh := .ok state } tree settings overlays) = .ok come := by
    refine mapM_ok_of_forall fun source _ => ?_
    rw [attempt_of_fresh rfl]
    exact exists_alone rejects state arm tree overlays source
  refine ⟨gather (found.zip come), ?_, ?_⟩
  · have gives := assembleDirectory_gives { encoder, fresh := .ok state } tree settings sources
      overlays
    rwa [combined_eq arm globbed, all] at gives
  · have total := length_patches_failures (found.zip come)
    have same : (found.zip come).length = found.length := by
      rw [← List.length_map, (attempts_zip all).1]
    simpa [gather, same] using total

end Batch

/-- For ARM and an encoder that only rejects, a text is assembled or at fault, and a batch gives a
patch or an entry of the report for every source that was found. -/
theorem texts_never_abort (rejects : encoder.OnlyRejects) {settings : Settings}
    (arm : Architecture.ofName settings.architecture = .ok .arm) :
    (∀ arch ∈ [none, some Architecture.arm], ∀ name text start bench,
      (∃ patch, ((assembleSource encoder settings arch name text start).run bench).1 = .ok patch) ∨
      ∃ fault, ((assembleSource encoder settings arch name text start).run bench).1 =
        .error (.fault fault) ∧ fault.cause.kind ∈ textKinds) ∧
    (∀ state tree sources overlays found trail,
      Glob.files tree settings.sourcePattern sources = .ok found →
      ∃ result, ((Batch.assembleDirectory { encoder, fresh := .ok state } tree settings sources
          overlays).run trail).1 = .ok result ∧
        result.document.patches.length + result.report.failures.length = found.length) := by
  constructor
  · intro arch target name text start bench
    rcases (assembleSource_ends rejects arm target name text start bench).cases with
      ⟨patch, later, ran, -⟩ | ⟨failure, later, ran, fault, rfl, listed⟩
    · exact .inl ⟨patch, by rw [ran]⟩
    · exact .inr ⟨fault, by rw [ran], listed⟩
  · intro state tree sources overlays found trail globbed
    obtain ⟨result, gives, counted⟩ := Batch.exists_result rejects state arm overlays globbed
    exact ⟨result, gives trail, counted⟩

def Encoder.refusing : Encoder Unit where
  answer text state := (.rejected (Fault.rejection "unknown mnemonic" (some text)), state)

namespace Batch

def sampleSources : Path where
  parts := ["src"]

def sampleOverlays : Path where
  parts := ["ov"]

/-- Two modules with overlays elsewhere, of which the first has no directives. -/
def halfGood : FileTree where
  files :=
    [(["ov", "bad.bin"], [1, 2, 3, 4]), (["ov", "good.bin"], [1, 2, 3, 4]),
      (["src", "bad.s"], "nop\n".toUTF8.toList),
      (["src", "good.s"], "arepl_020C8000:\nnop\n".toUTF8.toList)]

theorem files_halfGood : Glob.files halfGood ({} : Settings).sourcePattern sampleSources =
    .ok [sampleSources.child "bad.s", sampleSources.child "good.s"] := by cbv

end Batch

/-- A tree whose modules are both at fault: one has no directives, and the encoder refuses the
other. -/
theorem texts_never_abort_refused :
    Encoder.refusing.OnlyRejects ∧
      ((∃ patch, ((assembleSource .refusing {} none "menu" "ahook_020C7710:\nnop\n" 0).run
        { state := () }).1 = .ok patch) ∨
      ∃ fault, ((assembleSource .refusing {} none "menu" "ahook_020C7710:\nnop\n" 0).run
        { state := () }).1 = .error (.fault fault) ∧ fault.cause.kind ∈ textKinds) ∧
      ∃ result, ((Batch.assembleDirectory { encoder := .refusing, fresh := .ok () } Batch.halfGood
          {} Batch.sampleSources Batch.sampleOverlays).run {}).1 = .ok result ∧
        result.document.patches.length + result.report.failures.length = 2 := by
  have rejects : Encoder.refusing.OnlyRejects := fun text _ => .inr ⟨_, rfl, rfl⟩
  have arm : Architecture.ofName ({} : Settings).architecture = .ok .arm := by decide
  have both := texts_never_abort rejects arm
  exact ⟨rejects, both.1 none (by simp) _ _ _ _, both.2 () _ _ _ _ {} Batch.files_halfGood⟩

end OverlayPatch
