import OverlayPatch.Assembly
import OverlayPatch.Document
import OverlayPatch.Glob
import OverlayPatch.Report
import OverlayPatch.SourceFile

/-!
# Batches

A batch assembles every module below a directory. Each module gets an encoder of its own and
its own bench; a module at fault is kept for the report, and the others go on. Any other
failure ends the batch. Patches and failures are in the order of the sources, however many
modules are assembled at a time.

If more than one job is allowed, the modules are handed to a pool of workers. All of them are taken
up, and what comes of them is collected in the order of the sources; the first failure in that order
ends the batch. The journal then holds the entries of one module after those of another, as if the
workers had waited for each other: in which order workers really write is not for the batch to say,
nor how many modules behind a failure they still take up.
-/

namespace OverlayPatch

set_option autoImplicit false

/-- Where modules get their encoders: how they answer, and the state in which they start, unless
none can be had. -/
structure Workshop (σ : Type) where
  encoder : Encoder σ
  fresh : Except Failure σ

/-- What the benches of a batch leave behind. -/
structure Trail where
  calls : List String := []
  journal : List Entry := []
deriving Repr, DecidableEq

namespace Trail

def note (level : Level) (text : String) (trail : Trail) : Trail :=
  { trail with journal := trail.journal ++ [{ level, text }] }

def follow {σ : Type} (bench : Bench σ) (trail : Trail) : Trail where
  calls := trail.calls ++ bench.calls
  journal := trail.journal ++ bench.journal

def append (trail other : Trail) : Trail where
  calls := trail.calls ++ other.calls
  journal := trail.journal ++ other.journal

end Trail

/-- A stage of a batch, which may fail. -/
abbrev BatchWork := ExceptT Failure (StateM Trail)

/-- What comes of a module: its patch, or the fault that kept it from being assembled. -/
abbrev ModuleOutcome := Except Fault Patch

structure BatchResult where
  document : Document := {}
  report : Report := {}
deriving Repr, DecidableEq

/-- All modules were assembled. -/
def BatchResult.ok (result : BatchResult) : Bool :=
  !result.report.hasFailures

namespace Batch

variable {σ : Type}

/-- Assembles a module that was read, at a bench of its own. Faults of its text name its file. -/
def assembleFile (workshop : Workshop σ) (settings : Settings) (arch : Architecture)
    (file : SourceFile) : BatchWork ModuleOutcome := do
  match workshop.fresh with
  | .error (.fault fault) => return .error fault
  | .error failure => throw failure
  | .ok state =>
      let work := assembleWith workshop.encoder settings arch file.name file.text file.start
      let (outcome, bench) := work.run { state }
      modify (Trail.follow bench)
      match outcome with
      | .ok assembled => return .ok assembled.patch
      | .error (.fault fault) => return .error (fault.within { origin := some file.path.name })
      | .error failure => throw failure

def assembleModule (workshop : Workshop σ) (tree : FileTree) (settings : Settings)
    (arch : Architecture) (overlays source : Path) : BatchWork ModuleOutcome := do
  modify (Trail.note .info s!"Generating overlay patch for {source.text}...")
  match SourceFile.load tree settings source overlays with
  | .error fault => return .error fault
  | .ok file => assembleFile workshop settings arch file

def patches (outcomes : List (Path × ModuleOutcome)) : List Patch :=
  outcomes.filterMap fun (_, outcome) => outcome.toOption

/-- The modules that failed. -/
def failures (outcomes : List (Path × ModuleOutcome)) : List (Path × Fault) :=
  outcomes.filterMap fun
    | (path, .error fault) => some (path, fault)
    | (_, .ok _) => none

def gather (outcomes : List (Path × ModuleOutcome)) : BatchResult where
  document := { patches := patches outcomes }
  report :=
    { failures := (failures outcomes).map fun (path, fault) => { path, error := .fault fault } }

/-- Has a pool of workers attempt all modules, each on a trail of its own. What comes of them is
asked for in the order of the modules. -/
def pooled (attempt : Path → BatchWork ModuleOutcome) (sources : List Path) :
    BatchWork (List ModuleOutcome) := fun trail =>
  let done := sources.map fun source => (attempt source).run {}
  (done.mapM (·.1), done.foldl (fun trail (_, own) => trail.append own) trail)

/-- Attempts all modules, by a pool of workers if there is more than one job for more than one
module. -/
def attemptAll (jobs : Int) (attempt : Path → BatchWork ModuleOutcome) (sources : List Path) :
    BatchWork (List ModuleOutcome) :=
  if 1 < jobs ∧ 1 < sources.length then pooled attempt sources else sources.mapM attempt

/-- Assembles every module below a directory. -/
def assembleDirectory (workshop : Workshop σ) (tree : FileTree) (settings : Settings)
    (sources overlays : Path) : BatchWork BatchResult := do
  let arch ← ExceptT.mk (pure (Architecture.ofName settings.architecture))
  let found ← ExceptT.mk (pure (Glob.files tree settings.sourcePattern sources))
  let attempt := assembleModule workshop tree settings arch overlays
  let outcomes := found.zip (← attemptAll settings.jobs attempt found)
  for (_, fault) in failures outcomes do
    modify (Trail.note .error fault.render)
  let result := gather outcomes
  modify <| Trail.note .info
    s!"Assembled {result.document.patches.length} of {found.length} module(s)"
  return result

end Batch

end OverlayPatch
