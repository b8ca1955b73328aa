import OverlayPatch.Batch
import OverlayPatch.Command.Console
import OverlayPatch.Command.Options
import OverlayPatch.Command.Trouble

/-!
# Runs of the command

A run is a function of the arguments, the environment, the console and the file tree: it gives the
exit code, what the console shows and the tree afterwards.

Its body is a sequence of steps, any of which may end it with a trouble: the settings are read, a
talkative run says what they are, the modules are assembled, the document is saved, and a talkative
run says so. The document is saved even if some modules failed, which are reported behind the body.
-/

namespace OverlayPatch.Command

set_option autoImplicit false

/-- What a run leaves behind. -/
structure Outcome where
  exitCode : ExitCode
  stdout : String := ""
  stderr : String := ""
  tree : FileTree
deriving Repr, DecidableEq

def versionText : String := s!"{commandName}, version 1.0.0\n"

/-- The help for the user, as it is laid out on a console of eighty columns. -/
def helpText : String :=
  s!"Usage: {commandName} [OPTIONS]\n\n" ++
    "  Assemble overlay code into the overlay patch document.\n\n" ++
    "  Every *.s file under SOURCE is a module patching the overlay of the same\n" ++
    "  name in OVERLAYS (e.g. main_0a.s patches main_0a.bin).\n\n" ++
    "  Directives:\n" ++
    "      arepl_XXXXXXXX:    replace the instruction at an address\n" ++
    "      ahook_XXXXXXXX:    branch to a routine appended to the overlay\n" ++
    "      aappend_XXXXXXXX:  variables appended to the overlay\n\n" ++
    "Options:\n" ++
    "  -s, --source DIRECTORY    Directory containing the module sources (searched\n" ++
    "                            recursively)  [required]\n" ++
    "  -l, --overlays DIRECTORY  Directory containing the unpatched overlay binaries\n" ++
    "                            [required]\n" ++
    "  -o, --output FILE         Patch document to write (XML)  [required]\n" ++
    "  --strict / --no-strict    Fail repl routines that do not encode to exactly one\n" ++
    "                            instruction. Default: warn only.\n" ++
    "  -j, --jobs INTEGER RANGE  Number of modules to assemble concurrently. Default:\n" ++
    "                            1.  [x>=1]\n" ++
    "  --base-address TEXT       Overlay load address. Default: 0x020C7660.\n" ++
    "  -v, --verbose             Verbose output\n" ++
    "  --version                 Show the version and exit.\n" ++
    "  --help                    Show this message and exit.\n"

def line (text : String) : String :=
  text ++ "\n"

/-- The settings of a run: those of the environment, overridden by the options. -/
def settingsOf (environment : Environment) (options : Options) : Except Trouble Settings := do
  let settings ← (Settings.ofEnvironment environment).mapError fun error => .usage error.message
  return settings.override
    { strict := options.strict, jobs := options.jobs, base := options.base }

/-- What a talkative run says before it starts. -/
def preamble (settings : Settings) : List String :=
  let strict := if settings.strict then "enabled" else "disabled"
  [s!"Base address: {Number.address settings.base}", s!"Strict replacements: {strict}"]

/-- What a talkative run says when the document is saved. -/
def closing (options : Options) (document : Document) : String :=
  s!"Wrote {document.patches.length} overlay patch(es) to {options.output.text}"

/-- What the journal shows on the console, every entry as it was written. -/
def journalText (verbose : Bool) (journal : List Entry) : String :=
  String.join ((journal.filterMap (Entry.line? verbose)).map line)

/-- Saves a document. The directories it lies in are made before it is written. -/
def save (document : Document) (path : Path) (tree : FileTree) : Except Trouble Unit × FileTree :=
  match tree.ensureDirectory path.parent with
  | .error problem => (.error (.ofProblem problem), tree)
  | .ok tree =>
      match document.write with
      | .error error => (.error (.usage error.message), tree)
      | .ok text =>
          match tree.writeFile path (Text.Utf8.encode text) with
          | .error problem => (.error (.ofProblem { problem, path }), tree)
          | .ok tree => (.ok (), tree)

/-! ## Steps of a run -/

/-- A step of a run, which a trouble may end. What was shown and done up to then stays. -/
abbrev Step := ExceptT Trouble (StateM Outcome)

namespace Step

variable {σ : Type}

def say (console : Console) (message : String) : Step Unit := fun outcome =>
  match console.refusal? outcome.stdout (echo message) with
  | some problem => (.error (.ofConsole problem), outcome)
  | none => (.ok (), { outcome with stdout := outcome.stdout ++ echo message })

/-- Says what only a talkative run says. -/
def talk (console : Console) (verbose : Bool) (messages : List String) : Step Unit :=
  if verbose then messages.forM (say console) else pure ()

/-- Assembles the modules and shows the journal. -/
def assemble (workshop : Workshop σ) (settings : Settings) (options : Options) :
    Step BatchResult := fun outcome =>
  let batch := Batch.assembleDirectory workshop outcome.tree settings options.source
    options.overlays
  let (result, trail) := batch.run {}
  (result.mapError .ofFailure,
    { outcome with stderr := outcome.stderr ++ journalText options.verbose trail.journal })

def store (document : Document) (options : Options) : Step Unit := fun outcome =>
  let (saved, tree) := save document options.output outcome.tree
  (saved, { outcome with tree })

def body (console : Console) (workshop : Settings → Workshop σ) (environment : Environment)
    (options : Options) : Step BatchResult := do
  let settings ← ExceptT.mk (pure (settingsOf environment options))
  talk console options.verbose (preamble settings)
  let result ← assemble (workshop settings) settings options
  store result.document options
  talk console options.verbose [closing options result.document]
  return result

end Step

/-! ## Runs -/

variable {σ : Type}

/-- Ends a run with a trouble. If that is a defect, a talkative run shows where it arose. -/
def fail (console : Console) (verbose : Bool) (trouble : Trouble) (outcome : Outcome) : Outcome :=
  let account := match trouble with
    | .internal message => if verbose then console.traceback message else ""
    | _ => ""
  { outcome with
    exitCode := trouble.exitCode
    stderr := outcome.stderr ++ echo (trouble.line (some "Assembly")) ++ account }

/-- Ends a run that has a result: modules that failed are reported. -/
def conclude (result : BatchResult) (outcome : Outcome) : Outcome :=
  if result.ok then outcome
  else
    { outcome with
      exitCode := .buildError
      stderr := outcome.stderr ++ echo result.report.text }

def execute (console : Console) (workshop : Settings → Workshop σ) (environment : Environment)
    (tree : FileTree) (options : Options) : Outcome :=
  match (Step.body console workshop environment options).run { exitCode := .success, tree } with
  | (.error trouble, outcome) => fail console options.verbose trouble outcome
  | (.ok result, outcome) => conclude result outcome

def run (console : Console) (workshop : Settings → Workshop σ) (environment : Environment)
    (tree : FileTree) (arguments : List String) : Outcome :=
  match Request.ofArguments tree arguments with
  | .error error => { exitCode := .invalidArguments, stderr := plainText error.text, tree }
  | .ok .version => { exitCode := .success, stdout := versionText, tree }
  | .ok .help => { exitCode := .success, stdout := helpText, tree }
  | .ok (.run options) => execute console workshop environment tree options

end OverlayPatch.Command
