import OverlayPatch.Command.Arguments
import OverlayPatch.FileTree
import OverlayPatch.Settings

/-!
# Options of the command

Options that were given are checked in the order of their first use, the last value of each
counting; then the ones that are needed must be there, and nothing may be left over. The
directories to read must exist, and the file to write must not be a directory.

A question for the version or for help is answered before anything is checked.
-/

namespace OverlayPatch.Command

set_option autoImplicit false

/-- What is wrong with a value. -/
inductive Complaint where
  | directoryMissing (text : String)
  | directoryIsFile (text : String)
  | fileIsDirectory (text : String)
  | notInteger (text : String)
  | belowOne (n : Int)
  | notAddress (text : String)
deriving Repr, DecidableEq

def Complaint.message : Complaint → String
  | directoryMissing text => s!"Directory {Text.quoted text} does not exist."
  | directoryIsFile text => s!"Directory {Text.quoted text} is a file."
  | fileIsDirectory text => s!"File {Text.quoted text} is a directory."
  | notInteger text => s!"{Text.quoted text} is not a valid integer range."
  | belowOne n => s!"{n} is not in the range x>=1."
  | notAddress text => s!"invalid address '{text}'"

/-- Why the command cannot be run as asked. -/
inductive UsageError where
  | argument (error : ArgumentError)
  | invalid (key : Key) (complaint : Complaint)
  | missing (key : Key)
  | extra (arguments : List String)
deriving Repr, DecidableEq

def Key.shown : Key → String
  | source => "'-s' / '--source'"
  | overlays => "'-l' / '--overlays'"
  | output => "'-o' / '--output'"
  | strict => "'--strict' / '--no-strict'"
  | jobs => "'-j' / '--jobs'"
  | baseAddress => "'--base-address'"
  | verbose => "'-v' / '--verbose'"
  | version => "'--version'"
  | help => "'--help'"

def commandName : String := "overlay-asm"

def ArgumentError.message : ArgumentError → String
  | unknown name [] => s!"No such option: {name}"
  | unknown name [one] => s!"No such option: {name} Did you mean {one}?"
  | unknown name similar =>
      let names := String.intercalate ", " (similar.mergeSort fun a b => decide (a ≤ b))
      s!"No such option: {name} (Possible options: {names})"
  | needsArgument name => s!"Option {Text.quoted name} requires an argument."
  | takesNoValue name => s!"Option {Text.quoted name} does not take a value."

namespace UsageError

def message : UsageError → String
  | argument error => error.message
  | invalid key complaint => s!"Invalid value for {key.shown}: {complaint.message}"
  | missing key => s!"Missing option {key.shown}."
  | extra [one] => s!"Got unexpected extra argument ({one})"
  | extra arguments =>
      let listed := String.intercalate " " arguments
      s!"Got unexpected extra arguments ({listed})"

/-- The usage is shown unless an option has a value too few or too many. -/
def showsUsage : UsageError → Bool
  | argument (.needsArgument _) | argument (.takesNoValue _) => false
  | _ => true

def text (error : UsageError) : String :=
  let usage :=
    if error.showsUsage then
      s!"Usage: {commandName} [OPTIONS]\nTry '{commandName} --help' for help.\n\n"
    else ""
  usage ++ s!"Error: {error.message}\n"

end UsageError

/-- What the options say so far. -/
structure Draft where
  source : Option Path := none
  overlays : Option Path := none
  output : Option Path := none
  strict : Option Bool := none
  jobs : Option Int := none
  base : Option Int := none
  verbose : Bool := false
deriving Repr, DecidableEq

structure Options where
  source : Path
  overlays : Path
  output : Path
  strict : Option Bool := none
  jobs : Option Int := none
  base : Option Int := none
  verbose : Bool := false
deriving Repr, DecidableEq

inductive Request where
  | version
  | help
  | run (options : Options)
deriving Repr, DecidableEq

namespace Options

/-- A directory that must be there. -/
def readDirectory (tree : FileTree) (text : String) : Except Complaint Path :=
  match tree.lookupText text with
  | .error _ => .error (.directoryMissing text)
  | .ok (.file _) => .error (.directoryIsFile text)
  | .ok (.directory _) => .ok (Path.ofString text)

def readFile (tree : FileTree) (text : String) : Except Complaint Path :=
  match tree.lookupText text with
  | .ok (.directory _) => .error (.fileIsDirectory text)
  | _ => .ok (Path.ofString text)

def readJobs (text : String) : Except Complaint Int :=
  match Number.readInt .decimal text with
  | .error _ => .error (.notInteger text)
  | .ok n => if n < 1 then .error (.belowOne n) else .ok n

def readBase (text : String) : Except Complaint Int :=
  match readAddress? text with
  | some n => .ok n
  | none => .error (.notAddress text)

def apply (tree : FileTree) (draft : Draft) (given : Given) : Except Complaint Draft :=
  match given.key, given.value with
  | .source, .text text => do return { draft with source := some (← readDirectory tree text) }
  | .overlays, .text text => do return { draft with overlays := some (← readDirectory tree text) }
  | .output, .text text => do return { draft with output := some (← readFile tree text) }
  | .jobs, .text text => do return { draft with jobs := some (← readJobs text) }
  | .baseAddress, .text text => do return { draft with base := some (← readBase text) }
  | .strict, value => .ok { draft with strict := some (value = .on) }
  | .verbose, _ => .ok { draft with verbose := true }
  | _, _ => .ok draft

/-- The options in the order of their first use, each with its last value. -/
def lastValues (given : List Given) : List Given :=
  (given.map (·.key)).eraseDups.filterMap fun key => given.reverse.find? (·.key = key)

def applyAll (tree : FileTree) (given : List Given) : Except UsageError Draft :=
  (lastValues given).foldlM
    (fun draft given => (apply tree draft given).mapError (.invalid given.key)) {}

def need {α : Type} (key : Key) : Option α → Except UsageError α
  | some a => .ok a
  | none => .error (.missing key)

def ofDraft (draft : Draft) : Except UsageError Options := do
  let source ← need .source draft.source
  let overlays ← need .overlays draft.overlays
  let output ← need .output draft.output
  let { strict, jobs, base, verbose, .. } := draft
  return { source, overlays, output, strict, jobs, base, verbose }

end Options

namespace Request

/-- The question that is answered before anything is checked. -/
def question? (given : List Given) : Option Request :=
  given.findSome? fun given =>
    match given.key with
    | .version => some .version
    | .help => some .help
    | _ => none

def ofArguments (tree : FileTree) (arguments : List String) : Except UsageError Request := do
  let sorted ← (Arguments.read arguments).mapError .argument
  match question? sorted.given with
  | some question => return question
  | none =>
      let draft ← Options.applyAll tree sorted.given
      let options ← Options.ofDraft draft
      if !sorted.extra.isEmpty then throw (.extra sorted.extra)
      return .run options

end Request

end OverlayPatch.Command
