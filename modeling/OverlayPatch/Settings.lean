import OverlayPatch.Number.Literal
import OverlayPatch.Patch

/-!
# Settings of a run

Settings have defaults, can be set by environment variables, and are overridden by options of
the command line. An environment variable that is set to nothing counts as not set.
-/

namespace OverlayPatch

set_option autoImplicit false

structure Settings where
  /-- The address at which overlays are loaded. -/
  base : Int := 0x020C7660
  /-- Which files below the source directory are modules. -/
  sourcePattern : String := "*.s"
  /-- What the name of an overlay binary has after the module's name. -/
  overlaySuffix : String := ".bin"
  /-- Whether a replacement must be exactly one instruction. -/
  strict : Bool := false
  /-- The number of modules that may be assembled at a time. -/
  jobs : Int := 1
  architecture : String := "arm"
deriving Repr, DecidableEq

/-- Settings that replace those of a run where they are given. -/
structure Overrides where
  base : Option Int := none
  sourcePattern : Option String := none
  overlaySuffix : Option String := none
  strict : Option Bool := none
  jobs : Option Int := none
  architecture : Option String := none
deriving Repr, DecidableEq

abbrev Environment := List (String × String)

namespace Settings

/-- The first address of the append region behind an overlay of some length: the header kept
free there comes first. -/
def startCursor (settings : Settings) (overlayLength : Nat) : Int :=
  overlayLength + settings.base + headerSize

def override (settings : Settings) (overrides : Overrides) : Settings where
  base := overrides.base.getD settings.base
  sourcePattern := overrides.sourcePattern.getD settings.sourcePattern
  overlaySuffix := overrides.overlaySuffix.getD settings.overlaySuffix
  strict := overrides.strict.getD settings.strict
  jobs := overrides.jobs.getD settings.jobs
  architecture := overrides.architecture.getD settings.architecture

/-- The texts that switch strictness on, in letters of either case. -/
def isYes (text : String) : Bool :=
  ["1", "true", "yes", "on"].contains (String.ofList (text.toList.map Char.toLower))

def baseVariable : String := "OVERLAY_ASM_BASE_ADDRESS"

def strictVariable : String := "OVERLAY_ASM_STRICT"

def jobsVariable : String := "OVERLAY_ASM_JOBS"

def variableNames : List String := [baseVariable, strictVariable, jobsVariable]

def ofEnvironment (environment : Environment) : Except Number.LiteralError Settings := do
  let valueOf := fun name => shown? (environment.lookup name)
  let base ← (valueOf baseVariable).mapM (Number.readInt .any)
  let strict := (valueOf strictVariable).map isYes
  let jobs ← (valueOf jobsVariable).mapM (Number.readInt .decimal)
  return ({} : Settings).override { base, strict, jobs := jobs.map (max 1) }

end Settings

/-- Reads an address as given on the command line: hexadecimal after a dollar sign, or any
integer literal. -/
def readAddress? (text : String) : Option Int :=
  match Text.trim text.toList with
  | '$' :: digits => (Number.readInt .hexadecimal (String.ofList digits)).toOption
  | cs => (Number.readInt .any (String.ofList cs)).toOption

end OverlayPatch
