import OverlayPatch.Fault
import OverlayPatch.Path

/-!
# Failure reports

A batch goes on when a module fails. What failed is kept in the order of the modules and shown
at the end: for each module its path, the directive at fault and the fault, then the count.
-/

namespace OverlayPatch

set_option autoImplicit false

structure ModuleFailure where
  path : Path
  error : AssemblerError
deriving Repr, DecidableEq

namespace ModuleFailure

/-- The path, and the directive where it is known. -/
def heading (failure : ModuleFailure) : String :=
  match shown? failure.error.mode with
  | none => failure.path.text
  | some mode =>
      let address := match failure.error.address with
        | none => ""
        | some address => " " ++ Number.address address
      s!"{failure.path.text} [{mode}{address}]"

/-- The lines of a failure, with an empty one at the end. -/
def lines (failure : ModuleFailure) : List String :=
  let shown := (Text.splitBreaks failure.error.render.toList).map fun line =>
    "  " ++ String.ofList line
  failure.heading :: shown ++ [""]

end ModuleFailure

structure Report where
  failures : List ModuleFailure := []
deriving Repr, DecidableEq

namespace Report

def add (report : Report) (failure : ModuleFailure) : Report :=
  { report with failures := report.failures ++ [failure] }

def hasFailures (report : Report) : Bool :=
  !report.failures.isEmpty

def text (report : Report) : String :=
  let count := report.failures.length
  let noun := if count = 1 then "module" else "modules"
  String.intercalate "\n"
    (report.failures.flatMap ModuleFailure.lines ++ [s!"{count} {noun} failed"])

end Report

end OverlayPatch
