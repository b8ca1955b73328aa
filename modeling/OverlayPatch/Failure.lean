import OverlayPatch.Fault
import OverlayPatch.Text.Replacement

/-!
# Failures of a run

A fault concerns one module, and a batch goes on without it. Every other failure ends the
run: the settings or the encoder cannot be used, or a caller broke the order of the stages.
-/

namespace OverlayPatch

set_option autoImplicit false

/-- How an encoder breaks down. It is free to fail with errors of any class, and the class decides
what a run makes of them. -/
inductive Breakdown where
  /-- With an error of the assembler that is about no module. -/
  | assembler (message : String)
  /-- With an error of the classes that settings, files and installations give rise to. -/
  | usage (message : String)
  /-- With any other error, as a defect does. -/
  | defect (message : String)
deriving Repr, DecidableEq

def Breakdown.message : Breakdown → String
  | assembler message | usage message | defect message => message

/-- Why a stage of the assembler gives no result. -/
inductive Failure where
  /-- One module cannot be assembled. -/
  | fault (fault : Fault)
  /-- The encoder broke down. -/
  | crash (breakdown : Breakdown)
  /-- No architecture of this name is known. -/
  | unknownArchitecture (name : String)
  /-- A template of the architecture asks for a field that has no value there. -/
  | unknownField (name : String)
  /-- A template of the architecture asks for a text in the style of a number. -/
  | unfitField (code : Char)
  /-- A reference was to be replaced by an address that nobody gave. -/
  | unplaced (name : String)
  /-- An append directive was treated as a routine. -/
  | notRoutine
  /-- An operand relative to the program counter was asked for at no place. -/
  | placeless
  /-- The operand that takes a marker's place cannot be used as a replacement. -/
  | badOperand (error : Text.ReplacementError)
  /-- The bytes of a hook were asked for before it was placed. -/
  | unlinked (address : Int)
  /-- No encoding engine is installed. -/
  | engineMissing
  /-- The encoding engine does not know the architecture. -/
  | engineUnsupported (architecture : String)
  /-- Sources are searched below a directory, so their pattern is relative. -/
  | absolutePattern
  /-- Two stars stand for whole directories and nothing less. -/
  | partialRecursion
deriving Repr, DecidableEq

namespace Failure

def message : Failure → String
  | fault f => f.render
  | crash breakdown => breakdown.message
  | unknownArchitecture name => s!"unknown architecture '{name}' (known: arm)"
  | unknownField name => name
  | unfitField code => s!"Unknown format code '{code}' for object of type 'str'"
  | unplaced name => name
  | notRoutine => "append directives are not routines: DirectiveMode.APPEND"
  | placeless => "unsupported operand type(s) for -: 'int' and 'NoneType'"
  | badOperand error => error.message
  | unlinked address => s!"hook at {Number.address address} has not been linked"
  | engineMissing => "keystone-engine required for encoding: pip install -e '.[keystone]'"
  | engineUnsupported architecture => s!"unsupported Keystone architecture '{architecture}'"
  | absolutePattern => "Non-relative patterns are unsupported"
  | partialRecursion => "Invalid pattern: '**' can only be an entire path component"

/-- Fills in the context of a fault; other failures have none. -/
def within (context : Context) : Failure → Failure
  | fault f => fault (f.within context)
  | other => other

end Failure

end OverlayPatch
