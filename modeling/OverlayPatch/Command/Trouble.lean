import OverlayPatch.Command.Console
import OverlayPatch.Failure
import OverlayPatch.FileTree

/-!
# Troubles of the command

Whatever ends a run early becomes a line for the user and an exit code: 1 for an error of the
assembler, 2 for what the user can mend at the command line or in the file system, 3 for a
defect.
-/

namespace OverlayPatch.Command

set_option autoImplicit false

inductive ExitCode where
  | success
  | buildError
  | invalidArguments
  | internalError
deriving Repr, DecidableEq

def ExitCode.number : ExitCode → Nat
  | success => 0
  | buildError => 1
  | invalidArguments => 2
  | internalError => 3

/-- Why a run ends early. -/
inductive Trouble where
  | assembler (error : AssemblerError)
  /-- Something in the settings or the installation does not fit. -/
  | usage (message : String)
  /-- Something was asked for by a name that is not known. -/
  | unknownKey (key : String)
  /-- The system refuses a request, perhaps for a file. -/
  | system (number : Int) (text : String) (file : Option String)
  | internal (message : String)
deriving Repr, DecidableEq

namespace Trouble

def exitCode : Trouble → ExitCode
  | assembler _ => .buildError
  | usage _ | unknownKey _ | system .. => .invalidArguments
  | internal _ => .internalError

def message : Trouble → String
  | assembler error => error.render
  | usage message | internal message => message
  | unknownKey key => Text.quoted key
  | system number text none => s!"[Errno {number}] {text}"
  | system number text (some file) => s!"[Errno {number}] {text}: {Text.quoted file}"

/-- The line for the user; errors of the assembler name the stage, if one is given. -/
def line (stage : Option String) (trouble : Trouble) : String :=
  let lead := match trouble, shown? stage with
    | assembler _, some stage => s!"{stage} error: "
    | internal _, _ => "Internal error: "
    | _, _ => "Error: "
  lead ++ trouble.message

/-- The trouble that a failure means for the command. -/
def ofFailure : Failure → Trouble
  | .fault fault => assembler (.fault fault)
  | .crash (.assembler message) => assembler (.general message)
  | .crash (.usage message) => usage message
  | .crash (.defect message) => internal message
  | .absolutePattern => internal (Failure.message .absolutePattern)
  | .placeless => internal (Failure.message .placeless)
  | .badOperand error => internal error.message
  | .unknownField name => unknownKey name
  | .unplaced name => unknownKey name
  | .unknownArchitecture name => unknownKey (Failure.message (.unknownArchitecture name))
  | failure => usage failure.message

def ofProblem (problem : FileTree.PathProblem) : Trouble :=
  system problem.problem.number problem.problem.text (some problem.path.text)

/-- The trouble that a line means which the console does not show. -/
def ofConsole : ConsoleProblem → Trouble
  | .unencodable message => usage message
  | .system number text => system number text none

end Trouble

end OverlayPatch.Command
