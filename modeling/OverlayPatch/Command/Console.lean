import OverlayPatch.Text.Scan

/-!
# Messages for the console

What the command tells the user is plain text. A name or a message may hold the control
sequences by which a terminal is told colours and styles; they are dropped on the way out, so
that the console shows what was said and nothing else changes.

A console need not show what it is told. Its encoding may lack a character, as that of an output
path may be one, and a pipe may be closed at the other end. This holds of what is said on standard
output; standard error escapes the characters it lacks, and it is taken to be open.
-/

namespace OverlayPatch.Command

set_option autoImplicit false

/-- A character between the opening of a control sequence and the letter that ends it. -/
def isControlParameter (c : Char) : Bool :=
  c.isDigit || c == ';' || c == '?'

/-- Control sequences: an escape character, an opening bracket, parameters and a letter. -/
def controlSequence : Text.Pattern Unit := fun _ cs =>
  match cs with
  | '\x1b' :: '[' :: rest =>
      if (rest.dropWhile isControlParameter).head?.any Char.isAlpha then
        some ((), (rest.takeWhile isControlParameter).length + 3)
      else none
  | _ => none

/-- The text without its control sequences. -/
def plainText (text : String) : String :=
  String.ofList (Text.replace (fun _ => []) (Text.scan controlSequence text.toList))

/-- A message as a line of the console. -/
def echo (message : String) : String :=
  plainText message ++ "\n"

/-- Why the console does not show a line. -/
inductive ConsoleProblem where
  /-- Its encoding lacks a character. -/
  | unencodable (message : String)
  /-- The system does not take it. -/
  | system (number : Int) (text : String)
deriving Repr, DecidableEq

/-- A console: what it does with a line for the user, and how it shows where a defect arose. -/
structure Console where
  /-- Why a line is not shown behind what was shown before, if it is not. -/
  refusal? : String → String → Option ConsoleProblem := fun _ _ => none
  /-- The calls that led to a defect of this message. -/
  traceback : String → String := fun _ => ""

end OverlayPatch.Command
