import OverlayPatch.Allocation
import OverlayPatch.Architecture

/-!
# Markers in routine bodies

A routine refers to a variable by a *marker*, `=name` with a blank after it. How a marker is
resolved depends on where the routine runs. A replacement runs in place, so the marker
becomes an operand relative to the program counter. A hook runs somewhere in the append
region, so its line is wrapped to reach the variable through a scratch register.

What follows an equals sign without naming a variable is left alone.
-/

namespace OverlayPatch

set_option autoImplicit false

namespace Marker

/-- Markers of one name. -/
def pattern (name : String) : Text.Pattern Unit := fun _ cs =>
  let mark := '=' :: name.toList
  if mark.isPrefixOf cs && ((cs.drop mark.length).head?.any Text.isBlank) then
    some ((), mark.length)
  else none

def scan (name : String) (cs : List Char) : List (Text.Piece Unit) :=
  Text.scan (pattern name) cs

def replace (name operand : String) (cs : List Char) : List Char :=
  Text.replace (fun _ => operand.toList) (scan name cs)

/-- Replaces the markers of one name by what a replacement text makes of each. -/
def replaceBy (name : String) (parts : List Text.ReplacementPart) (cs : List Char) : List Char :=
  Text.replace (fun _ => Text.Replacement.write ('=' :: name.toList) parts) (scan name cs)

/-- An operand at a displacement from the program counter. -/
def pcOffset (displacement : Int) : String :=
  let digits := String.ofList (Number.hex 3 displacement.natAbs)
  if displacement < 0 then s!"[pc, #-0x{digits}]" else s!"[pc, #0x{digits}]"

/-- Resolves the markers in the body of a replacement at `point`, one variable after the other. -/
def resolveReplacement (arch : Architecture) (vars : List Variable) (point : Int)
    (body : String) : String :=
  String.ofList <| vars.foldl
    (fun cs v => replace v.name (pcOffset (arch.pcRelative v.location point)) cs) body.toList

/-- Resolves the markers in the body of a replacement of which the place is not known. Without
variables there is nothing to resolve. -/
def resolveUnplaced (vars : List Variable) (body : String) : Except Failure String :=
  if vars.isEmpty then .ok body else .error .placeless

/-- The variables whose markers a line holds, one entry for each marker. -/
def hits (vars : List Variable) (line : List Char) : List Variable :=
  vars.flatMap fun v => (Text.finds (scan v.name line)).map fun _ => v

/-- Drops the line feeds that a line ends with. -/
def dropLineEnd (cs : List Char) : List Char :=
  (cs.reverse.dropWhile (· = '\n')).reverse

/-- The lines that take the place of a line of a hook; `ended` says that a line feed follows,
which then is the blank after a marker at the line's end. -/
def resolveHookLine (arch : Architecture) (vars : List Variable) (context : Context)
    (ended : Bool) (line : List Char) : Except Failure (List String) :=
  let scanned := if ended then line ++ ['\n'] else line
  match hits vars scanned with
  | [] => .ok [String.ofList line]
  | [v] => do
      let deref ← arch.derefOperand
      let parts ← (Text.Replacement.read deref).mapError .badOperand
      let replaced := dropLineEnd (replaceBy v.name parts scanned)
      arch.hookSequence (String.ofList replaced) v.location
  | crowd =>
      .error <| .fault
        { cause := .crowdedLine (crowd.map (·.name)) (String.ofList (Text.trim line))
          origin := context.origin
          mode := context.mode
          address := context.address
          hint := some "split the line so each instruction loads one variable" }

/-- Resolves the markers in the lines of a hook, of which only the last is not followed by a
line feed. -/
def resolveHookLines (arch : Architecture) (vars : List Variable) (context : Context) :
    List (List Char) → Except Failure (List String)
  | [] => .ok []
  | line :: lines => do
      let first ← resolveHookLine arch vars context (!lines.isEmpty) line
      let rest ← resolveHookLines arch vars context lines
      return first ++ rest

/-- Resolves the markers in the body of a hook; `point` is where it is inserted, if known. -/
def resolveHook (arch : Architecture) (vars : List Variable) (origin : Option String)
    (point : Option Int) (body : String) : Except Failure String := do
  let context : Context := { origin, mode := some Mode.hook.name, address := point }
  let lines := Text.splitLines (Text.foldNewlines body.toList)
  let written ← resolveHookLines arch vars context lines
  return String.intercalate "\n" written

end Marker

/-- Resolves the markers of a routine for the place where it runs. -/
def Directive.resolveMarkers (arch : Architecture) (vars : List Variable) (origin : Option String)
    (directive : Directive) : Except Failure String :=
  match directive.site with
  | .append => .error .notRoutine
  | .repl point => .ok (Marker.resolveReplacement arch vars point directive.body)
  | .hook point => Marker.resolveHook arch vars origin (some point) directive.body

end OverlayPatch
