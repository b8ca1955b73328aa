import OverlayPatch.Failure
import OverlayPatch.Text.Template

/-!
# Architectures

What the assembler has to know about the target besides its encoding: how far the program
counter runs ahead, how wide one instruction is, which branch is written at a hook, and how a
hook reaches a variable through a scratch register.
-/

namespace OverlayPatch

set_option autoImplicit false

structure Architecture where
  name : String
  /-- The program counter less the address of the instruction being executed. -/
  pipelineOffset : Int
  /-- The width of one instruction in bytes. -/
  instructionSize : Int
  /-- The branch at a hook's insertion point, over its displacement. -/
  branch : Text.Template
  /-- The register that a hook borrows to reach a variable. -/
  scratch : String
  save : Text.Template
  load : Text.Template
  /-- The operand that takes a marker's place in a hook. -/
  deref : Text.Template
  restore : Text.Template
deriving Repr, DecidableEq

namespace Architecture

def arm : Architecture where
  name := "arm"
  pipelineOffset := 8
  instructionSize := 4
  branch :=
    [.text ['b', 'l', ' ', '0', 'x'],
      .field "displacement" (some { digits := .upperHex, width := 8 })]
  scratch := "lr"
  save := [.text ['p', 'u', 's', 'h', ' ', '\x7b'], .field "reg" none, .text ['\x7d']]
  load :=
    [.text ['l', 'd', 'r', ' '], .field "reg" none, .text [',', ' ', '=', '0', 'x'],
      .field "address" (some { digits := .upperHex, width := 8 })]
  deref := [.text ['['], .field "reg" none, .text [']']]
  restore := [.text ['p', 'o', 'p', ' ', '\x7b'], .field "reg" none, .text ['\x7d']]

/-- The architecture of a name, in letters of either case. -/
def ofName (name : String) : Except Failure Architecture :=
  if name.toList.map Char.toLower = arm.name.toList then .ok arm
  else .error (.unknownArchitecture name)

/-- The displacement with which an instruction at `point` reaches `target` through the program
counter. -/
def pcRelative (arch : Architecture) (target point : Int) : Int :=
  target - point - arch.pipelineOffset

/-- Fills in a template; a field that cannot be filled in fails the run. -/
def fill (template : Text.Template) (values : Text.FieldValues) : Except Failure String :=
  (template.fill values).mapError fun
    | .unknown name => .unknownField name
    | .unfit code => .unfitField code

def displacementBits (displacement : Int) : Int :=
  displacement % Number.addressLimit

def branchText (arch : Architecture) (displacement : Int) : Except Failure String :=
  fill arch.branch [("displacement", .number (displacementBits displacement))]

/-- The operand that reads through the scratch register. -/
def derefOperand (arch : Architecture) : Except Failure String :=
  fill arch.deref [("reg", .text arch.scratch)]

/-- The line between the instructions that make the scratch register hold `address` and give it
back its value. -/
def hookSequence (arch : Architecture) (line : String) (address : Int) :
    Except Failure (List String) := do
  let save ← fill arch.save [("reg", .text arch.scratch)]
  let load ← fill arch.load [("reg", .text arch.scratch), ("address", .number address)]
  let restore ← fill arch.restore [("reg", .text arch.scratch)]
  return [save, load, line, restore]

end Architecture

end OverlayPatch
