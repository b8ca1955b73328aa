import OverlayPatch.Encoder

/-!
# Encoding engines

An engine is a backend that assembles whole texts. `Engine.encoder` makes an encoder of it:
a refusal becomes a fault that quotes the text, and every success is noted with the number of
statements. Engines are opened for an architecture and know only one.
-/

namespace OverlayPatch

set_option autoImplicit false

inductive Product where
  | code (data : List UInt8) (statements : Nat)
  | refused (message : String)
  | crashed (breakdown : Breakdown)
deriving Repr, DecidableEq

/-- A backend that assembles texts at address zero. -/
structure Engine (σ : Type) where
  assemble : String → σ → Product × σ

namespace Engine

variable {σ : Type}

/-- What the product of a text means for the assembler. -/
def verdict (text : String) : Product → Verdict
  | .code data statements =>
      .accepted data
        [{ level := .debug
           text := s!"Encoded {statements} statement(s) into {data.length} bytes" }]
  | .refused message =>
      .rejected (Fault.rejection s!"assembler rejected input: {message}" (some text))
  | .crashed breakdown => .crashed breakdown

def encoder (engine : Engine σ) : Encoder σ where
  answer text state :=
    let (product, state) := engine.assemble text state
    (verdict text product, state)

/-- The name under which an engine opens for an architecture, in lower case. Where none is
installed, that is the failure whatever the architecture. -/
def openFor (installed : Bool) (architecture : String) : Except Failure String :=
  let name := String.ofList (architecture.toList.map Char.toLower)
  if !installed then .error .engineMissing
  else if name ≠ "arm" then .error (.engineUnsupported architecture)
  else .ok name

end Engine

end OverlayPatch
