import OverlayPatch.Failure
import OverlayPatch.Journal

/-!
# Encoders and the bench

The assembler turns no instruction into machine code itself. It hands texts to an `Encoder`,
which may keep a state of its own between them, and works with the bytes that come back.

All stages that encode work at a `Bench`: it holds the encoder's state, every text handed
over so far and the journal. A stage that fails leaves the bench as it stood at that moment,
so the texts and entries up to a failure are never lost.
-/

namespace OverlayPatch

set_option autoImplicit false

inductive Verdict where
  /-- The machine code, and what the encoder has to report. -/
  | accepted (data : List UInt8) (remarks : List Entry)
  /-- The text cannot be assembled. -/
  | rejected (fault : Fault)
  /-- The encoder itself broke down. -/
  | crashed (breakdown : Breakdown)
deriving Repr, DecidableEq

/-- Turns a text into machine code as if it stood at address zero. -/
structure Encoder (σ : Type) where
  answer : String → σ → Verdict × σ

/-- Where the stages of one run work. -/
structure Bench (σ : Type) where
  /-- The state of the encoder. -/
  state : σ
  /-- The texts handed to the encoder, in order. -/
  calls : List String := []
  journal : List Entry := []
deriving Repr, DecidableEq

def Bench.note {σ : Type} (level : Level) (text : String) (bench : Bench σ) : Bench σ :=
  { bench with journal := bench.journal ++ [{ level, text }] }

/-- A stage at the bench, which may fail. -/
abbrev Work (σ : Type) := ExceptT Failure (StateM (Bench σ))

namespace Work

variable {σ : Type}

def note (level : Level) (text : String) : Work σ Unit :=
  modify (Bench.note level text)

def fail {α : Type} (fault : Fault) : Work σ α :=
  throw (.fault fault)

/-- Goes on with a result that was found away from the bench. -/
def ofExcept {α : Type} (result : Except Failure α) : Work σ α :=
  ExceptT.mk (pure result)

/-- Goes on with what was read from a module's text. -/
def ofReading {α : Type} (result : Except Fault α) : Work σ α :=
  ofExcept (result.mapError .fault)

end Work

/-- The fault completed by `amend`, if it says that a text cannot be encoded. An encoder may find
fault with a module in other ways too; those are passed on as they are. -/
def Fault.amended (amend : Fault → Fault) (fault : Fault) : Fault :=
  if fault.cause.kind = .encoding then amend fault else fault

/-- Has a text encoded. If it is rejected, `amend` completes the fault. -/
def Encoder.encode {σ : Type} (encoder : Encoder σ) (amend : Fault → Fault) (text : String) :
    Work σ (List UInt8) := fun bench =>
  let (verdict, state) := encoder.answer text bench.state
  let bench := { bench with state, calls := bench.calls ++ [text] }
  match verdict with
  | .accepted data remarks => (.ok data, { bench with journal := bench.journal ++ remarks })
  | .rejected fault => (.error (.fault (fault.amended amend)), bench)
  | .crashed breakdown => (.error (.crash breakdown), bench)

end OverlayPatch
