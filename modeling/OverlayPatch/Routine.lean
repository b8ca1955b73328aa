import OverlayPatch.Marker

/-!
# Routines

A routine is an assembled replacement or hook. A replacement stays where it is; a hook's body
is placed in the append region, and a branch to it is written at the insertion point. Until a
hook is linked it has neither a placement nor a branch.
-/

namespace OverlayPatch

set_option autoImplicit false

structure Routine where
  mode : Mode
  insertionPoint : Int
  /-- The body with its markers resolved. -/
  source : String
  data : List UInt8
  /-- Where a hook's body lies. -/
  placement : Option Int := none
  /-- The branch written at a hook's insertion point. -/
  branch : Option (List UInt8) := none
deriving Repr, DecidableEq

namespace Routine

def isHook (routine : Routine) : Bool :=
  routine.mode = .hook

def written (routine : Routine) : Except Failure (List UInt8) :=
  if routine.isHook then
    match routine.branch with
    | some branch => .ok branch
    | none => .error (.unlinked routine.insertionPoint)
  else .ok routine.data

variable {σ : Type}

/-- Compares a replacement with one instruction: a difference fails under `strict` and is
reported otherwise. -/
def checkSize (arch : Architecture) (origin : Option String) (strict : Bool) (point : Int)
    (size : Nat) : Work σ Unit := do
  if (size : Int) ≠ arch.instructionSize then
    if strict then
      Work.fail (Fault.wrongSize arch.instructionSize size origin (some point))
    else
      let name := (shown? origin).getD "<input>"
      Work.note .warning
        (s!"{name}: repl at {Number.address point} encodes to {size} bytes " ++
          s!"(one instruction is {arch.instructionSize})")

/-- Resolves the markers of one replacement or hook and has it encoded. -/
def assemble (encoder : Encoder σ) (arch : Architecture) (vars : List Variable)
    (origin : Option String) (strict : Bool) (directive : Directive) : Work σ Routine := do
  let source ← Work.ofExcept (directive.resolveMarkers arch vars origin)
  let context : Context :=
    { origin, mode := some directive.mode.name, address := directive.address? }
  let data ← encoder.encode (·.within context) source
  match directive.site with
  | .append => throw .notRoutine
  | .repl point =>
      checkSize arch origin strict point data.length
      return { mode := .repl, insertionPoint := point, source, data }
  | .hook point => return { mode := .hook, insertionPoint := point, source, data }

/-- Assembles the replacements and hooks of a module, in source order. -/
def assembleAll (encoder : Encoder σ) (arch : Architecture) (vars : List Variable)
    (origin : Option String) (strict : Bool) (directives : List Directive) :
    Work σ (List Routine) :=
  (directives.filter (·.mode ≠ .append)).mapM
    (assemble encoder arch vars origin strict)

/-- Places the hooks one after another from the cursor on and encodes their branches; gives the
routines as far as they were linked, and the first free address. The branch of a hook depends
on its placement only, so earlier placements and branches do not matter. -/
def link (encoder : Encoder σ) (arch : Architecture) (origin : Option String) :
    Int → List Routine → StateM (Bench σ) (List Routine × Except Failure Int)
  | cursor, [] => return ([], .ok cursor)
  | cursor, routine :: routines => do
      if routine.isHook then
        let displacement := cursor - routine.insertionPoint
        let context : Context :=
          { origin, mode := some routine.mode.name, address := some routine.insertionPoint }
        let branch : Work σ (List UInt8) := do
          let text ← Work.ofExcept (arch.branchText displacement)
          encoder.encode (·.within context) text
        match ← branch.run with
        | .error failure => return (routine :: routines, .error failure)
        | .ok branch =>
            let linked := { routine with branch := some branch, placement := some cursor }
            let distance := Architecture.displacementBits displacement
            modify <| Bench.note .debug
              (s!"Hook {Number.address routine.insertionPoint} -> {Number.address cursor} " ++
                s!"(displacement {Number.address distance}, {routine.data.length} bytes)")
            let next := cursor + routine.data.length
            if Number.addressLimit < next then
              let fault : Fault :=
                { cause := .hooksPastEnd
                  origin
                  mode := some routine.mode.name
                  address := some routine.insertionPoint }
              return (linked :: routines, .error (.fault fault))
            else
              let (rest, outcome) ← link encoder arch origin next routines
              return (linked :: rest, outcome)
      else
        let (rest, outcome) ← link encoder arch origin cursor routines
        return (routine :: rest, outcome)

end Routine

end OverlayPatch
