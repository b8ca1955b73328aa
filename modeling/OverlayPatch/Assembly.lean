import OverlayPatch.Settings

/-!
# Assembling one module

A module's text goes through all stages: its directives are read, its variables placed, its
routines assembled and linked, and the results gathered into a patch.
-/

namespace OverlayPatch

set_option autoImplicit false

variable {σ : Type}

/-- Links routines as a stage that fails as a whole. -/
def Routine.linkAll (encoder : Encoder σ) (arch : Architecture) (origin : Option String)
    (cursor : Int) (routines : List Routine) : Work σ (List Routine × Int) := do
  let (linked, outcome) ← Routine.link encoder arch origin cursor routines
  let limit ← Work.ofExcept outcome
  return (linked, limit)

/-- What assembling a module gives besides its patch. -/
structure Assembled where
  allocation : Allocation
  routines : List Routine
  /-- The first free address behind the append region. -/
  limit : Int
  patch : Patch
deriving Repr, DecidableEq

/-- Assembles a module's text for an architecture. -/
def assembleWith (encoder : Encoder σ) (settings : Settings) (arch : Architecture)
    (name text : String) (start : Int) : Work σ Assembled := do
  let directives ← Work.ofReading (Directive.readAll name text)
  let declarations ← Work.ofReading (Declaration.collect name directives)
  let allocation ← Allocation.ofDeclarations encoder (some name) start declarations
  let routines ←
    Routine.assembleAll encoder arch allocation.vars (some name) settings.strict directives
  let (linked, limit) ← Routine.linkAll encoder arch (some name) allocation.cursor routines
  let patch ← Work.ofExcept (Patch.build name settings.base allocation.vars linked)
  Work.note .debug
    (s!"{name}: {allocation.vars.length} variable(s), {linked.length} routine(s), " ++
      s!"append region {Number.address start}-{Number.address limit}")
  return { allocation, routines := linked, limit, patch }

/-- Assembles a module's text; without an architecture, the settings name it. -/
def assembleSource (encoder : Encoder σ) (settings : Settings) (arch : Option Architecture)
    (name text : String) (start : Int) : Work σ Patch := do
  let arch ← match arch with
    | some arch => pure arch
    | none => Work.ofExcept (Architecture.ofName settings.architecture)
  let assembled ← assembleWith encoder settings arch name text start
  return assembled.patch

end OverlayPatch
