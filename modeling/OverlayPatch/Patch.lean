import OverlayPatch.Routine

/-!
# Patches and documents

A patch is all that has to be done to one overlay: bytes written in place, one write for each
routine, and bytes appended after the overlay. The appended bytes are a header kept free for
the loader, then every variable, then the body of every hook. A document holds the patches of
a run.
-/

namespace OverlayPatch

set_option autoImplicit false

/-- The bytes kept free at the start of what is appended. -/
def headerSize : Nat := 4

/-- Bytes written at one address of the overlay. -/
structure Write where
  location : Int
  value : List UInt8
deriving Repr, DecidableEq

structure Patch where
  name : String
  /-- The address at which the overlay is loaded. -/
  base : Int
  writes : List Write := []
  /-- The bytes appended after the overlay. -/
  blob : List UInt8 := List.replicate headerSize 0
deriving Repr, DecidableEq

namespace Patch

def blobOf (vars : List Variable) (routines : List Routine) : List UInt8 :=
  List.replicate headerSize 0 ++ vars.flatMap (·.value) ++
    (routines.filter (·.isHook)).flatMap (·.data)

def writeOf (routine : Routine) : Except Failure Write := do
  let value ← routine.written
  return { location := routine.insertionPoint, value }

def build (name : String) (base : Int) (vars : List Variable) (routines : List Routine) :
    Except Failure Patch := do
  let writes ← routines.mapM writeOf
  return { name, base, writes, blob := blobOf vars routines }

end Patch

/-- The patches of a run, in order. -/
structure Document where
  patches : List Patch := []
deriving Repr, DecidableEq

namespace Document

def names (document : Document) : List String :=
  document.patches.map (·.name)

/-- The first patch of a name. -/
def get? (document : Document) (name : String) : Option Patch :=
  document.patches.find? (·.name = name)

end Document

end OverlayPatch
