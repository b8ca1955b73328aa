import OverlayPatch.Declaration
import OverlayPatch.Encoder
import OverlayPatch.Text.Similar

/-!
# Allocation of variables

Variables are placed one after another from a start address. Declarations that stand on
their own come first, in source order; aliases follow, again in source order, so that each
reference can be replaced by an address that is already fixed. A reference therefore resolves
if it names a variable that stands on its own, or an alias declared earlier.
-/

namespace OverlayPatch

set_option autoImplicit false

structure Variable where
  name : String
  location : Int
  value : List UInt8
  references : List String := []
deriving Repr, DecidableEq

/-- The first address after the variable. -/
def Variable.limit (v : Variable) : Int :=
  v.location + v.value.length

/-- The variables placed so far and the first free address. -/
structure Allocation where
  vars : List Variable
  cursor : Int
deriving Repr, DecidableEq

namespace Allocation

def find? (allocation : Allocation) (name : String) : Option Variable :=
  allocation.vars.find? (·.name = name)

def names (allocation : Allocation) : List String :=
  allocation.vars.map (·.name)

def start (cursor : Int) : Allocation :=
  { vars := [], cursor }

/-- Puts a variable at the cursor and moves the cursor behind it. -/
def push (allocation : Allocation) (v : Variable) : Allocation :=
  { vars := allocation.vars ++ [v], cursor := v.limit }

end Allocation

namespace Declaration

/-- The addresses by which names are replaced; the first entry of a name counts. -/
abbrev Locations := List (String × Int)

/-- A piece of a line with its reference replaced. -/
def writePiece (locations : Locations) : Text.Piece String → Except Failure (List Char)
  | .plain c => .ok [c]
  | .find name _ =>
      match locations.lookup name with
      | some location => .ok (Number.address location).toList
      | none => .error (.unplaced name)

/-- Replaces every reference of a line by the address of what it names. -/
def substitute (locations : Locations) (text : String) : Except Failure String :=
  (fun written => String.ofList written.flatten) <$>
    (Text.scan referencePattern text.toList).mapM (writePiece locations)

/-- The first name that an earlier declaration has taken; `taken` are the names before. -/
def firstRepeated? : List String → List Declaration → Option String
  | _, [] => none
  | taken, declaration :: rest =>
      if declaration.name ∈ taken then some declaration.name
      else firstRepeated? (taken ++ [declaration.name]) rest

end Declaration

namespace Allocation

variable {σ : Type}

/-- Encodes a declaration's text and places the variable at the cursor. -/
def place (encoder : Encoder σ) (origin : Option String) (declaration : Declaration)
    (text : String) (allocation : Allocation) : Work σ Allocation := do
  let amend := fun (fault : Fault) =>
    (fault.withHint s!"while encoding variable '{declaration.name}'").within
      { origin, mode := some Mode.append.name }
  let value ← encoder.encode amend text
  let v : Variable :=
    { name := declaration.name
      location := allocation.cursor
      value
      references := declaration.references }
  if Number.addressLimit < v.limit then
    Work.fail
      { cause := .variablePastEnd declaration.name, origin, mode := some Mode.append.name }
  Work.note .debug
    s!"Allocated {v.name} at {Number.address v.location} ({value.length} bytes)"
  return allocation.push v

/-- Why a reference does not resolve. -/
def unresolved (declarations : List Declaration) (origin : Option String)
    (declaration : Declaration) (allocation : Allocation) (reference : String) : Fault :=
  let later := declarations.any (·.name = reference)
  let hint :=
    if later then some s!"'{reference}' is an alias declared after '{declaration.name}'" else none
  Fault.unresolved reference origin hint (Text.closeNames reference allocation.names)

/-- The addresses of the variables that an alias refers to. -/
def resolve (declarations : List Declaration) (origin : Option String)
    (declaration : Declaration) (allocation : Allocation) :
    List String → Work σ Declaration.Locations
  | [] => pure []
  | reference :: references => do
      match allocation.find? reference with
      | none => Work.fail (unresolved declarations origin declaration allocation reference)
      | some target =>
          Work.note .debug
            s!"Resolved [{reference}] in {declaration.name} to {Number.address target.location}"
          let rest ← resolve declarations origin declaration allocation references
          return (reference, target.location) :: rest

/-- Replaces an alias's references and places it. -/
def placeAlias (encoder : Encoder σ) (declarations : List Declaration) (origin : Option String)
    (allocation : Allocation) (declaration : Declaration) : Work σ Allocation := do
  let locations ← resolve declarations origin declaration allocation declaration.references
  let text ← Work.ofExcept (Declaration.substitute locations declaration.text)
  place encoder origin declaration text allocation

/-- Places all declared variables of a module from `start` on. -/
def ofDeclarations (encoder : Encoder σ) (origin : Option String) (start : Int)
    (declarations : List Declaration) : Work σ Allocation := do
  match Declaration.firstRepeated? [] declarations with
  | some name => Work.fail (Fault.duplicate name origin)
  | none =>
      let direct ← (declarations.filter (!·.isAlias)).foldlM
        (fun allocation declaration =>
          place encoder origin declaration declaration.text allocation) (Allocation.start start)
      (declarations.filter (·.isAlias)).foldlM (placeAlias encoder declarations origin) direct

end Allocation

end OverlayPatch
