import OverlayPatch.Markup.Reader

/-!
# The declaration of a document

A document may open with a declaration of its version, its encoding and whether it stands
alone. All its characters are ASCII, so it can be read before the encoding is known.
-/

namespace OverlayPatch.Markup

set_option autoImplicit false

/-- The declaration at the start of a document. -/
structure Header where
  encoding : Option String := none
  alone : Bool := false
deriving Repr, DecidableEq

namespace Reader

/-- The characters of a value in the declaration. -/
def isDeclared (c : Char) : Bool :=
  c.isAlphanum || c == '.' || c == '-' || c == '_'

/-- Takes `key = value` and the white space before it. -/
def setting (key : String) : Reader String := do
  gap1
  word key.toList
  gap
  word ['=']
  gap
  let quote ← charOf fun c => c == '"' || c == '\''
  let value ← while_ isDeclared
  word [quote]
  return String.ofList value

/-- Takes a declaration after its opening mark. -/
def header : Reader Header := do
  let _ ← setting "version"
  let encoding ← optional (setting "encoding")
  guard (encoding.all fun name => name.toList.head?.any Char.isAlpha)
  let alone ← optional (setting "standalone")
  guard (alone.all fun word => word == "yes" || word == "no")
  gap
  word ['?', '>']
  return { encoding, alone := alone == some "yes" }

def headerMark : List Char := "<?xml".toList

end Reader

/-- What is left of a text that opens with a declaration, after its mark. A longer name is that
of an instruction. -/
def Header.opened? (cs : List Char) : Option (List Char) :=
  (after? Reader.headerMark cs).filter fun rest => rest.head?.any isSpace

/-- The declaration at the start of a text, with the number of its characters. None is needed,
but one that is there has to be in order. -/
def Header.read? (cs : List Char) : Option (Header × Nat) :=
  match opened? cs with
  | none => some ({}, 0)
  | some inner => do
      let (header, rest) ← Reader.header .listed inner
      return (header, cs.length - rest.length)

end OverlayPatch.Markup
