import OverlayPatch.Markup.Prolog
import OverlayPatch.Markup.Scope
import OverlayPatch.Text.Line

/-!
# Elements

A document as a tree of elements. An element keeps its universal name, its attributes, its
children and the text before the first of them; later text is of no use here.

The tree is built in one pass over the tokens, with the elements that are open at the moment
on a stack. `Element.ofChars?` is the whole way from the characters behind the declaration to
the tree, and fails exactly on those that make no document.
-/

namespace OverlayPatch.Markup

set_option autoImplicit false

/-- An element with the text before its first child. -/
inductive Element where
  | mk (tag : String) (attributes : List (String × String)) (lead : String)
      (children : List Element)
deriving Repr

namespace Element

def tag : Element → String
  | mk tag _ _ _ => tag

def attributes : Element → List (String × String)
  | mk _ attributes _ _ => attributes

def lead : Element → String
  | mk _ _ lead _ => lead

def children : Element → List Element
  | mk _ _ _ children => children

def get? (element : Element) (name : String) : Option String :=
  element.attributes.lookup name

def named (element : Element) (tag : String) : List Element :=
  element.children.filter (·.tag = tag)

end Element

/-- An element that is still open. Its text and children are kept last first. -/
structure Frame where
  /-- The name as written, which the end tag has to repeat. -/
  name : Name
  scope : Scope
  tag : String
  attributes : List (String × String)
  lead : List Char := []
  children : List Element := []
deriving Repr

namespace Frame

def close (frame : Frame) : Element :=
  .mk frame.tag frame.attributes (String.ofList frame.lead.reverse) frame.children.reverse

/-- Adds text; behind a child it is not kept. -/
def addText (text : List Char) (frame : Frame) : Frame :=
  if frame.children.isEmpty then { frame with lead := text.reverse ++ frame.lead } else frame

def addChild (child : Element) (frame : Frame) : Frame :=
  { frame with children := child :: frame.children }

end Frame

namespace Definitions

/-- What is declared about an attribute of an element. -/
def default? (definitions : Definitions) (element key : Name) : Option Default :=
  definitions.defaults.find? fun d => d.element = element && d.key = key

/-- An attribute with its value. No reference is left in it when the tree is built. -/
def given? (definitions : Definitions) (element : Name) (written : Attribute) :
    Option (Name × String) := do
  let chars ← written.value.mapM Piece.char?
  let tokenized := (definitions.default? element written.name).any (·.tokenized)
  return (written.name, String.ofList (if tokenized then squeeze chars else chars))

/-- The attributes that an element has without saying so. -/
def implied (definitions : Definitions) (element : Name) (given : List Name) :
    List (Name × String) :=
  definitions.defaults.filterMap fun d =>
    if d.element = element ∧ d.key ∉ given then
      d.value.map fun value => (d.key, String.ofList value)
    else none

/-- Opens an element. No attribute may occur twice, neither as written nor by universal name. -/
def open? (definitions : Definitions) (scope : Scope) (name : Name)
    (attributes : List Attribute) : Option Frame := do
  let written := attributes.map (·.name)
  guard written.Nodup
  let given ← attributes.mapM (definitions.given? name)
  let all := given ++ definitions.implied name written
  let scope ← scope.extend? all
  let tag ← scope.elementName? name
  let attributes ← scope.attributes? all
  guard (attributes.map (·.1)).Nodup
  return { name, scope, tag, attributes }

end Definitions

/-- How far the tree has come. -/
inductive Growth where
  /-- No element yet. -/
  | before
  /-- Inside an element and those around it, the nearest first. -/
  | inside (frame : Frame) (outer : List Frame)
  /-- The root element is complete. -/
  | after (root : Element)
deriving Repr

namespace Growth

def scope : Growth → Scope
  | inside frame _ => frame.scope
  | _ => Scope.outermost

/-- Puts a finished element where it belongs. -/
def finish (element : Element) : List Frame → Growth
  | [] => after element
  | frame :: outer => inside (frame.addChild element) outer

/-- Goes on by one token. -/
def step (definitions : Definitions) : Growth → Token → Option Growth
  | growth, .aside => some growth
  | after root, .char c => if isSpace c then some (after root) else none
  | after _, _ => none
  | before, .start name attributes closed => do
      let frame ← definitions.open? Scope.outermost name attributes
      return if closed then finish frame.close [] else inside frame []
  | before, _ => none
  | inside frame outer, .start name attributes closed => do
      let inner ← definitions.open? frame.scope name attributes
      return if closed then finish inner.close (frame :: outer) else inside inner (frame :: outer)
  | inside frame outer, .finish name =>
      if name = frame.name then some (finish frame.close outer) else none
  | inside frame outer, .char c => some (inside (frame.addText [c]) outer)
  | inside frame outer, .data text => some (inside (frame.addText text) outer)
  | inside _ _, .entity _ => none

end Growth

namespace Element

/-- The tree that tokens describe. -/
def ofTokens? (definitions : Definitions) (tokens : List Token) : Option Element := do
  match ← tokens.foldlM (Growth.step definitions) .before with
  | .after root => some root
  | _ => none

/-- What may be read in place of references in a document: a hundred times its own length, but
in any case as much as a document without a length is allowed. -/
def allowance (cs : List Char) : Nat :=
  max ({} : Entities).allowance (99 * cs.length)

/-- Reads a document from its characters after the declaration, which may say that the document
stands `alone`. -/
def ofChars? (alphabet : Alphabet) (alone : Bool) (cs : List Char) : Option Element := do
  let start : Definitions := { entities := { allowance := allowance cs } }
  let (definitions, rest) ← Reader.prolog alone start alphabet (Text.universalNewlines cs)
  let tokens ← Token.readAll alphabet rest
  guard (Token.refersInside 0 tokens)
  let expanded ← expandContent definitions.entities tokens
  ofTokens? definitions expanded

end Element

end OverlayPatch.Markup
