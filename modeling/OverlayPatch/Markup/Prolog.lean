import OverlayPatch.Markup.Entity
import OverlayPatch.Markup.Model

/-!
# What stands before the root element

Before its root element a document may have a document type. Of that only what changes the
content matters here: entities, and the attributes that elements have without saying so. Models
of content and notations are passed over.
-/

namespace OverlayPatch.Markup

set_option autoImplicit false

/-- An attribute that is declared for an element. -/
structure Default where
  element : Name
  key : Name
  /-- White space in the value does not count. -/
  tokenized : Bool
  value : Option (List Char)
deriving Repr, DecidableEq

/-- Writes a run of spaces as one and drops those at both ends: `started` once a character was
written, `apart` if spaces came after it. -/
def squeezeFrom : Bool → Bool → List Char → List Char
  | _, _, [] => []
  | started, apart, c :: cs =>
      if c = ' ' then squeezeFrom started true cs
      else if started && apart then ' ' :: c :: squeezeFrom true false cs
      else c :: squeezeFrom true false cs

def squeeze (cs : List Char) : List Char :=
  squeezeFrom false false cs

/-- What a document type says about the content. -/
structure Definitions where
  entities : Entities := {}
  defaults : List Default := []
  /-- Declarations are passed over from here on, since some before them are not known. -/
  passing : Bool := false
deriving Repr, DecidableEq

/-- Adds what is declared about an attribute; the first declaration holds. -/
def Definitions.addDefault (definitions : Definitions) (d : Default) : Definitions :=
  if definitions.defaults.any fun e => e.element = d.element && e.key = d.key then definitions
  else { definitions with defaults := definitions.defaults ++ [d] }

namespace Reader

/-! ## Asides -/

/-- The text left over starts with white space, a comment or an instruction. -/
def atAside : List Char → Bool
  | '<' :: '?' :: _ => true
  | '<' :: '!' :: '-' :: '-' :: _ => true
  | c :: _ => isSpace c
  | [] => false

/-- Takes white space, a comment or an instruction. -/
def aside : Reader Unit := do
  match ← get with
  | '<' :: '?' :: rest =>
      set rest
      instruction
  | '<' :: '!' :: '-' :: '-' :: rest =>
      set rest
      comment
  | _ => gap1

/-- Takes all that says nothing. -/
def asides : Reader Unit := do
  let _ ← repeatUntil (fun cs => !atAside cs) aside

/-! ## Entities -/

/-- A character of the public name of something outside. -/
def isPublic (c : Char) : Bool :=
  c.isAlphanum || " \n\r-'()+,./:=?;!*#@$_%".toList.contains c

/-- Takes the address of something outside the document. -/
def outside : Reader Unit := do
  match ← get with
  | 'S' :: _ =>
      word "SYSTEM".toList
      gap1
      let _ ← literal
  | _ =>
      word "PUBLIC".toList
      gap1
      let name ← literal
      guard (name.all isPublic)
      gap1
      let _ ← literal

/-- Takes a piece of the text that an entity is declared with: a character of it, or a
reference to another entity, which stays a reference. -/
def entityPiece : Reader (List Char) := do
  match ← get with
  | [] => failure
  | '%' :: _ => failure
  | '&' :: '#' :: rest =>
      set ('#' :: rest)
      match ← reference with
      | .char c => return [c]
      | .entity _ => return []
  | '&' :: rest =>
      set rest
      let name ← plainName
      word [';']
      return '&' :: name.toList ++ [';']
  | c :: rest =>
      guard (isLegal c)
      set rest
      return [c]

/-- Takes the text of an entity in quotes. -/
def entityText : Reader (List Char) := do
  let quote ← charOf fun c => c == '"' || c == '\''
  let pieces ← repeatUntil (atChar quote) entityPiece
  word [quote]
  return pieces.flatten

def atQuote (cs : List Char) : Bool :=
  atChar '"' cs || atChar '\'' cs

/-- Takes the name of the notation of an entity that is no text. -/
def notationName : Reader Unit := do
  gap1
  word "NDATA".toList
  gap1
  let _ ← plainName

/-- Takes what an entity is declared as. Where declarations are passed over, its text is not
looked into. -/
def entityBody (passing general : Bool) : Reader (Option (List Char)) := do
  if atQuote (← get) then
    return some (← if passing then literal else entityText)
  outside
  if general then
    let _ ← optional notationName
  return none

/-- Takes the declaration of an entity after its opening word. -/
def entity (definitions : Definitions) : Reader Definitions := do
  gap1
  match ← get with
  | '%' :: rest =>
      set rest
      gap1
      let _ ← plainName
      gap1
      let _ ← entityBody definitions.passing false
      gap
      word ['>']
      return definitions
  | _ =>
      let name ← plainName
      gap1
      let text ← entityBody definitions.passing true
      gap
      word ['>']
      return { definitions with entities := definitions.entities.add { name, text } }

/-! ## Attributes of elements -/

/-- Takes a token: characters of names and colons in any order. -/
def nameToken : Reader Unit := do
  let alphabet ← read
  let _ ← many1 fun c => alphabet.isRest c || c == ':'

/-- Takes alternatives in parentheses. -/
def choices (choice : Reader Unit) : Reader Unit := do
  word ['(']
  gap
  choice
  let _ ← repeatUntil (fun cs => atChar ')' (cs.dropWhile isSpace)) do
    gap
    word ['|']
    gap
    choice
  gap
  word [')']

/-- The types of attributes that are lists of names in one form or another. -/
def tokenTypes : List String :=
  ["ID", "IDREF", "IDREFS", "ENTITY", "ENTITIES", "NMTOKEN", "NMTOKENS"]

/-- Takes the type of an attribute and says whether white space in it does not count. -/
def attributeType : Reader Bool := do
  if atChar '(' (← get) then
    choices nameToken
    return true
  let type ← plainName
  if type = "CDATA" then return false
  if type = "NOTATION" then
    gap1
    choices do
      let _ ← plainName
    return true
  guard (tokenTypes.contains type)
  return true

/-- Takes the value that an attribute has where none is given, and says how much of the allowance
it used. -/
def defaultValue (definitions : Definitions) (tokenized : Bool) :
    Reader (Option (List Char) × Nat) := do
  let plain ← optional (word ['#'])
  if plain.isSome then
    match ← plainName with
    | "IMPLIED" | "REQUIRED" => return (none, 0)
    | "FIXED" => gap1
    | _ => failure
  if definitions.passing then return (some (← literal), 0)
  let allowance := definitions.entities.allowance
  let (chars, left) ← expandPieces definitions.entities allowance (← value)
  return (some (if tokenized then squeeze chars else chars), allowance - left)

/-- Takes the declaration of one attribute, and says how much of the allowance it used. -/
def attributeDefault (definitions : Definitions) (element : Name) : Reader (Default × Nat) := do
  gap1
  let key ← typeName
  gap1
  let tokenized ← attributeType
  gap1
  let (value, spent) ← defaultValue definitions tokenized
  return ({ element, key, tokenized, value }, spent)

/-- Takes the declaration of an element's attributes after its opening word. -/
def attributeList (definitions : Definitions) : Reader Definitions := do
  gap1
  let element ← typeName
  let declared ← repeatUntil (fun cs => atChar '>' (cs.dropWhile isSpace))
    (attributeDefault definitions element)
  gap
  word ['>']
  let entities ← definitions.entities.charge? (declared.foldl (fun spent one => spent + one.2) 0)
  return (declared.map (·.1)).foldl Definitions.addDefault { definitions with entities }

/-! ## The document type -/

/-- Passes over what an element is declared to contain. -/
def elementBody : Reader Unit := do
  gap1
  let _ ← typeName
  gap1
  model
  word ['>']

/-- Passes over what a notation is declared as. -/
def notationBody : Reader Unit := do
  gap1
  let _ ← plainName
  gap1
  match ← get with
  | 'S' :: _ => outside
  | _ =>
      word "PUBLIC".toList
      gap1
      guard ((← literal).all isPublic)
      let _ ← optional do
        gap1
        literal
  gap
  word ['>']

/-- Takes a declaration after its opening mark. -/
def definition (definitions : Definitions) : Reader Definitions := do
  let kind ← plainName
  match kind with
  | "ENTITY" =>
      let more ← entity definitions
      return if definitions.passing then definitions else more
  | "ATTLIST" =>
      let more ← attributeList definitions
      return if definitions.passing then definitions else more
  | "ELEMENT" =>
      elementBody
      return definitions
  | "NOTATION" =>
      notationBody
      return definitions
  | _ => failure

/-- What a document that points outside knows of its entities: unless it stands alone, some
may be missing. -/
def pointing (alone : Bool) (definitions : Definitions) : Definitions :=
  { definitions with entities := { definitions.entities with partly := !alone } }

/-- Takes an item of the document type that says something. -/
def subsetItem (alone : Bool) (definitions : Definitions) : Reader Definitions := do
  match ← get with
  | '%' :: rest =>
      set rest
      let _ ← plainName
      word [';']
      return { pointing alone definitions with passing := !alone }
  | '<' :: '!' :: rest =>
      set rest
      definition definitions
  | _ => failure

/-- Reads the items of a document type up to its closing bracket, at most one for each character
of the bound. -/
def subsetWithin (alone : Bool) : List Char → Definitions → Reader Definitions
  | [], _ => failure
  | _ :: bound, definitions => do
      asides
      match ← get with
      | ']' :: rest =>
          set rest
          return definitions
      | _ => subsetWithin alone bound (← subsetItem alone definitions)

def subset (alone : Bool) (definitions : Definitions) : Reader Definitions := do
  subsetWithin alone (← get) definitions

def doctypeMark : List Char := "<!DOCTYPE".toList

/-- Takes the address of the part of a document type that lies outside. -/
def doctypeOutside (alone : Bool) (definitions : Definitions) : Reader Definitions := do
  gap1
  outside
  return pointing alone definitions

/-- Takes a document type after its opening mark. -/
def doctype (alone : Bool) (definitions : Definitions) : Reader Definitions := do
  gap1
  let _ ← typeName
  let elsewhere ← optional (doctypeOutside alone definitions)
  let definitions := elsewhere.getD definitions
  gap
  match ← get with
  | '[' :: rest =>
      set rest
      let definitions ← subset alone definitions
      gap
      word ['>']
      return definitions
  | _ =>
      word ['>']
      return definitions

def doctype? (alone : Bool) (definitions : Definitions) : Reader Definitions := do
  match after? doctypeMark (← get) with
  | some rest =>
      set rest
      doctype alone definitions
  | none => return definitions

/-- Takes all that stands before the root element and after the declaration, and adds what it says
to some definitions. -/
def prolog (alone : Bool) (definitions : Definitions) : Reader Definitions := do
  asides
  let definitions ← doctype? alone definitions
  asides
  return definitions

end Reader

end OverlayPatch.Markup
