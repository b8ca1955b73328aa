import OverlayPatch.Markup.Reader
import OverlayPatch.Number.Digit

/-!
# Tokens of markup

The content of a document as a list of tokens: characters, references, tags, and asides
(comments and processing instructions), which say nothing. Literal characters and those that
stand in a section or behind a reference are told apart, since only literal white space may
follow the root element.

An attribute's value is kept as pieces, because the entities it refers to are known to the
document and not to the tag.
-/

namespace OverlayPatch.Markup

set_option autoImplicit false

/-- A name with its qualifier, which is empty where there is none. -/
structure Name where
  space : String := ""
  base : String
deriving Repr, DecidableEq

/-- A piece of a text: a character, or a reference to an entity. -/
inductive Piece where
  | char (c : Char)
  | entity (name : String)
deriving Repr, DecidableEq

def Piece.char? : Piece → Option Char
  | char c => some c
  | entity _ => none

structure Attribute where
  name : Name
  value : List Piece
deriving Repr, DecidableEq

inductive Token where
  /-- A literal character. -/
  | char (c : Char)
  /-- Characters of a section, or the one behind a reference. -/
  | data (text : List Char)
  | entity (name : String)
  /-- A start tag; `closed` if the element ends with it. -/
  | start (name : Name) (attributes : List Attribute) (closed : Bool)
  | finish (name : Name)
  /-- A comment or processing instruction. -/
  | aside
deriving Repr, DecidableEq

/-- The characters that have names everywhere. -/
def namedChar? : String → Option Char
  | "lt" => some '<'
  | "gt" => some '>'
  | "amp" => some '&'
  | "quot" => some '"'
  | "apos" => some '\''
  | _ => none

namespace Reader

/-- Takes a name that may be qualified. -/
def name : Reader Name := do
  let first ← plainName
  match ← get with
  | ':' :: rest =>
      set rest
      let base ← plainName
      return { space := first, base }
  | _ => return { base := first }

/-- The character of a code point given in digits, if it may stand in a document. -/
def charOfDigits? (base : Nat) (digits : List Char) : Option Char :=
  let n := digits.foldl (fun n c => n * base + (Number.digitValue? c).getD 0) 0
  if h : n.isValidChar then
    let c := Char.ofNatAux n h
    if isLegal c then some c else none
  else none

/-- Takes a reference after its ampersand. -/
def reference : Reader Piece := do
  match ← get with
  | '#' :: 'x' :: rest =>
      set rest
      let digits ← many1 fun c => c.isDigit || ('a' ≤ c && c ≤ 'f') || ('A' ≤ c && c ≤ 'F')
      word [';']
      return .char (← charOfDigits? 16 digits)
  | '#' :: rest =>
      set rest
      let digits ← many1 Char.isDigit
      word [';']
      return .char (← charOfDigits? 10 digits)
  | _ =>
      let name ← plainName
      word [';']
      match namedChar? name with
      | some c => return .char c
      | none => return .entity name

/-- Takes a piece of an attribute's value. White space of any kind counts as a space. -/
def valuePiece : Reader Piece
  | _, [] => none
  | alphabet, c :: cs =>
      if c = '&' then reference alphabet cs
      else if c = '<' then none
      else if isSpace c then some (.char ' ', cs)
      else if isLegal c then some (.char c, cs)
      else none

def atChar (c : Char) : List Char → Bool
  | [] => false
  | d :: _ => d == c

/-- Takes an attribute's value in quotes of either kind. -/
def value : Reader (List Piece) := do
  let quote ← charOf fun c => c == '"' || c == '\''
  let pieces ← repeatUntil (atChar quote) valuePiece
  word [quote]
  return pieces

/-- Takes an attribute and the white space before it. -/
def tagAttribute : Reader Attribute := do
  gap1
  let name ← name
  gap
  word ['=']
  gap
  let value ← value
  return { name, value }

/-- Nothing but the end of the tag is left of it. -/
def atTagEnd (cs : List Char) : Bool :=
  let rest := cs.dropWhile isSpace
  startsWith ['>'] rest || startsWith ['/', '>'] rest

def startTag : Reader Token := do
  let name ← name
  let attributes ← repeatUntil atTagEnd tagAttribute
  gap
  match ← get with
  | '/' :: rest =>
      set rest
      word ['>']
      return .start name attributes true
  | _ =>
      word ['>']
      return .start name attributes false

def endTag : Reader Token := do
  let name ← name
  gap
  word ['>']
  return .finish name

/-- Takes a comment after its opening mark. Two hyphens end it. -/
def comment : Reader Unit := do
  let _ ← upTo ['-', '-']
  word ['>']

/-- The target `xml` is kept for the declaration of a document, in whatever case. -/
def isReserved (target : String) : Bool :=
  String.ofList (target.toList.map Char.toLower) == "xml"

/-- Takes a processing instruction after its opening mark. -/
def instruction : Reader Unit := do
  let target ← plainName
  guard (!isReserved target)
  match ← get with
  | '?' :: _ => word ['?', '>']
  | _ =>
      gap1
      let _ ← upTo ['?', '>']

def sectionMark : List Char := "<![CDATA[".toList

def token : Reader Token := do
  match ← get with
  | [] => failure
  | '<' :: '/' :: rest =>
      set rest
      endTag
  | '<' :: '?' :: rest =>
      set rest
      instruction
      return .aside
  | '<' :: '!' :: '-' :: '-' :: rest =>
      set rest
      comment
      return .aside
  | '<' :: rest =>
      match after? sectionMark ('<' :: rest) with
      | some inner =>
          set inner
          return .data (← upTo "]]>".toList)
      | none =>
          set rest
          startTag
  | '&' :: rest =>
      set rest
      match ← reference with
      | .char c => return .data [c]
      | .entity name => return .entity name
  | ']' :: ']' :: '>' :: _ => failure
  | c :: rest =>
      guard (isLegal c)
      set rest
      return .char c

end Reader

namespace Token

/-- The tokens of content whose line ends are line feeds. -/
def readAll (alphabet : Alphabet) (cs : List Char) : Option (List Token) :=
  Reader.all Reader.token alphabet cs

/-- References to entities stand inside elements only, `depth` of which are open. -/
def refersInside : Nat → List Token → Bool
  | _, [] => true
  | depth, .start _ _ false :: tokens => refersInside (depth + 1) tokens
  | depth, .finish _ :: tokens => refersInside (depth - 1) tokens
  | depth, .entity _ :: tokens => decide (0 < depth) && refersInside depth tokens
  | depth, _ :: tokens => refersInside depth tokens

end Token

end OverlayPatch.Markup
