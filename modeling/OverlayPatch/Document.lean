import OverlayPatch.Bytes.Base64
import OverlayPatch.Markup.Encoding
import OverlayPatch.Number.Literal
import OverlayPatch.Patch

/-!
# Patch documents

A document is written as XML: an `overlay` element for each patch, with the overlay's name and
load address, a `patch` element for each write and an `append` element for the bytes behind the
overlay. Addresses are decimal and bytes are base64.

Reading looks at these elements only where they belong, directly below their parents, and
passes over everything else.
-/

namespace OverlayPatch

set_option autoImplicit false

namespace Document

/-! ## Writing -/

/-- A character of an attribute's value. White space other than the space would be read back
as a space, so it is written by its number. -/
def escapeChar : Char → List Char
  | '&' => "&amp;".toList
  | '<' => "&lt;".toList
  | '>' => "&gt;".toList
  | '"' => "&quot;".toList
  | '\r' => "&#13;".toList
  | '\n' => "&#10;".toList
  | '\t' => "&#09;".toList
  | c => [c]

def escape (text : String) : String :=
  String.ofList (text.toList.flatMap escapeChar)

def base64 (bytes : List UInt8) : String :=
  String.ofList (Bytes.Base64.encode bytes)

def writeLine (write : Write) : Except Number.LiteralError String := do
  let location ← Number.writeInt write.location
  return s!"    <patch location=\"{location}\" value=\"{base64 write.value}\" />\n"

def appendLine (blob : List UInt8) : String :=
  if blob.isEmpty then "    <append />\n" else s!"    <append>{base64 blob}</append>\n"

def patchLines (patch : Patch) : Except Number.LiteralError String := do
  let base ← Number.writeInt patch.base
  let writes ← patch.writes.mapM writeLine
  return s!"  <overlay name=\"{escape patch.name}\" start=\"{base}\">\n" ++
    String.join writes ++ appendLine patch.blob ++ "  </overlay>\n"

/-- The declaration that opens every document. -/
def opening : String := "<?xml version='1.0' encoding='utf-8'?>\n"

/-- Writes a document, unless an address has too many digits. -/
def write (document : Document) : Except Number.LiteralError String := do
  let patches ← document.patches.mapM patchLines
  if patches.isEmpty then return opening ++ "<overlays />\n"
  else return opening ++ "<overlays>\n" ++ String.join patches ++ "</overlays>\n"

/-! ## Reading -/

/-- Why a text is no patch document. -/
inductive ReadError where
  /-- It is not well formed. -/
  | malformed
  /-- Its encoding cannot be used. -/
  | encoding (problem : Markup.EncodingProblem)
  /-- The root element has another name. -/
  | otherRoot (tag : String)
  /-- A write has no location. -/
  | noLocation
  | number (error : Number.LiteralError)
  | bytes (error : Bytes.Base64.Error)
deriving Repr, DecidableEq

def ReadError.message : ReadError → String
  | malformed => "document is not well-formed"
  | encoding problem => problem.message
  | otherRoot tag => s!"expected <overlays> root, found <{tag}>"
  | noLocation =>
      "int() argument must be a string, a bytes-like object or a real number, not 'NoneType'"
  | number error => error.message
  | bytes error => error.message

def readNumber (text : String) : Except ReadError Int :=
  (Number.readInt .decimal text).mapError .number

def readBytes (text : String) : Except ReadError (List UInt8) :=
  (Bytes.Base64.decode text).mapError .bytes

/-- The write of a `patch` element. -/
def readWrite (element : Markup.Element) : Except ReadError Write := do
  let location ← match element.get? "location" with
    | some text => readNumber text
    | none => .error .noLocation
  let value ← readBytes ((element.get? "value").getD "")
  return { location, value }

/-- The patch of an `overlay` element. -/
def readPatch (element : Markup.Element) : Except ReadError Patch := do
  let writes ← (element.named "patch").mapM readWrite
  let blob ← match (element.named "append").head? with
    | some append => readBytes append.lead
    | none => pure []
  let base ← readNumber ((element.get? "start").getD "0")
  return { name := (element.get? "name").getD "", base, writes, blob }

def ofElement (root : Markup.Element) : Except ReadError Document := do
  if root.tag ≠ "overlays" then throw (.otherRoot root.tag)
  let patches ← (root.named "overlay").mapM readPatch
  return { patches }

/-- What a flaw of the markup means for the document. -/
def ReadError.ofFlaw : Markup.Flaw → ReadError
  | .malformed => .malformed
  | .encoding problem => .encoding problem

def read (text : String) : Except ReadError Document := do
  let root ← (Markup.Element.ofText text).mapError ReadError.ofFlaw
  ofElement root

def ofBytes (bytes : List UInt8) : Except ReadError Document := do
  let root ← (Markup.Element.ofBytes bytes).mapError ReadError.ofFlaw
  ofElement root

end Document

end OverlayPatch
