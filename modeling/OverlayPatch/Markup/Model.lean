import OverlayPatch.Markup.Token

/-!
# Models of content

A document type may say what an element contains: nothing, anything, text with elements in
between, or groups of elements in sequence or by choice. Nothing is checked against such a
model, but one that is badly formed makes the document so. It is taken apart into marks, and
the marks are followed with a stack of the groups that are open.
-/

namespace OverlayPatch.Markup

set_option autoImplicit false

/-- A mark of a content model; `times` is the sign that says how often an item occurs. -/
inductive ModelMark where
  | opening
  | closing (times : Option Char)
  /-- A bar between alternatives or a comma in a sequence. -/
  | joint (sign : Char)
  | text
  | element (times : Option Char)
deriving Repr, DecidableEq

/-- How far a content model was read. A group is known by the sign that joins its items, as soon
as there is one; the innermost comes first. -/
inductive Model where
  | blank
  /-- The outermost group was opened. -/
  | opened
  /-- After the text of a mixed model, or after an element that may stand in it. -/
  | mixed (named : Bool)
  | mixedItem
  | item (groups : List (Option Char))
  | next (groups : List (Option Char))
  | whole
deriving Repr, DecidableEq

namespace Model

/-- Reads the start of an item within groups. -/
def enter (groups : List (Option Char)) : ModelMark → Option Model
  | .opening => some (.item (none :: groups))
  | .element _ => some (.next groups)
  | _ => none

/-- Reads one mark. A group has one kind of joint, and text with elements in between is always
repeated. -/
def step : Model → ModelMark → Option Model
  | .blank, .opening => some .opened
  | .opened, .text => some (.mixed false)
  | .opened, mark => enter [none] mark
  | .mixed _, .joint '|' => some .mixedItem
  | .mixed named, .closing times =>
      if times = some '*' ∨ (times = none ∧ named = false) then some .whole else none
  | .mixedItem, .element none => some (.mixed true)
  | .item groups, mark => enter groups mark
  | .next (sign? :: groups), .joint sign =>
      if sign?.all (· == sign) then some (.item (some sign :: groups)) else none
  | .next [_], .closing _ => some .whole
  | .next (_ :: groups), .closing _ => some (.next groups)
  | _, _ => none

end Model

namespace Reader

/-- Takes a name in a document type. After its colon it may go on with any character of a
name. -/
def typeName : Reader Name := do
  let first ← plainName
  match ← get with
  | ':' :: rest =>
      set rest
      let base ← nameRest
      return { space := first, base }
  | _ => return { base := first }

/-- Takes the sign that says how often an item occurs, if there is one. -/
def times : Reader (Option Char) :=
  optional (charOf fun c => c == '?' || c == '*' || c == '+')

/-- Takes a mark of a content model. -/
def modelMark : Reader ModelMark := do
  match ← get with
  | '(' :: rest =>
      set rest
      return .opening
  | ')' :: rest =>
      set rest
      return .closing (← times)
  | '|' :: rest =>
      set rest
      return .joint '|'
  | ',' :: rest =>
      set rest
      return .joint ','
  | '#' :: rest =>
      set rest
      word "PCDATA".toList
      return .text
  | _ =>
      let _ ← typeName
      return .element (← times)

/-- Takes a mark of a content model and the white space after it. -/
def spacedMark : Reader ModelMark := do
  let mark ← modelMark
  gap
  return mark

/-- Takes the content model of an element, up to the closing mark of its declaration. -/
def model : Reader Unit := do
  if atChar '(' (← get) then
    let marks ← repeatUntil (atChar '>') spacedMark
    guard (marks.foldlM Model.step .blank == some .whole)
  else
    let content ← plainName
    guard (content == "EMPTY" || content == "ANY")
    gap

end Reader

end OverlayPatch.Markup
