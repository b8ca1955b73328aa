import OverlayPatch.Number.Hex

/-!
# Templates

A template is a text with fields in braces, such as `ldr {reg}, =0x{address:08X}`. A field names
a value and may say how a number is written; a brace that is text is doubled. Filling a template
fails on a field that has no value, and on one that asks for a text in the style of a number. A
value filled in is never read as a template again.
-/

namespace OverlayPatch.Text

set_option autoImplicit false

/-- The letters of a number's digits. -/
inductive Digits where
  | decimal
  | lowerHex
  | upperHex
deriving Repr, DecidableEq

namespace Digits

def of : Digits → Nat → List Char
  | decimal, n => Nat.toDigits 10 n
  | lowerHex, n => Nat.toDigits 16 n
  | upperHex, n => Number.hexDigits n

/-- The letter by which a field asks for them. -/
def code : Digits → Char
  | decimal => 'd'
  | lowerHex => 'x'
  | upperHex => 'X'

end Digits

/-- How a number is written: its digits, and a least width filled with zeros. -/
structure NumberStyle where
  digits : Digits
  width : Nat := 0
deriving Repr, DecidableEq

def NumberStyle.write (style : NumberStyle) (n : Int) : List Char :=
  Number.padSigned style.width style.digits.of n

/-- A part of a template: text as it stands, or a field, which may ask for a style. -/
inductive TemplatePart where
  | text (cs : List Char)
  | field (name : String) (style : Option NumberStyle)
deriving Repr, DecidableEq

abbrev Template := List TemplatePart

inductive FieldValue where
  | text (s : String)
  | number (n : Int)
deriving Repr, DecidableEq

/-- The values of fields by name. -/
abbrev FieldValues := List (String × FieldValue)

inductive FieldError where
  /-- It has no value. -/
  | unknown (name : String)
  /-- A text was asked for in the style of a number. -/
  | unfit (code : Char)
deriving Repr, DecidableEq

/-- A value as a field shows it. A number without a style is decimal; a text knows no styles. -/
def FieldValue.write : Option NumberStyle → FieldValue → Except FieldError (List Char)
  | none, text s => .ok s.toList
  | some style, text _ => .error (.unfit style.digits.code)
  | none, number n => .ok (NumberStyle.write { digits := .decimal } n)
  | some style, number n => .ok (style.write n)

namespace Template

def fillPart (values : FieldValues) : TemplatePart → Except FieldError (List Char)
  | .text cs => .ok cs
  | .field name style =>
      match values.lookup name with
      | some value => value.write style
      | none => .error (.unknown name)

def fill (values : FieldValues) (template : Template) : Except FieldError String :=
  (fun parts => String.ofList parts.flatten) <$> template.mapM (fillPart values)

/-- The style that a text asks for: a width behind a zero, perhaps, and the letter of the digits. -/
def readStyle? (cs : List Char) : Option NumberStyle := do
  let width := cs.takeWhile Char.isDigit
  guard (width.head?.all (· = '0'))
  let digits ← match cs.dropWhile Char.isDigit with
    | ['d'] => some Digits.decimal
    | ['x'] => some .lowerHex
    | ['X'] => some .upperHex
    | _ => none
  return { digits, width := (String.ofList width).toNat?.getD 0 }

/-- The field that the text between two braces describes. -/
def readField? (cs : List Char) : Option TemplatePart := do
  let name := String.ofList (cs.takeWhile (· ≠ ':'))
  match (cs.dropWhile (· ≠ ':')).drop 1 with
  | [] => return .field name none
  | asked => return .field name (← readStyle? asked)

/-- Reads on; `field` holds the field being read, last character first. -/
def readFrom? : Option (List Char) → List Char → Option Template
  | none, [] => some []
  | some _, [] => none
  | none, '\x7b' :: '\x7b' :: cs => (.text ['\x7b'] :: ·) <$> readFrom? none cs
  | none, '\x7d' :: '\x7d' :: cs => (.text ['\x7d'] :: ·) <$> readFrom? none cs
  | none, c :: cs =>
      if c = '\x7b' then readFrom? (some []) cs
      else if c = '\x7d' then none
      else (.text [c] :: ·) <$> readFrom? none cs
  | some field, c :: cs =>
      if c = '\x7b' then none
      else if c = '\x7d' then do
        let part ← readField? field.reverse
        (part :: ·) <$> readFrom? none cs
      else readFrom? (some (c :: field)) cs

def ofString? (text : String) : Option Template :=
  readFrom? none text.toList

end Template

end OverlayPatch.Text
