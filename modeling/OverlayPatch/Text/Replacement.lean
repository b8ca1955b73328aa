import OverlayPatch.Number.Literal
import OverlayPatch.Text.Identifier

/-!
# Replacement texts

The text that takes the place of a find may refer to the find itself, as `\g<0>`, and may hold
escapes: `\n` and the like, the code of a character in octal digits, and a doubled backslash. A
backslash before any other character that is no letter stands for itself. A find has no parts
of its own, so a reference to anything but the whole of it is a flaw.

Flaws are told with their position. A backslash at the very end is noticed one step early,
before anything is said about what stands in front of it.
-/

namespace OverlayPatch.Text

set_option autoImplicit false

inductive ReplacementPart where
  | char (c : Char)
  /-- The text that is replaced. -/
  | whole
deriving Repr, DecidableEq

inductive ReplacementFlaw where
  /-- A backslash ends the text. -/
  | openEscape
  | badEscape (c : Char)
  | largeOctal (digits : List Char)
  | noBracket
  | noName
  | openName
  | badName (name : List Char)
  | noGroup (index : Nat)
deriving Repr, DecidableEq

def ReplacementFlaw.message : ReplacementFlaw → String
  | openEscape => "bad escape (end of pattern)"
  | badEscape c => String.ofList ("bad escape \\".toList ++ [c])
  | largeOctal digits =>
      String.ofList ("octal escape value \\".toList ++ digits) ++ " outside of range 0-0o377"
  | noBracket => "missing <"
  | noName => "missing group name"
  | openName => "missing >, unterminated name"
  | badName name => "bad character in group name " ++ quoted (String.ofList name)
  | noGroup index => s!"invalid group reference {index}"

/-- Why a text cannot be used as a replacement. -/
inductive ReplacementError where
  | flawed (flaw : ReplacementFlaw) (text : List Char) (position : Nat)
  /-- A part of the find is referred to by a name. -/
  | unknownName (name : List Char)
deriving Repr, DecidableEq

def ReplacementError.message : ReplacementError → String
  | flawed flaw text position =>
      let before := text.take position
      let column := (before.reverse.takeWhile (· ≠ '\n')).length + 1
      let line := before.count '\n' + 1
      let place := if text.contains '\n' then s!" (line {line}, column {column})" else ""
      flaw.message ++ s!" at position {position}" ++ place
  | unknownName name => "unknown group name " ++ quoted (String.ofList name)

namespace Replacement

/-- A flaw `back` characters before what is left of the text. -/
def flawAt {α : Type} (text rest : List Char) (back : Nat) (flaw : ReplacementFlaw) :
    Except ReplacementError α :=
  .error (.flawed flaw text (text.length - rest.length - back))

/-- Goes on unless only a backslash is left. -/
def checkEnd (text rest : List Char) : Except ReplacementError Unit :=
  if rest = ['\\'] then flawAt text rest 0 .openEscape else .ok ()

/-- Reads a name up to its closing bracket; `name` holds what was read of it. -/
def readName (text : List Char) :
    List Char → List Char → Except ReplacementError (List Char × List Char)
  | name, [] =>
      if name.isEmpty then flawAt text [] 0 .noName else flawAt text [] name.length .openName
  | _, ['\\'] => flawAt text ['\\'] 0 .openEscape
  | name, '\\' :: c :: cs => readName text (name ++ ['\\', c]) cs
  | name, '>' :: cs => do
      checkEnd text cs
      if name.isEmpty then flawAt text cs 1 .noName else return (name, cs)
  | name, c :: cs => readName text (name ++ [c]) cs

/-- The part of the find that a name in brackets stands for. -/
def named (text rest name : List Char) : Except ReplacementError ReplacementPart :=
  if isIdentifier name then .error (.unknownName name)
  else
    match Number.readInt .decimal (String.ofList name) with
    | .ok (.ofNat 0) => .ok .whole
    | .ok (.ofNat index) => flawAt text rest (name.length + 1) (.noGroup index)
    | _ => flawAt text rest (name.length + 1) (.badName name)

def isOctal (c : Char) : Bool :=
  decide ('0' ≤ c ∧ c ≤ '7')

def octalValue (digits : List Char) : Nat :=
  Number.digitsValue 8 digits

/-- The digits of an escape that starts with a digit: those of an octal code, or up to two of
the number of a part. -/
def escapeDigits (first : Char) (rest : List Char) : List Char :=
  if first = '0' then first :: (rest.take 2).takeWhile isOctal
  else
    match rest with
    | a :: b :: _ =>
        if isOctal first && isOctal a && isOctal b then [first, a, b]
        else if a.isDigit then [first, a]
        else [first]
    | [a] => if a.isDigit then [first, a] else [first]
    | [] => [first]

/-- What an escape of digits stands for, `rest` being what follows it. -/
def numbered (text rest digits : List Char) : Except ReplacementError ReplacementPart :=
  if digits.head? = some '0' ∨ digits.length = 3 then
    let code := octalValue digits
    if code < 256 then .ok (.char (Char.ofNat code))
    else flawAt text rest (digits.length + 1) (.largeOctal digits)
  else flawAt text rest digits.length (.noGroup (Number.digitsValue 10 digits))

/-- The characters that have an escape of one letter. -/
def letterEscape? : Char → Option Char
  | 'a' => some '\x07'
  | 'b' => some '\x08'
  | 'f' => some '\x0c'
  | 'n' => some '\n'
  | 'r' => some '\r'
  | 't' => some '\t'
  | 'v' => some '\x0b'
  | '\\' => some '\\'
  | _ => none

/-- Reads what a backslash and the character after it begin: its parts, and the number of
characters after the two that belong to it. -/
def readEscape (text : List Char) (c : Char) (rest : List Char) :
    Except ReplacementError (List ReplacementPart × Nat) := do
  checkEnd text rest
  if c = 'g' then
    match rest with
    | '<' :: inner =>
        checkEnd text inner
        let (name, after) ← readName text [] inner
        let part ← named text after name
        return ([part], rest.length - after.length)
    | _ => flawAt text rest 0 .noBracket
  else if c.isDigit then
    let digits := escapeDigits c rest
    let after := rest.drop (digits.length - 1)
    checkEnd text after
    let part ← numbered text after digits
    return ([part], digits.length - 1)
  else
    match letterEscape? c with
    | some d => return ([.char d], 0)
    | none =>
        if c.isAlpha then flawAt text rest 2 (.badEscape c)
        else return ([.char '\\', .char c], 0)

/-- Reads on, the next `skip` characters being part of an escape already read. -/
def readFrom (text : List Char) :
    Nat → List Char → Except ReplacementError (List ReplacementPart)
  | _, [] => .ok []
  | skip + 1, _ :: cs => readFrom text skip cs
  | 0, ['\\'] => flawAt text ['\\'] 0 .openEscape
  | 0, '\\' :: c :: cs => do
      let (parts, more) ← readEscape text c cs
      let rest ← readFrom text more cs
      return parts ++ rest
  | 0, c :: cs => do
      checkEnd text cs
      let rest ← readFrom text 0 cs
      return .char c :: rest

def read (text : String) : Except ReplacementError (List ReplacementPart) :=
  readFrom text.toList 0 text.toList

def write (find : List Char) (parts : List ReplacementPart) : List Char :=
  parts.flatMap fun
    | .char c => [c]
    | .whole => find

end Replacement

end OverlayPatch.Text
