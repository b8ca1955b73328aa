import OverlayPatch.Fault
import OverlayPatch.Number.Digit
import OverlayPatch.Text.Line
import OverlayPatch.Text.Scan
import OverlayPatch.Text.Word

/-!
# Directives of a module

A module's text is cut at its headers, `a<mode>_<8 hex digits>:`. Each header and the text
up to the next one make a `Directive`; what stands before the first header is no directive's.

A header is found wherever its text occurs, inside a longer word too. A *candidate* is what
looks like a header and begins a word, whatever its address part; one that is no header is
refused before the text is cut, so that a mistyped header never becomes part of a body.
-/

namespace OverlayPatch

set_option autoImplicit false

/-- How a directive's body gets into the overlay. -/
inductive Mode where
  | append
  | hook
  | repl
deriving Repr, DecidableEq

def Mode.letters : Mode → List Char
  | append => ['a', 'p', 'p', 'e', 'n', 'd']
  | hook => ['h', 'o', 'o', 'k']
  | repl => ['r', 'e', 'p', 'l']

def Mode.name (mode : Mode) : String :=
  String.ofList mode.letters

/-- Where a directive's body belongs. -/
inductive Site where
  | append
  | hook (address : Int)
  | repl (address : Int)
deriving Repr, DecidableEq

namespace Site

def mode : Site → Mode
  | append => .append
  | hook _ => .hook
  | repl _ => .repl

def address? : Site → Option Int
  | append => none
  | hook address | repl address => some address

/-- The site that a mode and an address name; an append site has no address. -/
def ofMode (mode : Mode) (address : Int) : Site :=
  match mode with
  | .append => append
  | .hook => hook address
  | .repl => repl address

end Site

/-- A directive: where its body belongs, and the body. -/
structure Directive where
  site : Site
  body : String
deriving Repr, DecidableEq

namespace Directive

def mode (directive : Directive) : Mode :=
  directive.site.mode

def address? (directive : Directive) : Option Int :=
  directive.site.address?

end Directive

/-- A header-shaped text: its mode and what stands in place of the address. -/
structure Header where
  mode : Mode
  digits : List Char
deriving Repr, DecidableEq

namespace Header

def text (header : Header) : List Char :=
  'a' :: header.mode.letters ++ '_' :: header.digits ++ [':']

/-- A hexadecimal digit of an address, ASCII only. -/
def isHexDigit (c : Char) : Bool :=
  decide (c.toNat < 128) && (Number.digitValue? c).isSome

/-- The address part is exactly eight hexadecimal digits. -/
def isWellFormed (header : Header) : Bool :=
  header.digits.length == 8 && header.digits.all isHexDigit

def address (header : Header) : Nat :=
  (header.digits.filterMap Number.digitValue?).foldl (fun value digit => value * 16 + digit) 0

/-- The letter, mode and underscore that headers of a mode start with. -/
def lead (mode : Mode) : List Char :=
  'a' :: mode.letters ++ ['_']

/-- The mode that a text announces, and the text after the underscore. -/
def readLead? (cs : List Char) : Option (Mode × List Char) :=
  [Mode.repl, .hook, .append].findSome? fun mode =>
    if (lead mode).isPrefixOf cs then some (mode, cs.drop (lead mode).length) else none

def read? (cs : List Char) : Option Header :=
  (readLead? cs).bind fun (mode, rest) =>
    let header : Header := { mode, digits := rest.take 8 }
    if header.isWellFormed && (rest.drop 8).head? == some ':' then some header else none

def readCandidate? (cs : List Char) : Option Header :=
  (readLead? cs).bind fun (mode, rest) =>
    let (digits, rest) := Text.spanWord rest
    if rest.head? == some ':' then some { mode, digits } else none

def pattern : Text.Pattern Header := fun _ cs =>
  (read? cs).map fun header => (header, header.text.length)

/-- Candidates, where a word begins. -/
def candidatePattern : Text.Pattern Header := fun before cs =>
  if before.any Text.isWord then none
  else (readCandidate? cs).map fun header => (header, header.text.length)

def site (header : Header) : Site :=
  Site.ofMode header.mode header.address

end Header

namespace Directive

/-- The first candidate that is no header, with the number of its line; `line` is the line
that the pieces start on. -/
def firstMalformed? : Nat → List (Text.Piece Header) → Option (Header × Nat)
  | _, [] => none
  | line, .plain c :: pieces => firstMalformed? (if c = '\n' then line + 1 else line) pieces
  | line, .find header covers :: pieces =>
      if header.isWellFormed then firstMalformed? (line + covers.count '\n') pieces
      else some (header, line)

/-- The directive of a header and the text below it. -/
def ofSection (section_ : Header × List Char) : Directive :=
  { site := section_.1.site, body := String.ofList section_.2 }

/-- Cuts a module's text into its directives, in order. -/
def readAll (origin text : String) : Except Fault (List Directive) :=
  let cs := Text.foldNewlines text.toList
  match firstMalformed? 1 (Text.scan Header.candidatePattern cs) with
  | some (header, line) =>
      .error
        { cause := .malformedHeader (String.ofList header.text) line
          origin := some origin
          mode := some header.mode.name
          hint := some "headers are a<mode>_<8 hex digits>:, e.g. ahook_020D1234:" }
  | none =>
      let sections := (Text.sections (Text.scan Header.pattern cs)).2
      if sections.isEmpty then
        .error
          { cause := .noDirectives
            origin := some origin
            hint := some "expected at least one arepl_, ahook_ or aappend_ header" }
      else .ok (sections.map ofSection)

end Directive

end OverlayPatch
