import OverlayPatch.Number.Hex
import OverlayPatch.Text.Blank
import OverlayPatch.Text.Line
import OverlayPatch.Text.Utf8

/-!
# Faults of a module

A `Fault` says why one module could not be assembled: a cause, and as much of its context as
the place that found it knew. Outer stages fill in what is missing and never overwrite what
an inner stage said. `Fault.render` is the only place where a fault becomes text.
-/

namespace OverlayPatch

set_option autoImplicit false

inductive FaultKind where
  | general
  | source
  | unresolved
  | duplicate
  | encoding
  | size
  | range
  | overlay
deriving Repr, DecidableEq

/-- Why a module could not be assembled. -/
inductive Cause where
  /-- A cause of some family in the reporter's own words. -/
  | stated (kind : FaultKind) (message : String)
  | malformedHeader (header : String) (line : Nat)
  | noDirectives
  | unnamedDeclaration (line : String)
  | crowdedLine (names : List String) (line : String)
  | notUtf8 (reason : Text.Utf8.Reason)
  | unreadableSource (path reason : String)
  | unreadableOverlay (path reason : String)
  | unresolved (symbol : String) (similar : List String)
  | duplicate (symbol : String)
  | rejected (message : String)
  | wrongSize (expected actual : Int)
  | variablePastEnd (name : String)
  | hooksPastEnd
deriving Repr, DecidableEq

namespace Cause

def kind : Cause → FaultKind
  | stated kind _ => kind
  | malformedHeader .. | noDirectives | unnamedDeclaration _ | crowdedLine .. => .source
  | notUtf8 _ | unreadableSource .. => .source
  | unreadableOverlay .. => .overlay
  | unresolved .. => .unresolved
  | duplicate _ => .duplicate
  | rejected _ => .encoding
  | wrongSize .. => .size
  | variablePastEnd _ | hooksPastEnd => .range

def message : Cause → String
  | stated _ message => message
  | malformedHeader header line => s!"malformed directive header '{header}' on line {line}"
  | noDirectives => "no directives found"
  | unnamedDeclaration line => s!"append line without a variable name: '{line}'"
  | crowdedLine names line =>
      let listed := String.intercalate ", " names
      s!"line uses more than one variable marker ({listed}): '{line}'"
  | notUtf8 reason => s!"source is not valid UTF-8: {reason.message}"
  | unreadableSource path reason => s!"cannot read source {path}: {reason}"
  | unreadableOverlay path reason => s!"cannot read overlay binary {path}: {reason}"
  | unresolved symbol _ => s!"unresolved variable reference '[{symbol}]'"
  | duplicate symbol => s!"duplicate variable '{symbol}'"
  | rejected message => message
  | wrongSize expected actual => s!"replacement encodes to {actual} bytes, expected {expected}"
  | variablePastEnd name => s!"variable '{name}' ends past 0xFFFFFFFF"
  | hooksPastEnd => "hook routines extend past 0xFFFFFFFF"

end Cause

/-- A cause with its context. A context that is present but empty is kept and not shown. -/
structure Fault where
  cause : Cause
  /-- The module's name. -/
  origin : Option String := none
  /-- The mode of the directive at fault. -/
  mode : Option String := none
  /-- The insertion point of the directive at fault. -/
  address : Option Int := none
  hint : Option String := none
deriving Repr, DecidableEq

/-- What an outer stage knows about where a fault arose. -/
structure Context where
  origin : Option String := none
  mode : Option String := none
  address : Option Int := none
deriving Repr, DecidableEq

/-- A text that is present and not empty. -/
def shown? (text : Option String) : Option String :=
  text.filter (· ≠ "")

namespace Fault

/-- Fills in the context that is missing. -/
def within (context : Context) (fault : Fault) : Fault :=
  { fault with
    origin := fault.origin <|> context.origin
    mode := fault.mode <|> context.mode
    address := fault.address <|> context.address }

/-- Gives a hint unless there is one. -/
def withHint (hint : String) (fault : Fault) : Fault :=
  { fault with hint := shown? fault.hint <|> some hint }

/-- The directive as messages name it: its mode, and its address where known. -/
def place? (separator : String) (fault : Fault) : Option String :=
  (shown? fault.mode).map fun mode =>
    match fault.address with
    | none => mode
    | some point => mode ++ separator ++ Number.address point

/-- The fault as one text: where, what, and a hint on a line of its own. -/
def render (fault : Fault) : String :=
  let parts := [shown? fault.origin, fault.place? " @ "].filterMap id
  let head := String.join (parts.map (· ++ ": "))
  let tail := match shown? fault.hint with
    | none => ""
    | some hint => "\nhint: " ++ hint
  head ++ "error: " ++ fault.cause.message ++ tail

/-- A reference to a variable that is not placed. The names that come close serve as the
hint where there is no other. -/
def unresolved (symbol : String) (origin hint : Option String) (similar : List String) : Fault :=
  let suggestion :=
    if similar.isEmpty then hint
    else
      let names := String.intercalate ", " ((similar.take 3).map fun name => s!"'{name}'")
      some s!"did you mean {names}?"
  { cause := .unresolved symbol similar
    origin
    mode := some "append"
    hint := shown? hint <|> suggestion }

def duplicate (symbol : String) (origin : Option String) : Fault :=
  { cause := .duplicate symbol
    origin
    mode := some "append"
    hint := some s!"'{symbol}' is already declared in an append block" }

/-- The first line of a text, blanks around the text dropped. -/
def firstLine? (text : String) : Option String :=
  (Text.splitBreaks (Text.trim text.toList)).head?.map String.ofList

/-- A text that the encoder refuses; its first line serves as the hint. -/
def rejection (message : String) (source : Option String) (context : Context := {}) : Fault :=
  { cause := .rejected message
    origin := context.origin
    mode := context.mode
    address := context.address
    hint := (source.bind firstLine?).map ("while encoding: " ++ ·) }

/-- A replacement that is not exactly one instruction wide. -/
def wrongSize (expected actual : Int) (origin : Option String) (address : Option Int) : Fault :=
  { cause := .wrongSize expected actual
    origin
    mode := some "repl"
    address
    hint := some "a repl routine must be exactly one instruction; use hook for longer code" }

end Fault

/-- An error of the assembler: one that concerns a module, or one in plain words. -/
inductive AssemblerError where
  | general (message : String)
  | fault (fault : Fault)
deriving Repr, DecidableEq

namespace AssemblerError

def render : AssemblerError → String
  | general message => message
  | fault f => f.render

def mode : AssemblerError → Option String
  | general _ => none
  | fault f => f.mode

def address : AssemblerError → Option Int
  | general _ => none
  | fault f => f.address

def hint : AssemblerError → Option String
  | general _ => none
  | fault f => f.hint

end AssemblerError

end OverlayPatch
