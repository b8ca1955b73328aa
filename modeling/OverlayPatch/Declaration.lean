import OverlayPatch.Directive

/-!
# Declarations of an append directive

Every line of an append body that is neither blank nor a comment declares a variable as
`name: <code>`. A line that refers to other variables by `[name]` is an *alias*: its value is
made of their addresses, so it is placed after the variables that stand on their own.
-/

namespace OverlayPatch

set_option autoImplicit false

/-- A declared variable: its name, its whole line, and the names it refers to, in order. -/
structure Declaration where
  name : String
  text : String
  references : List String := []
deriving Repr, DecidableEq

namespace Declaration

/-- The declaration refers to other variables. -/
def isAlias (declaration : Declaration) : Bool :=
  !declaration.references.isEmpty

/-- A word in brackets at the start of a text. -/
def readReference? : List Char → Option (List Char)
  | '[' :: cs =>
      let (name, rest) := Text.spanWord cs
      if !name.isEmpty && rest.head? == some ']' then some name else none
  | _ => none

/-- References, wherever they occur. -/
def referencePattern : Text.Pattern String := fun _ cs =>
  (readReference? cs).map fun name => (String.ofList name, name.length + 2)

def referencesOf (line : List Char) : List String :=
  Text.finds (Text.scan referencePattern line)

def isComment (line : List Char) : Bool :=
  ['@'].isPrefixOf line || [';'].isPrefixOf line || ['/', '/'].isPrefixOf line

/-- The word before the colon that a line starts with. -/
def nameOf? (line : List Char) : Option (List Char) :=
  let (name, rest) := Text.spanWord line
  if !name.isEmpty && rest.head? == some ':' then some name else none

/-- Reads one line without blanks around it. -/
def ofLine (origin : String) (line : List Char) : Except Fault Declaration :=
  match nameOf? line with
  | some name =>
      .ok
        { name := String.ofList name
          text := String.ofList line
          references := referencesOf line }
  | none =>
      .error
        { cause := .unnamedDeclaration (String.ofList line)
          origin := some origin
          mode := some Mode.append.name
          hint := some "declare variables as 'name: <asm>'" }

/-- The lines of a body that declare something, without the blanks around them. -/
def linesOf (body : List Char) : List (List Char) :=
  ((Text.splitLines body).map Text.trim).filter fun line => !line.isEmpty && !isComment line

/-- Reads the declarations of an append body; the first line without a name is at fault. -/
def readBody (origin body : String) : Except Fault (List Declaration) :=
  (linesOf body.toList).mapM (ofLine origin)

def collect (origin : String) (directives : List Directive) : Except Fault (List Declaration) :=
  List.flatten <$> (directives.filter (·.mode = .append)).mapM (readBody origin ·.body)

end Declaration

end OverlayPatch
