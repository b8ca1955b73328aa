import OverlayPatch.Text.Similar
import OverlayPatch.Text.Quoted

/-!
# Arguments of the command

Options are given by long names or by letters. A long name may carry its value behind an equals
sign; letters may stand together in one argument, and the first that takes a value takes the
rest of it. Two hyphens end the options. What is no option is left over.

`read` only sorts the arguments. Whether the values make sense is for `Options` to say.
-/

namespace OverlayPatch.Command

set_option autoImplicit false

inductive Key where
  | source
  | overlays
  | output
  | strict
  | jobs
  | baseAddress
  | verbose
  | version
  | help
deriving Repr, DecidableEq

inductive Value where
  | text (text : String)
  | on
  | off
deriving Repr, DecidableEq

/-- How an option is spelled; one that takes no value says what it stands for. -/
structure Spelling where
  text : String
  key : Key
  stands : Option Value := none
deriving Repr, DecidableEq

def longSpellings : List Spelling :=
  [{ text := "--source", key := .source },
    { text := "--overlays", key := .overlays },
    { text := "--output", key := .output },
    { text := "--strict", key := .strict, stands := some .on },
    { text := "--no-strict", key := .strict, stands := some .off },
    { text := "--jobs", key := .jobs },
    { text := "--base-address", key := .baseAddress },
    { text := "--verbose", key := .verbose, stands := some .on },
    { text := "--version", key := .version, stands := some .on },
    { text := "--help", key := .help, stands := some .on }]

def shortSpellings : List Spelling :=
  [{ text := "-s", key := .source },
    { text := "-l", key := .overlays },
    { text := "-o", key := .output },
    { text := "-j", key := .jobs },
    { text := "-v", key := .verbose, stands := some .on }]

structure Given where
  key : Key
  value : Value
deriving Repr, DecidableEq

/-- Why arguments cannot be sorted. -/
inductive ArgumentError where
  | unknown (name : String) (similar : List String)
  | needsArgument (name : String)
  | takesNoValue (name : String)
deriving Repr, DecidableEq

/-- The options given in order, and what is left over. -/
structure Arguments where
  given : List Given := []
  extra : List String := []
deriving Repr, DecidableEq

/-- What one argument says: options, and one more that still needs its value. -/
structure Reading where
  given : List Given := []
  pending : Option Spelling := none
deriving Repr, DecidableEq

namespace Arguments

/-- The name of a long option and the value behind an equals sign. -/
def splitValue (cs : List Char) : String × Option String :=
  let name := String.ofList (cs.takeWhile (· ≠ '='))
  match cs.dropWhile (· ≠ '=') with
  | [] => (name, none)
  | _ :: value => (name, some (String.ofList value))

def readLong (spelling : Spelling) (value : Option String) : Except ArgumentError Reading :=
  match spelling.stands, value with
  | none, none => .ok { pending := some spelling }
  | none, some text => .ok { given := [{ key := spelling.key, value := .text text }] }
  | some value, none => .ok { given := [{ key := spelling.key, value }] }
  | some _, some _ => .error (.takesNoValue spelling.text)

/-- Reads letters that stand together. -/
def readShort : List Char → Except ArgumentError Reading
  | [] => .ok {}
  | c :: cs =>
      let name := String.ofList ['-', c]
      match shortSpellings.find? (·.text = name) with
      | none => .error (.unknown name [])
      | some spelling =>
          match spelling.stands with
          | some value => do
              let rest ← readShort cs
              return { rest with given := { key := spelling.key, value } :: rest.given }
          | none =>
              if cs.isEmpty then .ok { pending := some spelling }
              else .ok { given := [{ key := spelling.key, value := .text (String.ofList cs) }] }

/-- Reads one argument that starts with a hyphen. -/
def readOption (cs : List Char) : Except ArgumentError Reading :=
  let (name, value) := splitValue cs
  match longSpellings.find? (·.text = name) with
  | some spelling => readLong spelling value
  | none =>
      match cs with
      | '-' :: '-' :: _ =>
          .error (.unknown name (Text.closeNames name (longSpellings.map (·.text))))
      | _ => readShort (cs.drop 1)

/-- An argument that is read as options. -/
def isOption : List Char → Bool
  | '-' :: _ :: _ => true
  | _ => false

def addGiven (given : List Given) (arguments : Arguments) : Arguments :=
  { arguments with given := given ++ arguments.given }

def read : List String → Except ArgumentError Arguments
  | [] => .ok {}
  | argument :: rest =>
      if argument = "--" then .ok { extra := rest }
      else if isOption argument.toList then
        match readOption argument.toList, rest with
        | .error error, _ => .error error
        | .ok { given, pending := none }, rest => (read rest).map (addGiven given)
        | .ok { pending := some spelling, .. }, [] => .error (.needsArgument spelling.text)
        | .ok { given, pending := some spelling }, value :: rest =>
            (read rest).map (addGiven (given ++ [{ key := spelling.key, value := .text value }]))
      else (read rest).map fun arguments =>
        { arguments with extra := argument :: arguments.extra }

end Arguments

end OverlayPatch.Command
