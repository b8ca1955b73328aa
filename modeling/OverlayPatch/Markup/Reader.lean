import OverlayPatch.Markup.Letter

/-!
# Readers

A reader takes a piece off the front of a text, or fails; it knows the alphabet of the text's
names. The readers here know the small parts that all markup is made of: fixed words, white
space, names and stretches up to a closing mark.

`repeatUntil` is the one loop: it reads pieces until the text left over tells it to stop. There
are never more pieces than characters, so the text itself bounds the loop; a loop whose pieces
take nothing off runs out of the bound and fails.
-/

namespace OverlayPatch.Markup

set_option autoImplicit false

/-- Takes a piece off the front of a text, or fails. -/
abbrev Reader (α : Type) := ReaderT Alphabet (StateT (List Char) Option) α

/-- What is left of a text after a given beginning. -/
def after? : List Char → List Char → Option (List Char)
  | [], cs => some cs
  | l :: ls, c :: cs => if l = c then after? ls cs else none
  | _ :: _, [] => none

def startsWith (lead cs : List Char) : Bool :=
  (after? lead cs).isSome

namespace Reader

variable {α : Type}

def word (lead : List Char) : Reader Unit := fun _ cs =>
  (after? lead cs).map ((), ·)

def charOf (test : Char → Bool) : Reader Char
  | _, [] => none
  | _, c :: cs => if test c then some (c, cs) else none

/-- Takes the characters that pass the test, perhaps none. -/
def while_ (test : Char → Bool) : Reader (List Char) := fun _ cs =>
  some (cs.takeWhile test, cs.dropWhile test)

/-- Takes the characters that pass the test, at least one. -/
def many1 (test : Char → Bool) : Reader (List Char) := do
  let c ← charOf test
  let cs ← while_ test
  return c :: cs

/-- Takes white space, perhaps none. -/
def gap : Reader Unit := do
  let _ ← while_ isSpace

/-- Takes white space, at least one character. -/
def gap1 : Reader Unit := do
  let _ ← many1 isSpace

/-- Takes a name without a colon. -/
def plainName : Reader String := do
  let alphabet ← read
  let c ← charOf alphabet.isStart
  let cs ← while_ alphabet.isRest
  return String.ofList (c :: cs)

/-- Takes the characters that names go on with, at least one. -/
def nameRest : Reader String := do
  let alphabet ← read
  let cs ← many1 alphabet.isRest
  return String.ofList cs

/-- The legal characters up to a closing mark, and what follows the mark. -/
def splitAt? (mark : List Char) : List Char → Option (List Char × List Char)
  | [] => none
  | c :: cs =>
      match after? mark (c :: cs) with
      | some rest => some ([], rest)
      | none =>
          if isLegal c then (splitAt? mark cs).map fun (taken, rest) => (c :: taken, rest)
          else none

/-- Takes legal characters up to a closing mark, and the mark. -/
def upTo (mark : List Char) : Reader (List Char) := fun _ cs =>
  splitAt? mark cs

/-- Takes a text in quotes of either kind; no quote of its own kind stands in it. -/
def literal : Reader (List Char) := do
  let quote ← charOf fun c => c == '"' || c == '\''
  upTo [quote]

def optional (piece : Reader α) : Reader (Option α) := fun alphabet cs =>
  match piece alphabet cs with
  | some (a, rest) => some (some a, rest)
  | none => some (none, cs)

/-- Reads pieces until the text left over says to stop, at most one for each character of the
bound. -/
def repeatWithin (stop : List Char → Bool) (piece : List Char → Option (α × List Char)) :
    List Char → List Char → Option (List α × List Char)
  | bound, cs =>
      if stop cs then some ([], cs)
      else
        match bound, piece cs with
        | _ :: bound, some (a, rest) =>
            (repeatWithin stop piece bound rest).map fun (as, left) => (a :: as, left)
        | _, _ => none

/-- Reads pieces until the text left over says to stop. -/
def repeatUntil (stop : List Char → Bool) (piece : Reader α) : Reader (List α) :=
  fun alphabet cs => repeatWithin stop (piece alphabet) cs cs

/-- Reads a whole text as pieces. -/
def all (piece : Reader α) (alphabet : Alphabet) (cs : List Char) : Option (List α) :=
  (repeatUntil List.isEmpty piece alphabet cs).map (·.1)

end Reader

end OverlayPatch.Markup
