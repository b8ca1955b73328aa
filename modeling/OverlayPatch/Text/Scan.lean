/-!
# Scanning a text for patterns

A `Pattern` looks at one position: it sees the character before and the text from there
on, and says what it finds and how many characters that covers. `scan` tries it from left to
right, never inside an earlier find, and cuts the text into `Piece`s. Everything the
assembler looks for in a text is found this way, so the pieces are the single view from
which finds are listed (`finds`), replaced (`replace`) or used as section headings
(`sections`).
-/

namespace OverlayPatch.Text

set_option autoImplicit false

/-- What a pattern finds at a position, and the number of characters it covers. -/
abbrev Pattern (α : Type) := Option Char → List Char → Option (α × Nat)

/-- A text cut by a scan: a character of its own, or a find with the text it covers. -/
inductive Piece (α : Type) where
  | plain (c : Char)
  | find (value : α) (covers : List Char)
deriving Repr, DecidableEq

namespace Piece

variable {α : Type}

def source : Piece α → List Char
  | plain c => [c]
  | find _ covers => covers

def value? : Piece α → Option α
  | plain _ => none
  | find value _ => some value

/-- The piece written anew, a find by `f` of its value. -/
def write (f : α → List Char) : Piece α → List Char
  | plain c => [c]
  | find value _ => f value

end Piece

variable {α : Type}

/-- Scans on, the next `skip` characters being covered by a find already made. -/
def scanFrom (pattern : Pattern α) : Nat → Option Char → List Char → List (Piece α)
  | _, _, [] => []
  | skip + 1, _, c :: cs => scanFrom pattern skip (some c) cs
  | 0, before, c :: cs =>
      match pattern before (c :: cs) with
      | none => .plain c :: scanFrom pattern 0 (some c) cs
      | some (value, size) =>
          .find value ((c :: cs).take size) :: scanFrom pattern (size - 1) (some c) cs

/-- Cuts a text at the leftmost finds that do not overlap. -/
def scan (pattern : Pattern α) (cs : List Char) : List (Piece α) :=
  scanFrom pattern 0 none cs

def finds (pieces : List (Piece α)) : List α :=
  pieces.filterMap Piece.value?

def replace (f : α → List Char) (pieces : List (Piece α)) : List Char :=
  pieces.flatMap (Piece.write f)

/-- The text before the first find, then each find with the text up to the next. -/
def sections : List (Piece α) → List Char × List (α × List Char)
  | [] => ([], [])
  | .plain c :: pieces =>
      let rest := sections pieces
      (c :: rest.1, rest.2)
  | .find value _ :: pieces =>
      let rest := sections pieces
      ([], (value, rest.1) :: rest.2)

end OverlayPatch.Text
