/-!
# Lines of a text

Three readings of line ends live here. A source is *folded*: a carriage return before a
line feed is dropped. It is then cut at line feeds only, so that joining the lines with
line feeds gives the text back. Messages are cut at every break that Unicode knows, and a
break at the very end opens no further line.
-/

namespace OverlayPatch.Text

set_option autoImplicit false

/-- Writes every carriage return and line feed pair as one line feed. -/
def foldNewlines : List Char → List Char
  | [] => []
  | '\r' :: '\n' :: cs => '\n' :: foldNewlines cs
  | c :: cs => c :: foldNewlines cs

/-- Writes every line end, a lone carriage return included, as one line feed. -/
def universalNewlines : List Char → List Char
  | [] => []
  | '\r' :: '\n' :: cs => '\n' :: universalNewlines cs
  | c :: cs => (if c = '\r' then '\n' else c) :: universalNewlines cs

def consLine (c : Char) : List (List Char) → List (List Char)
  | [] => [[c]]
  | line :: lines => (c :: line) :: lines

/-- The pieces between occurrences of a character: one more than there are occurrences. -/
def splitOn (mark : Char) : List Char → List (List Char)
  | [] => [[]]
  | c :: cs => if c = mark then [] :: splitOn mark cs else consLine c (splitOn mark cs)

def splitLines (cs : List Char) : List (List Char) :=
  splitOn '\n' cs

def joinLines : List (List Char) → List Char
  | [] => []
  | [line] => line
  | line :: next :: lines => line ++ '\n' :: joinLines (next :: lines)

/-- The characters at which a message is cut into lines. -/
def isBreak (c : Char) : Bool :=
  let n := c.toNat
  decide (10 ≤ n ∧ n ≤ 13) || decide (28 ≤ n ∧ n ≤ 30) || n == 0x85 || n == 0x2028 || n == 0x2029

/-- The lines of a message, cut at every kind of break. -/
def splitBreaks : List Char → List (List Char)
  | [] => []
  | '\r' :: '\n' :: cs => [] :: splitBreaks cs
  | c :: cs => if isBreak c then [] :: splitBreaks cs else consLine c (splitBreaks cs)

end OverlayPatch.Text
