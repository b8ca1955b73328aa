/-!
# Names that come close

Two texts are compared by their common blocks: the longest common block is taken first, then
the same is done to the left and to the right of it. Twice the characters so matched, over
the lengths of both texts, is their likeness; names of a likeness of at least three fifths
come close.

In a long word the characters that occur very often say little. They open no block, but a
block may grow over them.
-/

namespace OverlayPatch.Text

set_option autoImplicit false

/-- A common block: where it starts in the one text and in the other, and its size. -/
structure Block where
  left : Nat
  right : Nat
  size : Nat
deriving Repr, DecidableEq

/-- A character of the word, and whether a block may be looked for at it. -/
structure Mark where
  char : Char
  opens : Bool
deriving Repr, DecidableEq

/-- From this length on, frequent characters open no block. -/
def longWord : Nat := 200

/-- Marks the characters of a word at which blocks may be looked for. -/
def marks (word : List Char) : List Mark :=
  let often := word.length / 100 + 1
  word.map fun c =>
    { char := c, opens := decide (word.length < longWord) || decide (word.count c ≤ often) }

/-- The lengths of the common runs that end at each mark, given those one character before. -/
def runs (c : Char) : List Mark → List Nat → List Nat
  | mark :: rest, before :: befores =>
      (if mark.opens && mark.char == c then before + 1 else 0) :: runs c rest befores
  | _, _ => []

/-- The better of a block and the runs that end at a character; an earlier block of the same
size is kept. -/
def betterRun (left : Nat) : Nat → List Nat → Block → Block
  | _, [], best => best
  | right, size :: sizes, best =>
      betterRun left (right + 1) sizes
        (if best.size < size then
          { left := left + 1 - size, right := right + 1 - size, size }
        else best)

/-- The longest common block of what is left of a name and a word; `before` holds the runs that
end one character earlier. -/
def longestFrom (word : List Mark) : Nat → List Char → List Nat → Block → Block
  | _, [], _, best => best
  | left, c :: cs, before, best =>
      let sizes := runs c word (0 :: before)
      longestFrom word (left + 1) cs sizes (betterRun left 0 sizes best)

/-- The length of the longest common beginning. -/
def agreement : List Char → List Mark → Nat
  | c :: cs, mark :: rest => if mark.char = c then agreement cs rest + 1 else 0
  | _, _ => 0

/-- The longest common block, grown to both sides while the characters agree. -/
def longest (name : List Char) (word : List Mark) : Block :=
  let found := longestFrom word 0 name (word.map fun _ => 0) { left := 0, right := 0, size := 0 }
  let back := agreement (name.take found.left).reverse (word.take found.right).reverse
  let on := agreement (name.drop (found.left + found.size)) (word.drop (found.right + found.size))
  { left := found.left - back, right := found.right - back, size := found.size + back + on }

def matched (name : List Char) (word : List Mark) : Nat :=
  match longest name word with
  | { left, right, size } =>
      if 0 < size ∧ left + size ≤ name.length then
        size + matched (name.take left) (word.take right) +
          matched (name.drop (left + size)) (word.drop (right + size))
      else 0
termination_by name.length
decreasing_by
  all_goals
    simp only [List.length_take, List.length_drop]
    omega

/-- A name with its likeness as a fraction. -/
structure Likeness where
  name : String
  agreed : Nat
  total : Nat
deriving Repr, DecidableEq

/-- The likeness of a name to a word; two empty texts are alike. -/
def likeness (word : List Mark) (name : String) : Likeness :=
  let cs := name.toList
  let total := cs.length + word.length
  if total = 0 then { name, agreed := 1, total := 1 }
  else { name, agreed := 2 * matched cs word, total }

/-- The likeness is at least three fifths. -/
def Likeness.isClose (l : Likeness) : Bool :=
  decide (3 * l.total ≤ 5 * l.agreed)

/-- One likeness stands before another: it is greater, or the name is. -/
def Likeness.before (a b : Likeness) : Bool :=
  let x := a.agreed * b.total
  let y := b.agreed * a.total
  decide (y < x) || (x == y && decide (b.name ≤ a.name))

/-- The names closest to a word, best first, three at most. -/
def closeNames (word : String) (names : List String) : List String :=
  let found := (names.map (likeness (marks word.toList))).filter Likeness.isClose
  ((found.mergeSort Likeness.before).take 3).map (·.name)

end OverlayPatch.Text
