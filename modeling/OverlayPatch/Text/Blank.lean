/-!
# Blank characters

`isBlank` is the one notion of white space used throughout: it ends a marker, it is
trimmed off declarations, and it may surround an integer literal. It covers the ASCII
controls that count as space, the ASCII space, and the spaces and separators of Unicode.
-/

namespace OverlayPatch.Text

set_option autoImplicit false

/-- Space, tab, line and page breaks, information separators, and the Unicode spaces. -/
def isBlank (c : Char) : Bool :=
  let n := c.toNat
  decide (9 ≤ n ∧ n ≤ 13) || decide (28 ≤ n ∧ n ≤ 32) || n == 0x85 || n == 0xA0 || n == 0x1680 ||
    decide (0x2000 ≤ n ∧ n ≤ 0x200A) || n == 0x2028 || n == 0x2029 || n == 0x202F || n == 0x205F ||
    n == 0x3000

def trimStart (cs : List Char) : List Char :=
  cs.dropWhile isBlank

def trimEnd (cs : List Char) : List Char :=
  (cs.reverse.dropWhile isBlank).reverse

def trim (cs : List Char) : List Char :=
  trimEnd (trimStart cs)

end OverlayPatch.Text
