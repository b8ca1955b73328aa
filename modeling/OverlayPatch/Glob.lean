import OverlayPatch.Failure
import OverlayPatch.FileTree

/-!
# File name patterns

A pattern has a part for each name on the way to a file: two stars for any number of
directories, a name with wildcards, or a plain name. `*` stands for any characters, `?` for
one, and brackets for one of a set. Patterns are searched at every depth below a directory.
-/

namespace OverlayPatch.Glob

set_option autoImplicit false

/-! ## One name -/

/-- The characters that brackets stand for. -/
structure CharSet where
  negated : Bool := false
  singles : List Char := []
  ranges : List (Char × Char) := []
deriving Repr, DecidableEq

def CharSet.contains (set : CharSet) (c : Char) : Bool :=
  (set.singles.contains c || set.ranges.any fun r => decide (r.1 ≤ c ∧ c ≤ r.2)) != set.negated

/-- A piece of a name with wildcards. -/
inductive Wild where
  | plain (c : Char)
  | one
  | any
  | oneOf (set : CharSet)
deriving Repr, DecidableEq

/-- Cuts the inside of brackets at the hyphens that join ranges. A hyphen joins only if
characters are left for both of its sides: `keep` more characters belong to the chunk. -/
def chunksFrom : Nat → List Char → List (List Char)
  | _, [] => [[]]
  | keep + 1, c :: cs => Text.consLine c (chunksFrom keep cs)
  | 0, c :: cs => if c = '-' then [] :: chunksFrom 2 cs else Text.consLine c (chunksFrom 0 cs)

/-- The chunks of the inside of brackets; a hyphen at the very end stands for itself. -/
def chunks (inside : List Char) : List (List Char) :=
  let keep := if inside.head? = some '!' then 2 else 1
  let cut := chunksFrom keep inside
  if cut.length > 1 ∧ cut.getLast? = some [] then
    let whole := cut.dropLast
    whole.dropLast ++ [whole.getLastD [] ++ ['-']]
  else cut

/-- Joins the neighbours of which the first ends behind where the second starts: the range
between them holds nothing, so its ends do not count either. -/
def dropEmptyRanges : List (List Char) → List (List Char)
  | [] => []
  | chunk :: rest =>
      match dropEmptyRanges rest with
      | [] => [chunk]
      | next :: others =>
          match chunk.getLast?, next with
          | some low, high :: more =>
              if high < low then (chunk.dropLast ++ more) :: others else chunk :: next :: others
          | _, _ => chunk :: next :: others

/-- The ranges between neighbouring chunks. -/
def rangesOf : List (List Char) → List (Char × Char)
  | chunk :: next :: others =>
      match chunk.getLast?, next.head? with
      | some low, some high => (low, high) :: rangesOf (next :: others)
      | _, _ => rangesOf (next :: others)
  | _ => []

/-- The set that the inside of brackets stands for. An exclamation mark in front, once empty
ranges are gone, turns it around; a hyphen right behind it then stands for itself. -/
def charSet (inside : List Char) : CharSet :=
  match dropEmptyRanges (chunks inside) with
  | ['!'] :: next :: others =>
      { negated := true
        singles := '-' :: (next :: others).flatten
        ranges := rangesOf (next :: others) }
  | ('!' :: first) :: others =>
      { negated := true
        singles := (first :: others).flatten
        ranges := rangesOf (first :: others) }
  | parts => { singles := parts.flatten, ranges := rangesOf parts }

/-- The inside of brackets and what follows them, if they are closed. A closing bracket right
at the start belongs to the set. -/
def brackets? (cs : List Char) : Option (List Char × List Char) :=
  let (bang, rest) := match cs with
    | '!' :: rest => (['!'], rest)
    | _ => ([], cs)
  let (first, rest) := match rest with
    | ']' :: rest => ([']'], rest)
    | _ => ([], rest)
  match rest.dropWhile (· ≠ ']') with
  | [] => none
  | _ :: after => some (bang ++ first ++ rest.takeWhile (· ≠ ']'), after)

/-- Reads a name with wildcards, the next `skip` characters being part of brackets already
read. -/
def wildsFrom : Nat → List Char → List Wild
  | _, [] => []
  | skip + 1, _ :: cs => wildsFrom skip cs
  | 0, '*' :: cs => .any :: wildsFrom 0 cs
  | 0, '?' :: cs => .one :: wildsFrom 0 cs
  | 0, '[' :: cs =>
      match brackets? cs with
      | none => .plain '[' :: wildsFrom 0 cs
      | some (inside, after) =>
          .oneOf (charSet inside) :: wildsFrom (cs.length - after.length) cs
  | 0, c :: cs => .plain c :: wildsFrom 0 cs

/-- A name is of the form that wildcards describe. -/
def isMatch : List Wild → List Char → Bool
  | [], cs => cs.isEmpty
  | .any :: wilds, [] => isMatch wilds []
  | .any :: wilds, c :: cs => isMatch wilds (c :: cs) || isMatch (.any :: wilds) cs
  | _ :: _, [] => false
  | .plain d :: wilds, c :: cs => c == d && isMatch wilds cs
  | .one :: wilds, _ :: cs => isMatch wilds cs
  | .oneOf set :: wilds, c :: cs => set.contains c && isMatch wilds cs
termination_by wilds cs => (wilds.length, cs.length)

/-! ## The way to a file -/

inductive Part where
  /-- Any number of directories. -/
  | deep
  | wild (wilds : List Wild)
  | exact (name : String)
  /-- The pattern ends with a slash and asks for directories only. -/
  | stop
deriving Repr, DecidableEq

def hasDoubleStar : List Char → Bool
  | '*' :: '*' :: _ => true
  | _ :: cs => hasDoubleStar cs
  | [] => false

def readPart (part : String) : Except Failure Part :=
  let cs := part.toList
  if part = "**" then .ok .deep
  else if hasDoubleStar cs then .error .partialRecursion
  else if cs.any fun c => c == '*' || c == '?' || c == '[' then .ok (.wild (wildsFrom 0 cs))
  else .ok (.exact part)

/-- Reads a pattern that is searched at every depth. -/
def read (pattern : String) : Except Failure (List Part) := do
  let path := Path.ofString pattern
  if path.anchor ≠ .relative then throw .absolutePattern
  let parts ← path.parts.mapM readPart
  let slash := pattern.toList.getLast? = some '/'
  return .deep :: parts ++ if slash then [.stop] else []

variable (tree : FileTree)

/-- The ways below a path, by what is there. -/
def below (path : Path) (ways : Location → List (List String)) : List Path :=
  match tree.locate path with
  | .error _ => []
  | .ok location => (ways location).map fun way => path.join { parts := way }

/-- The paths that a pattern leads to from a directory. Only directories have something after
them. -/
def select : List Part → Path → List Path
  | [], path => [path]
  | .stop :: _, path => [path]
  | .deep :: parts, path => (below tree path tree.waysBelow).flatMap (select parts)
  | .wild wilds :: parts, path =>
      let found := below tree path fun location =>
        (tree.namesAt location).filterMap fun name =>
          if isMatch wilds name.toList then some [name] else none
      let going := if parts.isEmpty then found else found.filter tree.isDirectory
      going.flatMap (select parts)
  | .exact name :: parts, path =>
      let next := path.child name
      let there := if parts.isEmpty then tree.contains next else tree.isDirectory next
      if there then select parts next else []

/-- The files below a directory that a pattern describes, in the order of their paths. -/
def files (pattern : String) (directory : Path) : Except Failure (List Path) := do
  let parts ← read pattern
  if !tree.isDirectory directory then return []
  return (((select tree parts directory).filter tree.isFile).eraseDups).mergeSort Path.le

end OverlayPatch.Glob
