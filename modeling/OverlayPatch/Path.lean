import OverlayPatch.Text.Line

/-!
# Paths

A path is an anchor and the names on the way. Empty names and single dots say nothing and are
dropped; double dots stay, since where they lead depends on the file system. Paths are ordered
by their names, each name by code point.
-/

namespace OverlayPatch

set_option autoImplicit false

inductive Anchor where
  /-- At the working directory. -/
  | relative
  | root
  /-- At the root, written with exactly two slashes. -/
  | doubleRoot
deriving Repr, DecidableEq

def Anchor.text : Anchor → String
  | relative => ""
  | root => "/"
  | doubleRoot => "//"

structure Path where
  anchor : Anchor := .relative
  parts : List String := []
deriving Repr, DecidableEq

namespace Path

/-- The anchor of a text with so many slashes at its start. -/
def anchorOf (slashes : Nat) : Anchor :=
  match slashes with
  | 0 => .relative
  | 2 => .doubleRoot
  | _ => .root

/-- A name that leads somewhere. -/
def isStep (part : List Char) : Bool :=
  part ≠ [] && part ≠ ['.']

def ofString (text : String) : Path where
  anchor := anchorOf (text.toList.takeWhile (· = '/')).length
  parts := ((Text.splitOn '/' text.toList).filter isStep).map String.ofList

/-- Writes a path; one that leads nowhere is a dot. -/
def text (path : Path) : String :=
  if path.anchor = .relative ∧ path.parts = [] then "."
  else path.anchor.text ++ String.intercalate "/" path.parts

/-- The last name, or nothing. -/
def name (path : Path) : String :=
  path.parts.getLastD ""

/-- A name without what follows its last dot. A dot at either end of the name separates
nothing. -/
def stemOf (name : List Char) : List Char :=
  let back := name.reverse
  match back.takeWhile (· ≠ '.'), back.dropWhile (· ≠ '.') with
  | _ :: _, _ :: front => if front.isEmpty then name else front.reverse
  | _, _ => name

def stem (path : Path) : String :=
  String.ofList (stemOf path.name.toList)

def parent (path : Path) : Path :=
  { path with parts := path.parts.dropLast }

/-- Goes on from a path; what starts at the root leads there from anywhere. -/
def join (path next : Path) : Path :=
  if next.anchor = .relative then { path with parts := path.parts ++ next.parts } else next

def child (path : Path) (name : String) : Path :=
  { path with parts := path.parts ++ [name] }

/-- What paths are ordered by: the anchor, if there is one, and the names. -/
def key (path : Path) : List String :=
  if path.anchor = .relative then path.parts else path.anchor.text :: path.parts

/-- The order of lists of names: by the first name that differs. -/
def leNames : List String → List String → Bool
  | [], _ => true
  | _ :: _, [] => false
  | a :: as, b :: bs => if a = b then leNames as bs else decide (a < b)

def le (a b : Path) : Bool :=
  leNames a.key b.key

end Path

end OverlayPatch
