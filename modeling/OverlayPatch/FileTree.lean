import OverlayPatch.Path
import OverlayPatch.Text.Quoted

/-!
# File trees

A file tree is a snapshot of directories and files, and the working directory in it. A
`Location` is a place counted from the root down, without dots; `FileTree.walk` finds the
location that a path leads to, or the problem on the way. Every directory above something is
there without being listed.

There are plain files and directories and nothing else: no links, no devices, nothing that may not
be read or written, and no limit to the length of a name. A name that holds the character of code
zero is one that nothing has, while a system would not even take such a name.
-/

namespace OverlayPatch

set_option autoImplicit false

/-- Why the file system refuses a request. -/
inductive SystemProblem where
  | missing
  | alreadyThere
  | notDirectory
  | isDirectory
deriving Repr, DecidableEq

namespace SystemProblem

/-- The number under which systems know the problem. -/
def number : SystemProblem → Int
  | missing => 2
  | alreadyThere => 17
  | notDirectory => 20
  | isDirectory => 21

def text : SystemProblem → String
  | missing => "No such file or directory"
  | alreadyThere => "File exists"
  | notDirectory => "Not a directory"
  | isDirectory => "Is a directory"

end SystemProblem

/-- The names from the root down to a place. -/
abbrev Location := List String

/-- A snapshot of a file system. -/
structure FileTree where
  files : List (Location × List UInt8) := []
  /-- Directories; those above a file or another directory need not be listed. -/
  directories : List Location := []
  /-- The working directory. -/
  here : Location := []
  /-- The size of a directory, which is for the system to say. -/
  directorySize : Nat := 4096
deriving Repr, DecidableEq

inductive Node where
  | file (data : List UInt8)
  | directory (size : Nat)
deriving Repr, DecidableEq

namespace Node

def isDirectory : Node → Bool
  | file _ => false
  | directory _ => true

def size : Node → Nat
  | file data => data.length
  | directory size => size

end Node

namespace FileTree

/-- A location and those above it, from the root down. -/
def ancestors (location : Location) : List Location :=
  (List.range (location.length + 1)).map location.take

/-- All directories, those above others included. -/
def allDirectories (tree : FileTree) : List Location :=
  let listed := tree.here :: tree.directories ++ tree.files.map (·.1.dropLast)
  (listed.flatMap ancestors).eraseDups

def node? (tree : FileTree) (location : Location) : Option Node :=
  match tree.files.lookup location with
  | some data => some (.file data)
  | none =>
      if location ∈ tree.allDirectories then some (.directory tree.directorySize) else none

def hasDirectory (tree : FileTree) (location : Location) : Bool :=
  (tree.node? location).any Node.isDirectory

/-- Follows names from a location. Every name but the last, and every dot, needs a directory to
start from. -/
def walk (tree : FileTree) : Location → List String → Except SystemProblem Location
  | location, [] => if (tree.node? location).isSome then .ok location else .error .missing
  | location, name :: names =>
      match tree.node? location with
      | none => .error .missing
      | some (.file _) => .error .notDirectory
      | some (.directory _) =>
          if name = "" ∨ name = "." then tree.walk location names
          else if name = ".." then tree.walk location.dropLast names
          else tree.walk (location ++ [name]) names

def start (tree : FileTree) (anchor : Anchor) : Location :=
  if anchor = .relative then tree.here else []

/-- The location that a path leads to. -/
def locate (tree : FileTree) (path : Path) : Except SystemProblem Location :=
  tree.walk (tree.start path.anchor) path.parts

def lookup (tree : FileTree) (path : Path) : Except SystemProblem Node := do
  let location ← tree.locate path
  match tree.node? location with
  | some node => .ok node
  | none => .error .missing

/-- What a text leads to as it stands: a slash at its end asks for a directory, and an empty
text leads nowhere. -/
def lookupText (tree : FileTree) (text : String) : Except SystemProblem Node := do
  if text = "" then throw .missing
  let names := (Text.splitOn '/' text.toList).map String.ofList
  let location ← tree.walk (tree.start (Path.ofString text).anchor) names
  match tree.node? location with
  | some node => .ok node
  | none => .error .missing

def isDirectory (tree : FileTree) (path : Path) : Bool :=
  tree.lookup path matches .ok (.directory _)

def isFile (tree : FileTree) (path : Path) : Bool :=
  tree.lookup path matches .ok (.file _)

def contains (tree : FileTree) (path : Path) : Bool :=
  (tree.lookup path).isOk

def read (tree : FileTree) (path : Path) : Except SystemProblem (List UInt8) := do
  match ← tree.lookup path with
  | .file data => .ok data
  | .directory _ => .error .isDirectory

def namesAt (tree : FileTree) (location : Location) : List String :=
  let places := tree.allDirectories ++ tree.files.map (·.1)
  (places.filterMap fun place =>
    if place.dropLast = location then place.getLast? else none).eraseDups

/-- The ways from a location to the directories below it, itself included. -/
def waysBelow (tree : FileTree) (location : Location) : List (List String) :=
  tree.allDirectories.filterMap fun place =>
    if location.isPrefixOf place then some (place.drop location.length) else none

/-! ## Changes -/

def makeDirectory (tree : FileTree) (path : Path) : Except SystemProblem FileTree :=
  match tree.locate path with
  | .ok _ => .error .alreadyThere
  | .error .missing => do
      let above ← tree.locate path.parent
      if !tree.hasDirectory above then throw .notDirectory
      return { tree with directories := tree.directories ++ [above ++ [path.name]] }
  | .error problem => .error problem

structure PathProblem where
  problem : SystemProblem
  path : Path
deriving Repr, DecidableEq

/-- Makes a directory unless it is there; `above` makes those it lies in. -/
def ensureWith (above : FileTree → Except PathProblem FileTree) (tree : FileTree)
    (path : Path) : Except PathProblem FileTree :=
  let settle := fun (tree : FileTree) (problem : SystemProblem) =>
    if tree.isDirectory path then .ok tree else .error { problem, path }
  match tree.makeDirectory path with
  | .ok tree => .ok tree
  | .error .missing => do
      let tree ← above tree
      match tree.makeDirectory path with
      | .ok tree => .ok tree
      | .error problem => settle tree problem
  | .error problem => settle tree problem

/-- Makes a directory and those it lies in unless they are there; the names come last first. -/
def ensureReversed (anchor : Anchor) : List String → FileTree → Except PathProblem FileTree
  | [], tree => ensureWith .ok tree { anchor }
  | name :: names, tree =>
      ensureWith (ensureReversed anchor names) tree { anchor, parts := (name :: names).reverse }

/-- Makes a directory and those it lies in unless they are there. -/
def ensureDirectory (tree : FileTree) (path : Path) : Except PathProblem FileTree :=
  ensureReversed path.anchor path.parts.reverse tree

/-- Writes a file into a directory that is there. -/
def writeFile (tree : FileTree) (path : Path) (data : List UInt8) :
    Except SystemProblem FileTree :=
  match tree.locate path with
  | .ok location =>
      if tree.hasDirectory location then .error .isDirectory
      else
        let others := tree.files.filter (·.1 ≠ location)
        .ok { tree with files := others ++ [(location, data)] }
  | .error .missing => do
      let above ← tree.locate path.parent
      if !tree.hasDirectory above then throw .notDirectory
      return { tree with files := tree.files ++ [(above ++ [path.name], data)] }
  | .error problem => .error problem

end FileTree

end OverlayPatch
