import OverlayPatch.Command.Run
import OverlayPatch.DryRun

/-!
# The program

The outer layer: it takes a snapshot of the files that the arguments speak of, runs the command
on it and carries out what changed. No encoding engine comes with the program, so every module
that gets as far as encoding ends the run with a word on how to install one.
-/

namespace OverlayPatch.Command

set_option autoImplicit false

/-- The text of the path to a location. -/
def absolute (location : Location) : String :=
  "/" ++ String.intercalate "/" location

/-- Two snapshots of one file system as one. -/
def merge (a b : FileTree) : FileTree :=
  { a with files := a.files ++ b.files, directories := a.directories ++ b.directories }

/-- What lies at a location and, for so many levels, below it. -/
def survey : Nat → Location → IO FileTree
  | depth, location => do
      let path ← IO.FS.realPath (absolute location)
      if !(← path.pathExists) then return {}
      else if ← path.isDir then
        let tree : FileTree := { directories := [location] }
        match depth with
        | 0 => return tree
        | depth + 1 =>
            let entries ← path.readDir
            entries.foldlM
              (fun tree entry => return merge tree (← survey depth (location ++ [entry.fileName])))
              tree
      else
        let data ← IO.FS.readBinFile path
        return { files := [(location, data.toList)] }

/-- What lies at a location, or nothing where the system refuses to look. -/
def surveyIfThere (depth : Nat) (location : Location) : IO FileTree := do
  try survey depth location catch _ => return {}

/-- The location of a path as its names alone tell it. -/
def locationOf (here : Location) (path : Path) : Location :=
  path.parts.foldl
    (fun location name => if name = ".." then location.dropLast else location ++ [name])
    (if path.anchor = .relative then here else [])

/-- How deep directories are searched. -/
def surveyDepth : Nat := 64

/-- What the arguments speak of: directories to read with all that is in them, and whatever lies
on the way. -/
def surveyArguments (here : Location) (arguments : List String) : IO FileTree := do
  let given := match Arguments.read arguments with
    | .ok sorted => sorted.given
    | .error _ => []
  let mut tree : FileTree := { here }
  for item in given do
    if let .text text := item.value then
      let location := locationOf here (Path.ofString text)
      for above in FileTree.ancestors location do
        tree := merge tree (← surveyIfThere 0 above)
      if item.key = .source ∨ item.key = .overlays then
        tree := merge tree (← surveyIfThere surveyDepth location)
  return tree

/-- Carries out what changed. -/
def carryOut (before after : FileTree) : IO Unit := do
  for location in after.directories do
    if !before.directories.contains location then
      IO.FS.createDirAll (absolute location)
  for (location, data) in after.files do
    if before.files.lookup location != some data then
      IO.FS.writeBinFile (absolute location) ⟨data.toArray⟩

/-- The variables of the environment that are set. -/
def environmentOf (names : List String) : IO Environment :=
  names.filterMapM fun name => return (← IO.getEnv name).map (name, ·)

/-- Encoders without an engine behind them. -/
def withoutEngine (settings : Settings) : Workshop Unit where
  encoder := DryRun.encoder
  fresh := (Engine.openFor false settings.architecture).map fun _ => ()

end OverlayPatch.Command

open OverlayPatch OverlayPatch.Command in
def main (arguments : List String) : IO UInt32 := do
  let current := toString (← IO.currentDir)
  let here := (Path.ofString current).parts
  let tree ← surveyArguments here arguments
  let environment ← environmentOf Settings.variableNames
  let outcome := run {} withoutEngine environment tree arguments
  carryOut tree outcome.tree
  IO.print outcome.stdout
  IO.eprint outcome.stderr
  return outcome.exitCode.number.toUInt32
