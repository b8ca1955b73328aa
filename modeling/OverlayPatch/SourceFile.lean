import OverlayPatch.FileTree
import OverlayPatch.Settings

/-!
# Source files

A module is a source file together with the overlay binary of the same name, whose length
says where its append region starts. The overlay is looked for before the source is read.
-/

namespace OverlayPatch

set_option autoImplicit false

/-- A module that is ready to be assembled. -/
structure SourceFile where
  /-- The name of the module and of its overlay. -/
  name : String
  path : Path
  text : String
  /-- The first address of the append region. -/
  start : Int
deriving Repr, DecidableEq

def overlayPath (settings : Settings) (source directory : Path) : Path :=
  directory.join (Path.ofString (source.stem ++ settings.overlaySuffix))

namespace SourceFile

def overlaySize (tree : FileTree) (settings : Settings) (source directory : Path) :
    Except Fault Nat :=
  let overlay := overlayPath settings source directory
  match tree.lookup overlay with
  | .ok node => .ok node.size
  | .error problem =>
      .error
        { cause := .unreadableOverlay overlay.text problem.text
          origin := some source.name
          hint := some s!"expected {overlay.name} in {overlay.parent.text}" }

/-- The text of a source, its line ends as line feeds. -/
def readText (tree : FileTree) (source : Path) : Except Fault String :=
  match tree.read source with
  | .error problem =>
      .error { cause := .unreadableSource source.text problem.text, origin := some source.name }
  | .ok data =>
      match Text.Utf8.decode data with
      | .error reason => .error { cause := .notUtf8 reason, origin := some source.name }
      | .ok cs => .ok (String.ofList (Text.universalNewlines cs))

def load (tree : FileTree) (settings : Settings) (source directory : Path) :
    Except Fault SourceFile := do
  let size ← overlaySize tree settings source directory
  let text ← readText tree source
  return { name := source.stem, path := source, text, start := settings.startCursor size }

end SourceFile

end OverlayPatch
