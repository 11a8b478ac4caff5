import Fixtures.Path

/-!
# Parse trees on disk

The parse tree of a script is a file in the output directory, named after the script's stem.
-/

namespace Fixtures.Artifact

/-- The extension of a parse tree, with its dot. -/
def suffix : Bytes := Utf8.encode ".json"

/-- A stem with the extension of a parse tree, unless it already ends with it. -/
def fileName (stem : Bytes) : Bytes := if suffix <:+ stem then stem else stem ++ suffix

/-- Where the parse tree of `script` is written. A script without a file name has the empty stem. -/
def path (script outDir : Path) : Path :=
  Path.join outDir (fileName ((Path.fileStem script).getD []))

end Fixtures.Artifact
