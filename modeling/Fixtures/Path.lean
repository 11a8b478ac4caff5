import Fixtures.Text.Utf8
import Fixtures.Text.Pieces

/-!
# Paths

A path is a byte string cut at slashes. Empty pieces and pieces of one dot name nothing, so doubled
slashes, a slash at the end and `/.` at the end do not change what a path names. The file name is
the last name of the path, unless that is `..`; its stem is what stands before its last dot, where a
dot in front does not count.
-/

namespace Fixtures

/-- A path, as the bytes that were given. -/
abbrev Path := Bytes

namespace Path

/-- The byte that separates names. -/
def slash : UInt8 := 0x2F

/-- The byte that starts an extension. -/
def dot : UInt8 := 0x2E

/-- Whether bytes can stand as a name in a directory. -/
def isName (name : Bytes) : Bool :=
  name != [] && !name.contains slash && name != [dot] && name != [dot, dot]

/-- The path that the bytes of a text spell. -/
def ofText (text : String) : Path := Utf8.encode text

/-- The shown form of a path. -/
def text (path : Path) : String := Utf8.lossy path

/-- Whether a path starts at the root. -/
def isAbsolute (path : Path) : Bool := path.head? == some slash

/-- Whether a path ends with a slash. -/
def endsWithSlash (path : Path) : Bool := path.getLast? == some slash

/-- The names on the way, from the outermost, with `..` among them. -/
def names (path : Path) : List Bytes :=
  (Text.pieces (· == slash) path).filter fun piece => piece ≠ [] ∧ piece ≠ [dot]

/-- The last name of a path. There is none if the path goes up at its end or has no names. -/
def fileName (path : Path) : Option Bytes :=
  (names path).getLast?.filter fun name => name ≠ [dot, dot]

/-- The part of a name before its last dot, or all of it if there is no dot or nothing before it. -/
def nameStem (name : Bytes) : Bytes :=
  match name.reverse.dropWhile (· != dot) with
  | [] => name
  | _ :: before => if before = [] then name else before.reverse

/-- The file name without its extension. -/
def fileStem (path : Path) : Option Bytes := (fileName path).map nameStem

/-- The path `tail` seen from `base`: an absolute `tail` stands for itself. -/
def join (base tail : Path) : Path :=
  if isAbsolute tail then tail
  else if base = [] ∨ endsWithSlash base then base ++ tail
  else base ++ slash :: tail

/-- What follows the last slash. -/
def afterLastSlash (path : Path) : Bytes := (path.reverse.takeWhile (· != slash)).reverse

/-- What stands before the last slash. -/
def beforeLastSlash (path : Path) : Path := ((path.reverse.dropWhile (· != slash)).drop 1).reverse

end Path

end Fixtures
