import Fixtures.Failure
import Fixtures.FileSystem.Resolve
import Fixtures.Log

/-!
# Collecting scripts

The scripts of a directory are its entries that end with the suffix and lead to regular files. They
come in the byte order of their names, however the directory lists them.
-/

namespace Fixtures.Collect

/-- The suffix of an extension, whose own leading dots do not count. -/
def suffix (extension : String) : Bytes :=
  Utf8.encode (String.ofList ('.' :: extension.toList.dropWhile (· == '.')))

/-- The names in byte order. -/
def sorted (names : List Name) : List Name := names.mergeSort fun a b => decide (a ≤ b)

/-- Whether a name in a directory stands for a script. -/
def isScript (fs : FileSystem) (dir : Path) (ending : Bytes) (name : Name) : Bool :=
  decide (ending <:+ name) && fs.isFile (Path.join dir name)

/-- The scripts of a directory whose names end with `ending`. -/
def scripts (fs : FileSystem) (dir : Path) (ending : Bytes) : Except Failure (List Path) :=
  if fs.isDirectory dir then
    match fs.listNames dir with
    | .error _ => .error (.directoryUnreadable (Path.text dir))
    | .ok names => .ok (((sorted names).filter (isScript fs dir ending)).map (Path.join dir))
  else
    .error (.directoryNotFound (Path.text dir))

/-- The event of a finished collection. -/
def event (dir : Path) (count : Nat) : Log.Event where
  level := .debug
  target := "boinkgen::batch::collector"
  message := "collected scripts"
  fields := [("dir", Path.text dir), ("count", toString count)]

end Fixtures.Collect
