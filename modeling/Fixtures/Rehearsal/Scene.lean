import Fixtures.FileSystem.Write

/-!
# Scenes

The file system of a rehearsal is set up by a list of entries, applied in order. It starts with an
empty working directory, alone in its parent, two devices and the outlets of the process.
-/

namespace Fixtures.Rehearsal

/-- What an entry makes or changes. -/
inductive EntryKind where
  | file (data : Bytes)
  | directory
  | link (target : Path)
  | pipe
  | program
  /-- Only the time or the mode of what exists. -/
  | touch
  /-- A file, a link or a whole directory goes away. -/
  | remove
  deriving DecidableEq, Repr

/-- One change of a scene. -/
structure Entry where
  /-- The path that is changed. -/
  path : Path
  /-- The change. -/
  kind : EntryKind
  /-- The time of the last change, in nanoseconds. -/
  modified : Option Int := none
  /-- The permission bits. -/
  mode : Option Nat := none
  deriving DecidableEq, Repr

/-- The nanoseconds of a second. -/
def second : Int := 1000000000

/-- The time of files that are set up without one. -/
def settledTime : Int := 1000000000 * second

/-- The time of everything that is written during a rehearsal. -/
def presentTime : Int := 1800000000 * second

/-- The parent of the working directory. -/
def homeLocation : Location := [Utf8.encode "rehearsal"]

/-- The working directory. -/
def workLocation : Location := Utf8.encode "work" :: homeLocation

/-- The directory of the devices. -/
def deviceLocation : Location := [Utf8.encode "dev"]

/-- The permission bits of files that are set up without any. -/
def settledMode : Nat := 0o644

/-- A directory that everybody may use. -/
def openDirectory : Node := ⟨.directory, 0o777, presentTime⟩

/-- The file system without any files. -/
def bareSystem : FileSystem where
  nodes := []
  distinct := List.nodup_nil
  cwd := workLocation
  now := presentTime
  privileged := true

/-- The file system that a scene starts from. -/
def emptyScene : FileSystem :=
  [([], openDirectory), (homeLocation, openDirectory), (workLocation, openDirectory),
    (deviceLocation, openDirectory),
    (Utf8.encode "null" :: deviceLocation, ⟨.nullDevice, 0o666, presentTime⟩),
    (Utf8.encode "full" :: deviceLocation, ⟨.fullDevice, 0o666, presentTime⟩),
    (Utf8.encode "stdout" :: deviceLocation, ⟨.outlet .output, 0o666, presentTime⟩),
    (Utf8.encode "stderr" :: deviceLocation, ⟨.outlet .error, 0o666, presentTime⟩)].foldl
    (fun fs entry => fs.put entry.1 entry.2) bareSystem

namespace Entry

/-- Makes the directory of a path if nothing is there and its parent exists. -/
def makeDirectory (fs : FileSystem) (path : Path) : FileSystem :=
  match fs.resolve path with
  | .ok ⟨.free parent name, _⟩ =>
    fs.place (name :: parent) ⟨.directory, FileSystem.directoryMode, fs.now⟩
  | _ => fs

/-- The paths from the first name of a path to the whole path. -/
def stages (path : Path) : List Path :=
  (List.range (path.length + 1)).filterMap fun n =>
    if n = path.length ∨ path[n]? = some Path.slash then some (path.take n) else none

/-- Makes the directory of a path and all that are missing on the way. -/
def makeDirectories (fs : FileSystem) (path : Path) : FileSystem :=
  (stages path).foldl makeDirectory fs

/-- Changes the time and the mode of what a path leads to, where they are given. -/
def adjust (fs : FileSystem) (path : Path) (modified : Option Int) (mode : Option Nat) :
    FileSystem :=
  match fs.locate path with
  | .error _ => fs
  | .ok (location, node) =>
    fs.put location
      { node with
        modified := modified.getD node.modified
        mode := mode.getD node.mode }

/-- Puts a new node under the last name of a path. -/
def placeNew (fs : FileSystem) (path : Path) (content : Content) (mode : Nat) : FileSystem :=
  match fs.slot path with
  | .error _ => fs
  | .ok location => fs.place location ⟨content, mode, fs.now⟩

/-- The file system after an entry. Missing directories on the way are made. -/
def apply (fs : FileSystem) (entry : Entry) : FileSystem :=
  let path := entry.path
  let withParent := makeDirectories fs (Path.beforeLastSlash path)
  match entry.kind with
  | .file data =>
    match withParent.writeFile path data with
    | .error _ => withParent
    | .ok written =>
      adjust written path (some (entry.modified.getD settledTime))
        (some (entry.mode.getD settledMode))
  | .program =>
    adjust (placeNew withParent path .program 0o755) path
      (some (entry.modified.getD settledTime)) entry.mode
  | .directory => adjust (makeDirectories fs path) path entry.modified entry.mode
  | .link target => placeNew withParent path (.link target) 0o777
  | .pipe => adjust (placeNew withParent path .pipe 0o644) path entry.modified entry.mode
  | .touch => adjust fs path entry.modified entry.mode
  | .remove =>
    match fs.slot path with
    | .error _ => fs
    | .ok location => (fs.eraseTree location).stamp location.tail

end Entry

/-- The file system after a list of entries. -/
def applyEntries (fs : FileSystem) (entries : List Entry) : FileSystem :=
  entries.foldl Entry.apply fs

/-- Everything below the working directory, in the byte order of the paths. -/
def listing (fs : FileSystem) : List (Path × Content) :=
  (fs.nodes.filterMap fun entry =>
      (fs.relativePath? entry.1).map fun path => (path, entry.2.content)).mergeSort
    fun a b => decide (a.1 ≤ b.1)

end Fixtures.Rehearsal
