import Fixtures.FileSystem.Resolve

/-!
# Changing a file system

Opening a path for writing leads to a regular file, which is created or emptied, to a device or to
an outlet of the process. Nothing changes if it is refused. A new file is a new name in its
directory, which is dated by it. A pipe is taken to have a reader, so that opening it does not wait.
The outlets are taken to be pipes, so what is written to one is put behind what it has taken.
-/

namespace Fixtures

namespace FileSystem

/-- What a path opened for writing leads to. -/
inductive Sink where
  /-- A regular file, new or not, at a location. -/
  | file (location : Location)
  /-- A device or a pipe that takes all bytes. -/
  | swallow
  /-- A device that refuses all bytes. -/
  | refuse
  /-- An outlet of the process itself. -/
  | outlet (which : Outlet)
  deriving DecidableEq, Repr

/-- What a node at a location is for bytes, if it is no directory and may be written. -/
def Sink.ofContent (location : Location) : Content → Sink
  | .file _ | .program => .file location
  | .fullDevice => .refuse
  | .outlet which => .outlet which
  | .directory | .link _ | .pipe | .nullDevice => .swallow

/-- The permission bits of a new regular file. An unprivileged process may write again what it
made. -/
def fileMode (fs : FileSystem) : Nat := if fs.privileged then 0o644 else 0o646

/-- The permission bits of a new directory. -/
def directoryMode : Nat := 0o755

/-- Where the bytes written to a path would go. -/
def sink (fs : FileSystem) (path : Path) : Except IoError Sink :=
  match fs.resolve path with
  | .error e => .error e
  | .ok ⟨_, true⟩ => .error .isDirectory
  | .ok ⟨.free parent name, false⟩ =>
    match fs.node? parent with
    | none => .error .notFound
    | some directory =>
      if fs.allows .write directory then .ok (.file (name :: parent)) else .error .denied
  | .ok ⟨.taken location, false⟩ =>
    match fs.node? location with
    | none => .error .notFound
    | some node =>
      if node.isDirectory then .error .isDirectory
      else if fs.allows .write node then .ok (.ofContent location node.content)
      else .error .denied

/-- Notes that the names in the directory at a location have changed. -/
def stamp (fs : FileSystem) (location : Location) : FileSystem :=
  match fs.node? location with
  | some directory => fs.put location { directory with modified := fs.now }
  | none => fs

/-- A dated directory differs in its time alone, and other locations do not change. -/
theorem node?_stamp (fs : FileSystem) (location other : Location) :
    (fs.stamp location).node? other =
      if other = location then (fs.node? other).map fun node => { node with modified := fs.now }
      else fs.node? other := by
  unfold stamp
  by_cases hother : other = location
  · subst hother
    cases hnode : fs.node? other with
    | none => simp [hnode]
    | some directory => simp [node?_put]
  · cases fs.node? location with
    | none => simp [hother]
    | some directory => simp [node?_put, hother]

/-- Puts a node at a location; a new name changes its directory too. -/
def place (fs : FileSystem) (location : Location) (node : Node) : FileSystem :=
  if (fs.node? location).isSome then fs.put location node
  else (fs.stamp location.tail).put location node

/-- What was placed is read back. A new name dates its directory, and nothing else has changed. -/
theorem node?_place (fs : FileSystem) (location other : Location) (node : Node) :
    (fs.place location node).node? other =
      if other = location then some node
      else if fs.node? location = none ∧ other = location.tail then
        (fs.node? other).map fun node => { node with modified := fs.now }
      else fs.node? other := by
  rw [place]
  cases hnode : fs.node? location with
  | none => simp [node?_put, node?_stamp]
  | some old => simp [node?_put]

/-- Replaces the bytes of the regular file at a location, or makes one. -/
def store (fs : FileSystem) (location : Location) (data : Bytes) : FileSystem :=
  fs.place location ⟨.file data, ((fs.node? location).map Node.mode).getD fs.fileMode, fs.now⟩

/-- Writes a whole file. What goes to an outlet leaves no trace in the files. -/
def writeFile (fs : FileSystem) (path : Path) (data : Bytes) : Except IoError FileSystem :=
  match fs.sink path with
  | .error e => .error e
  | .ok (.file location) => .ok (fs.store location data)
  | .ok .swallow => .ok fs
  | .ok (.outlet _) => .ok fs
  | .ok .refuse => if data = [] then .ok fs else .error .noSpace

/-- The location that the last name of a path has, whatever is there. Links on the way are followed,
a link at the end is not. -/
def slot (fs : FileSystem) (path : Path) : Except IoError Location :=
  let parent := Path.beforeLastSlash path
  let parent :=
    if parent = [] then (if Path.isAbsolute path then [Path.slash] else [Path.dot]) else parent
  match fs.locate parent with
  | .error e => .error e
  | .ok (location, _) => .ok (Path.afterLastSlash path :: location)

/-- The location relative to the working directory, as a path; nothing outside it has one. -/
def relativePath? (fs : FileSystem) (location : Location) : Option Path :=
  if fs.cwd.isSuffixOf location && fs.cwd.length < location.length then
    some ([Path.slash].intercalate (location.take (location.length - fs.cwd.length)).reverse)
  else
    none

end FileSystem

end Fixtures
