import Fixtures.FileSystem.Basic

/-!
# What a path stands for

A path is walked name by name from the root or the working directory. A link on the way is replaced
by the names of its target, at most forty times. The walk lands on a node, or on a free name in a
directory if only the last name is missing.
-/

namespace Fixtures

namespace FileSystem

/-- The longest name that a directory can hold. -/
def maxName : Nat := 255

/-- The longest path that is looked at. -/
def maxPath : Nat := 4095

/-- The number of links that one walk may follow. -/
def maxLinks : Nat := 40

/-- What a process may want of a node. -/
inductive Permission where
  | read
  | write
  | search
  deriving DecidableEq, Repr

/-- Whether a node allows what is wanted. There are no owners: the last three bits of a mode are
those that bind the process, whoever made the node, and they bind only an unprivileged one. -/
def allows (fs : FileSystem) (wanted : Permission) (node : Node) : Bool :=
  fs.privileged ||
    match wanted with
    | .read => node.mode.testBit 2
    | .write => node.mode.testBit 1
    | .search => node.mode.testBit 0

/-- The place where a walk ends. -/
inductive Place where
  /-- There is a node at the location. -/
  | taken (location : Location)
  /-- The directory at the location has no such name. -/
  | free (parent : Location) (name : Name)
  deriving DecidableEq, Repr

/-- The end of a walk, and whether a slash was written after it. -/
structure Landing where
  /-- Where the walk ended. -/
  place : Place
  /-- Whether the path asks for a directory. -/
  slashed : Bool
  deriving DecidableEq, Repr

/-- The pieces of a path that are walked: only empty ones are left out. -/
def steps (path : Path) : List Name := Text.solidPieces (· == Path.slash) path

/-- Walks the names of `todo` from the directory at `here`, following at most `links` links. -/
def walk (fs : FileSystem) (links : Nat) (here : Location) (todo : List Name) (slashed : Bool) :
    Except IoError Landing :=
  match todo with
  | [] => .ok ⟨.taken here, slashed⟩
  | name :: rest =>
    match fs.node? here with
    | none => .error .notFound
    | some directory =>
      if !directory.isDirectory then .error .notDirectory
      else if !fs.allows .search directory then .error .denied
      else if name = [Path.dot] then walk fs links here rest slashed
      else if name = [Path.dot, Path.dot] then walk fs links here.tail rest slashed
      else if maxName < name.length then .error .nameTooLong
      else
        match fs.node? (name :: here) with
        | none => if rest = [] then .ok ⟨.free here name, slashed⟩ else .error .notFound
        | some node =>
          match node.content with
          | .link target =>
            match links with
            | 0 => .error .tooManyLinks
            | links + 1 =>
              walk fs links (if Path.isAbsolute target then [] else here) (steps target ++ rest)
                (if rest = [] then slashed || Path.endsWithSlash target else slashed)
          | _ => walk fs links (name :: here) rest slashed
termination_by (links, todo.length)

/-- Where a path leads, links followed. -/
def resolve (fs : FileSystem) (path : Path) : Except IoError Landing :=
  if path.contains 0 then .error .nulByte
  else if path = [] then .error .notFound
  else if maxPath < path.length then .error .nameTooLong
  else
    walk fs maxLinks (if Path.isAbsolute path then [] else fs.cwd) (steps path)
      (Path.endsWithSlash path)

/-- The location and the node of a path, links followed. -/
def locate (fs : FileSystem) (path : Path) : Except IoError (Location × Node) :=
  match fs.resolve path with
  | .error e => .error e
  | .ok ⟨.free _ _, _⟩ => .error .notFound
  | .ok ⟨.taken location, slashed⟩ =>
    match fs.node? location with
    | none => .error .notFound
    | some node =>
      if slashed && !node.isDirectory then .error .notDirectory else .ok (location, node)

/-- The node of a path, if it leads to one. -/
def find? (fs : FileSystem) (path : Path) : Option Node := (fs.locate path).toOption.map Prod.snd

/-- Whether a path leads to anything. -/
def pathExists (fs : FileSystem) (path : Path) : Bool := (fs.find? path).isSome

/-- Whether a path leads to a directory. -/
def isDirectory (fs : FileSystem) (path : Path) : Bool := (fs.find? path).any Node.isDirectory

/-- Whether a path leads to a regular file. -/
def isFile (fs : FileSystem) (path : Path) : Bool :=
  (fs.find? path).any fun node => node.content.isRegular

/-- When the node of a path was last changed. -/
def modified? (fs : FileSystem) (path : Path) : Option Int := (fs.find? path).map Node.modified

/-- The names in the directory that a path leads to, in no particular order. -/
def listNames (fs : FileSystem) (path : Path) : Except IoError (List Name) :=
  match fs.locate path with
  | .error e => .error e
  | .ok (location, node) =>
    if !node.isDirectory then .error .notDirectory
    else if !fs.allows .read node then .error .denied
    else .ok (fs.childNames location)

/-- Whether the parse tree is at least as new as the script. Both must exist. -/
def isUpToDate (fs : FileSystem) (script artifact : Path) : Bool :=
  match fs.modified? script, fs.modified? artifact with
  | some source, some product => source ≤ product
  | _, _ => false

end FileSystem

end Fixtures
