import Fixtures.Path

/-!
# File systems

A file system is a finite map from locations to nodes. A location is the list of names from a node
up to the root, so that the parent of a location is its tail and each node has one location. Reading
a location after writing one gives what was written there and what was there before elsewhere.
-/

namespace Fixtures

/-- A name in a directory. -/
abbrev Name := Bytes

/-- The names from a node up to the root, the innermost first. The root has no names. -/
abbrev Location := List Name

/-- The outlets that a process is started with. -/
inductive Outlet where
  /-- Standard output. -/
  | output
  /-- Standard error. -/
  | error
  deriving DecidableEq, Repr

/-- What a node is. -/
inductive Content where
  /-- A directory. -/
  | directory
  /-- A regular file with its bytes. -/
  | file (data : Bytes)
  /-- A regular file that is a runnable program. -/
  | program
  /-- A symbolic link. -/
  | link (target : Path)
  /-- A named pipe. -/
  | pipe
  /-- A device that takes all bytes and keeps none. -/
  | nullDevice
  /-- A device that refuses all bytes. -/
  | fullDevice
  /-- An outlet of the process itself. -/
  | outlet (which : Outlet)
  deriving DecidableEq, Repr

namespace Content

/-- Whether a node of this content is a regular file. -/
def isRegular : Content → Bool
  | file _ => true
  | program => true
  | _ => false

end Content

/-- A node with its permission bits and the time of its last change, in nanoseconds. -/
structure Node where
  /-- What the node is. -/
  content : Content
  /-- The permission bits. The last three are those that bind the process. -/
  mode : Nat
  /-- When the node was last changed. -/
  modified : Int
  deriving DecidableEq, Repr

namespace Node

/-- Whether the node is a directory. -/
def isDirectory (node : Node) : Bool := node.content == .directory

end Node

/-- Why an operation on files was refused. -/
inductive IoError where
  | notFound
  | denied
  | notDirectory
  | isDirectory
  | noSpace
  | nameTooLong
  | tooManyLinks
  | nulByte
  deriving DecidableEq, Repr

namespace IoError

/-- The text that is shown for a refusal. -/
def message : IoError → String
  | notFound => "No such file or directory (os error 2)"
  | denied => "Permission denied (os error 13)"
  | notDirectory => "Not a directory (os error 20)"
  | isDirectory => "Is a directory (os error 21)"
  | noSpace => "No space left on device (os error 28)"
  | nameTooLong => "File name too long (os error 36)"
  | tooManyLinks => "Too many levels of symbolic links (os error 40)"
  | nulByte => "file name contained an unexpected NUL byte"

end IoError

/-- The nodes by location, where the process stands, the time of its writes, and whether permission
bits bind it. -/
structure FileSystem where
  /-- The nodes with their locations. -/
  nodes : List (Location × Node)
  /-- No location is given twice. -/
  distinct : (nodes.map Prod.fst).Nodup
  /-- The working directory. -/
  cwd : Location
  /-- The time that a write leaves on a node. -/
  now : Int
  /-- Whether permission bits do not bind the process. -/
  privileged : Bool

namespace FileSystem

/-- The node at a location. -/
def node? (fs : FileSystem) (location : Location) : Option Node := fs.nodes.lookup location

/-- The file system with `node` at `location`, in place of what was there. -/
def put (fs : FileSystem) (location : Location) (node : Node) : FileSystem where
  nodes := (location, node) :: fs.nodes.filter fun entry => entry.1 != location
  distinct := by
    rw [List.map_cons, List.nodup_cons]
    constructor
    · simp
    · exact (List.filter_sublist.map Prod.fst).nodup fs.distinct
  cwd := fs.cwd
  now := fs.now
  privileged := fs.privileged

/-- The file system without `location` and all below it. -/
def eraseTree (fs : FileSystem) (location : Location) : FileSystem where
  nodes := fs.nodes.filter fun entry => !location.isSuffixOf entry.1
  distinct := (List.filter_sublist.map Prod.fst).nodup fs.distinct
  cwd := fs.cwd
  now := fs.now
  privileged := fs.privileged

/-- The names in the directory at a location, in no particular order. A node whose last name cannot
be written in a path is in no directory. -/
def childNames (fs : FileSystem) (location : Location) : List Name :=
  fs.nodes.filterMap fun entry =>
    match entry.1 with
    | name :: parent => if parent = location ∧ Path.isName name then some name else none
    | [] => none

/-- Removing other locations does not change what stands at one. -/
private theorem lookup_filter_ne {location other : Location} (h : other ≠ location) :
    ∀ nodes : List (Location × Node),
      (nodes.filter fun entry => entry.1 != location).lookup other = nodes.lookup other
  | [] => rfl
  | (at_, node) :: rest => by
    by_cases heq : at_ = location
    · subst heq
      have hb : (other == at_) = false := beq_false_of_ne h
      simp [List.lookup_cons, hb, lookup_filter_ne h rest]
    · simp [heq, List.lookup_cons, lookup_filter_ne h rest]

/-- What was written is read back, and nothing else has changed. -/
theorem node?_put (fs : FileSystem) (location other : Location) (node : Node) :
    (fs.put location node).node? other =
      if other = location then some node else fs.node? other := by
  by_cases h : other = location
  · simp [node?, put, h]
  · have hb : (other == location) = false := beq_false_of_ne h
    simp [node?, put, h, hb, List.lookup_cons, lookup_filter_ne h]

/-- A location holds a node exactly if it is among the given ones. -/
theorem isSome_node?_iff (fs : FileSystem) (location : Location) :
    (fs.node? location).isSome ↔ ∃ node, (location, node) ∈ fs.nodes := by
  rw [node?, List.lookup_isSome_iff]
  constructor
  · rintro ⟨entry, hmem, heq⟩
    exact ⟨entry.2, by rw [eq_of_beq heq]; exact hmem⟩
  · rintro ⟨node, hmem⟩
    exact ⟨(location, node), hmem, by simp⟩

/-- The names in a directory are those with a node below it. -/
theorem mem_childNames_iff (fs : FileSystem) (location : Location) (name : Name) :
    name ∈ fs.childNames location ↔
      Path.isName name = true ∧ (fs.node? (name :: location)).isSome := by
  rw [isSome_node?_iff, childNames, List.mem_filterMap]
  constructor
  · rintro ⟨⟨place, node⟩, hmem, h⟩
    cases place with
    | nil => simp at h
    | cons child parent =>
      simp only [Option.ite_none_right_eq_some, Option.some.injEq] at h
      obtain ⟨⟨rfl, hname⟩, rfl⟩ := h
      exact ⟨hname, node, hmem⟩
  · rintro ⟨hname, node, hmem⟩
    exact ⟨(name :: location, node), hmem, by simp [hname]⟩

/-- A directory has no name twice. -/
theorem nodup_childNames (fs : FileSystem) (location : Location) :
    (fs.childNames location).Nodup := by
  have hdistinct := List.pairwise_map.mp fs.distinct
  rw [childNames]
  refine List.Pairwise.filterMap _ ?_ hdistinct
  rintro ⟨place, node⟩ ⟨place', node'⟩ hne name hname name' hname' rfl
  cases place with
  | nil => simp at hname
  | cons child parent =>
    cases place' with
    | nil => simp at hname'
    | cons child' parent' =>
      simp only [Option.ite_none_right_eq_some, Option.some.injEq] at hname hname'
      exact hne (by simp [hname, hname'])

end FileSystem

end Fixtures
