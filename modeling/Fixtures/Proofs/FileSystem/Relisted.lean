import Fixtures.Proofs.FileSystem.Walk

/-!
# File systems with the same nodes

The nodes of a file system are kept in a list, but what a path leads to does not depend on the order
of that list: a location has at most one node, so looking it up finds the same node in every order.
Only the order in which a directory lists its names can differ.
-/

namespace Fixtures

namespace FileSystem

/-- A node stands at a location exactly if the two are kept together. -/
theorem node?_eq_some_iff (fs : FileSystem) (location : Location) (node : Node) :
    fs.node? location = some node ↔ (location, node) ∈ fs.nodes := by
  rw [node?, List.lookup_eq_some_iff]
  constructor
  · rintro ⟨before, after, hnodes, -⟩
    rw [hnodes]
    exact List.mem_append_right before List.mem_cons_self
  · intro hmem
    obtain ⟨before, after, hnodes⟩ := List.append_of_mem hmem
    refine ⟨before, after, hnodes, fun entry hentry => ?_⟩
    -- A location that came earlier would be given twice.
    have hdistinct := fs.distinct
    rw [hnodes, List.map_append, List.map_cons, List.nodup_append] at hdistinct
    have hne := hdistinct.2.2 entry.1 (List.mem_map_of_mem hentry) location List.mem_cons_self
    simpa using fun heq => hne heq.symm

/-- A file system beside one that keeps the same nodes in another order, seen from the same place by
the same process. -/
structure Relisted (fs other : FileSystem) : Prop where
  /-- The nodes are the same, in any order. -/
  nodes : other.nodes.Perm fs.nodes
  /-- The process stands at the same place. -/
  cwd : other.cwd = fs.cwd
  /-- Permission bits bind the process in both or in neither. -/
  privileged : other.privileged = fs.privileged

namespace Relisted

variable {fs other : FileSystem}

/-- Each location has the same node. -/
theorem node?_eq (h : Relisted fs other) (location : Location) :
    other.node? location = fs.node? location := by
  apply Option.ext
  intro node
  rw [node?_eq_some_iff, node?_eq_some_iff]
  exact h.nodes.mem_iff

/-- The bits of a node allow the same. -/
theorem allows_eq (h : Relisted fs other) (wanted : Permission) (node : Node) :
    other.allows wanted node = fs.allows wanted node := by
  simp only [allows, h.privileged]

/-- A walk takes the same way. -/
theorem walk_eq (h : Relisted fs other) (links : Nat) (here : Location) (todo : List Name)
    (slashed : Bool) : other.walk links here todo slashed = fs.walk links here todo slashed := by
  have hnode := h.node?_eq
  have hallows := h.allows_eq
  fun_induction walk fs links here todo slashed <;> grind [walk]

/-- A path leads to the same place. -/
theorem resolve_eq (h : Relisted fs other) (path : Path) :
    other.resolve path = fs.resolve path := by
  simp only [resolve, h.cwd, h.walk_eq]

/-- A path leads to the same node. -/
theorem locate_eq (h : Relisted fs other) (path : Path) : other.locate path = fs.locate path := by
  simp only [locate, h.resolve_eq, h.node?_eq]

/-- A directory has the same names, perhaps in another order. -/
theorem childNames_perm (h : Relisted fs other) (location : Location) :
    (other.childNames location).Perm (fs.childNames location) :=
  h.nodes.filterMap _

end Relisted

end FileSystem

end Fixtures
