import Fixtures.FileSystem.Resolve
import Fixtures.Proofs.Path

/-!
# Walks step by step

A walk needs a directory to go on from. It stays there, goes up, goes on to a node, takes the way of
a link or ends. Each way has its equation here, and every statement about walks is read off them. A
name that is joined to the path of a directory is the last step of the walk; if the directory holds
no links, that step ends at the entry of this name, or at the place where it would stand.
-/

namespace Fixtures

namespace FileSystem

/-- Whether a walk can go on from a location: there is a directory that may be searched. -/
def Enterable (fs : FileSystem) (here : Location) : Prop :=
  ∃ directory, fs.node? here = some directory ∧ directory.isDirectory = true ∧
    fs.allows .search directory = true

/-- A name that is looked up in a directory, and is not too long for one. -/
def Ordinary (name : Name) : Prop :=
  name ≠ [Path.dot] ∧ name ≠ [Path.dot, Path.dot] ∧ name.length ≤ maxName

section Equations

variable {fs : FileSystem} {links : Nat} {here : Location} {name : Name} {rest : List Name}
  {slashed : Bool}

/-- Nothing is found below what cannot be entered. -/
theorem walk_of_not_enterable (h : ¬fs.Enterable here) (links : Nat) (name : Name)
    (rest : List Name) (slashed : Bool) :
    ∃ reason, fs.walk links here (name :: rest) slashed = .error reason := by
  rw [walk]
  cases hnode : fs.node? here with
  | none => exact ⟨_, rfl⟩
  | some directory =>
    cases hdirectory : directory.isDirectory with
    | false => exact ⟨.notDirectory, by simp [hdirectory]⟩
    | true =>
      cases hallows : fs.allows .search directory with
      | false => exact ⟨.denied, by simp [hdirectory, hallows]⟩
      | true => exact absurd ⟨directory, hnode, hdirectory, hallows⟩ h

/-- A dot stays. -/
theorem walk_dot (h : fs.Enterable here) :
    fs.walk links here ([Path.dot] :: rest) slashed = fs.walk links here rest slashed := by
  obtain ⟨directory, hnode, hdirectory, hallows⟩ := h
  rw [walk]
  simp [hnode, hdirectory, hallows]

/-- Two dots go up. -/
theorem walk_parent (h : fs.Enterable here) :
    fs.walk links here ([Path.dot, Path.dot] :: rest) slashed =
      fs.walk links here.tail rest slashed := by
  obtain ⟨directory, hnode, hdirectory, hallows⟩ := h
  rw [walk]
  simp [hnode, hdirectory, hallows]

/-- A name that is too long is in no directory. -/
theorem walk_long (h : fs.Enterable here) (hlong : maxName < name.length) :
    fs.walk links here (name :: rest) slashed = .error .nameTooLong := by
  obtain ⟨directory, hnode, hdirectory, hallows⟩ := h
  have hself : name ≠ [Path.dot] := by
    rintro rfl
    exact absurd hlong (by decide)
  have hparent : name ≠ [Path.dot, Path.dot] := by
    rintro rfl
    exact absurd hlong (by decide)
  rw [walk]
  simp [hnode, hdirectory, hallows, hself, hparent, hlong]

section Ordinary

variable (h : fs.Enterable here) (hname : Ordinary name)

include h hname

/-- A missing name is free if it is the last one, and nothing is found below it. -/
theorem walk_missing (hnone : fs.node? (name :: here) = none) :
    fs.walk links here (name :: rest) slashed =
      if rest = [] then .ok ⟨.free here name, slashed⟩ else .error .notFound := by
  obtain ⟨directory, hnode, hdirectory, hallows⟩ := h
  obtain ⟨hself, hparent, hshort⟩ := hname
  rw [walk]
  simp [hnode, hdirectory, hallows, hself, hparent, Nat.not_lt.mpr hshort, hnone]

/-- A name that is no link is gone on to. -/
theorem walk_node {node : Node} (hchild : fs.node? (name :: here) = some node)
    (hlink : ∀ target, node.content ≠ .link target) :
    fs.walk links here (name :: rest) slashed = fs.walk links (name :: here) rest slashed := by
  obtain ⟨directory, hnode, hdirectory, hallows⟩ := h
  obtain ⟨hself, hparent, hshort⟩ := hname
  rw [walk]
  simp [hnode, hdirectory, hallows, hself, hparent, Nat.not_lt.mpr hshort, hchild]

/-- One link too many ends the walk. -/
theorem walk_link_zero {node : Node} {target : Path} (hchild : fs.node? (name :: here) = some node)
    (hlink : node.content = .link target) :
    fs.walk 0 here (name :: rest) slashed = .error .tooManyLinks := by
  obtain ⟨directory, hnode, hdirectory, hallows⟩ := h
  obtain ⟨hself, hparent, hshort⟩ := hname
  rw [walk]
  simp [hnode, hdirectory, hallows, hself, hparent, Nat.not_lt.mpr hshort, hchild, hlink]

/-- The way of a link is taken in its place. -/
theorem walk_link_succ {node : Node} {target : Path} (hchild : fs.node? (name :: here) = some node)
    (hlink : node.content = .link target) :
    fs.walk (links + 1) here (name :: rest) slashed =
      fs.walk links (if Path.isAbsolute target then [] else here) (steps target ++ rest)
        (if rest = [] then slashed || Path.endsWithSlash target else slashed) := by
  obtain ⟨directory, hnode, hdirectory, hallows⟩ := h
  obtain ⟨hself, hparent, hshort⟩ := hname
  rw [walk]
  simp [hnode, hdirectory, hallows, hself, hparent, Nat.not_lt.mpr hshort, hchild, hlink]

end Ordinary

end Equations

/-- Induction along a walk, with one case for each way that a step can go. -/
@[elab_as_elim]
theorem walk_induction (fs : FileSystem) {motive : Nat → Location → List Name → Bool → Prop}
    (arrived : ∀ links here slashed, motive links here [] slashed)
    (blocked : ∀ links here name rest slashed, ¬fs.Enterable here →
      motive links here (name :: rest) slashed)
    (dot : ∀ links here rest slashed, fs.Enterable here → motive links here rest slashed →
      motive links here ([Path.dot] :: rest) slashed)
    (parent : ∀ links here rest slashed, fs.Enterable here → motive links here.tail rest slashed →
      motive links here ([Path.dot, Path.dot] :: rest) slashed)
    (long : ∀ links here name rest slashed, fs.Enterable here → maxName < name.length →
      motive links here (name :: rest) slashed)
    (missing : ∀ links here name rest slashed, fs.Enterable here → Ordinary name →
      fs.node? (name :: here) = none → motive links here (name :: rest) slashed)
    (node : ∀ links here name rest slashed node, fs.Enterable here → Ordinary name →
      fs.node? (name :: here) = some node → (∀ target, node.content ≠ .link target) →
      motive links (name :: here) rest slashed → motive links here (name :: rest) slashed)
    (stuck : ∀ here name rest slashed node target, fs.Enterable here → Ordinary name →
      fs.node? (name :: here) = some node → node.content = .link target →
      motive 0 here (name :: rest) slashed)
    (link : ∀ links here name rest slashed node target, fs.Enterable here → Ordinary name →
      fs.node? (name :: here) = some node → node.content = .link target →
      motive links (if Path.isAbsolute target then [] else here) (steps target ++ rest)
        (if rest = [] then slashed || Path.endsWithSlash target else slashed) →
      motive (links + 1) here (name :: rest) slashed)
    (links : Nat) (here : Location) (todo : List Name) (slashed : Bool) :
    motive links here todo slashed := by
  have enterable : ∀ {here directory}, fs.node? here = some directory →
      ¬(!directory.isDirectory) = true → ¬(!fs.allows .search directory) = true →
      fs.Enterable here := by
    intro here directory hnode hdirectory hallows
    exact ⟨directory, hnode, by simpa using hdirectory, by simpa using hallows⟩
  fun_induction FileSystem.walk fs links here todo slashed with
  | case1 links here slashed => exact arrived links here slashed
  | case2 links here slashed name rest hnone =>
    refine blocked links here name rest slashed ?_
    rintro ⟨directory, hnode, -, -⟩
    cases hnone.symm.trans hnode
  | case3 links here slashed name rest directory hnode hdirectory =>
    refine blocked links here name rest slashed ?_
    rintro ⟨other, hother, hyes, -⟩
    cases hnode.symm.trans hother
    simp [hyes] at hdirectory
  | case4 links here slashed name rest directory hnode _ hallows =>
    refine blocked links here name rest slashed ?_
    rintro ⟨other, hother, -, hyes⟩
    cases hnode.symm.trans hother
    simp [hyes] at hallows
  | case5 links here slashed rest directory hnode hdirectory hallows ih =>
    exact dot links here rest slashed (enterable hnode hdirectory hallows) ih
  | case6 links here slashed rest directory hnode hdirectory hallows _ ih =>
    exact parent links here rest slashed (enterable hnode hdirectory hallows) ih
  | case7 links here slashed name rest directory hnode hdirectory hallows _ _ hlong =>
    exact long links here name rest slashed (enterable hnode hdirectory hallows) hlong
  | case8 links here slashed name directory hnode hdirectory hallows hself hparent hshort hnone =>
    exact missing links here name [] slashed (enterable hnode hdirectory hallows)
      ⟨hself, hparent, Nat.not_lt.mp hshort⟩ hnone
  | case9 links here slashed name rest directory hnode hdirectory hallows hself hparent hshort
      hnone _ =>
    exact missing links here name rest slashed (enterable hnode hdirectory hallows)
      ⟨hself, hparent, Nat.not_lt.mp hshort⟩ hnone
  | case10 here slashed name rest directory hnode hdirectory hallows hself hparent hshort child
      hchild target hlink =>
    exact stuck here name rest slashed child target (enterable hnode hdirectory hallows)
      ⟨hself, hparent, Nat.not_lt.mp hshort⟩ hchild hlink
  | case11 here slashed name rest directory hnode hdirectory hallows hself hparent hshort child
      hchild target hlink links ih =>
    exact link links here name rest slashed child target (enterable hnode hdirectory hallows)
      ⟨hself, hparent, Nat.not_lt.mp hshort⟩ hchild hlink (by simpa using ih)
  | case12 links here slashed name rest directory hnode hdirectory hallows hself hparent hshort
      child hchild hlink ih =>
    exact node links here name rest slashed child (enterable hnode hdirectory hallows)
      ⟨hself, hparent, Nat.not_lt.mp hshort⟩ hchild hlink ih

/-- A last name that is no link is arrived at, or is free. -/
theorem walk_last {fs : FileSystem} {here : Location} (h : fs.Enterable here) {name : Name}
    (hname : Ordinary name)
    (hlink : ∀ node, fs.node? (name :: here) = some node → ∀ target, node.content ≠ .link target)
    (links : Nat) (slashed : Bool) :
    fs.walk links here [name] slashed =
      .ok ⟨if (fs.node? (name :: here)).isSome then .taken (name :: here) else .free here name,
        slashed⟩ := by
  cases hchild : fs.node? (name :: here) with
  | none => rw [walk_missing h hname hchild, if_pos rfl, Option.isSome_none, if_neg (by simp)]
  | some child =>
    rw [walk_node h hname hchild (hlink child hchild), walk, Option.isSome_some, if_pos rfl]

/-- A walk that comes to a location goes on from there. It may have followed links before, so what
it comes to in the end must not depend on how many it may still follow. -/
theorem walk_concat_of_taken {fs : FileSystem} {name : Name} {dir : Location} {asked : Bool}
    {last : Except IoError Landing} (hlast : ∀ links, fs.walk links dir [name] asked = last)
    {links : Nat} {here : Location} {todo : List Name} {slashed ended : Bool}
    (h : fs.walk links here todo slashed = .ok ⟨.taken dir, ended⟩) :
    fs.walk links here (todo ++ [name]) asked = last := by
  induction links, here, todo, slashed using walk_induction fs with
  | arrived links here slashed =>
    rw [walk] at h
    cases h
    exact hlast links
  | blocked links here step rest slashed hblocked =>
    obtain ⟨reason, hreason⟩ := walk_of_not_enterable hblocked links step rest slashed
    cases hreason.symm.trans h
  | dot links here rest slashed henter ih =>
    rw [walk_dot henter] at h
    rw [List.cons_append, walk_dot henter, ih h]
  | parent links here rest slashed henter ih =>
    rw [walk_parent henter] at h
    rw [List.cons_append, walk_parent henter, ih h]
  | long links here step rest slashed henter hlong =>
    rw [walk_long henter hlong] at h
    cases h
  | missing links here step rest slashed henter hname hnone =>
    rw [walk_missing henter hname hnone] at h
    split at h <;> cases h
  | node links here step rest slashed node henter hname hchild hnode ih =>
    rw [walk_node henter hname hchild hnode] at h
    rw [List.cons_append, walk_node henter hname hchild hnode, ih h]
  | stuck here step rest slashed node target henter hname hchild htarget =>
    rw [walk_link_zero henter hname hchild htarget] at h
    cases h
  | link links here step rest slashed node target henter hname hchild htarget ih =>
    have hmore : rest ++ [name] ≠ [] := List.append_ne_nil_of_right_ne_nil rest (by simp)
    rw [walk_link_succ henter hname hchild htarget] at h
    rw [List.cons_append, walk_link_succ henter hname hchild htarget, if_neg hmore,
      ← List.append_assoc, ih h]

/-- A walk that gets anywhere with one name more came to a directory before it. -/
theorem exists_taken_of_walk_concat {fs : FileSystem} {name : Name} {links : Nat} {here : Location}
    {todo : List Name} {asked : Bool} {landing : Landing}
    (h : fs.walk links here (todo ++ [name]) asked = .ok landing) (slashed : Bool) :
    ∃ dir ended, fs.walk links here todo slashed = .ok ⟨.taken dir, ended⟩ ∧ fs.Enterable dir := by
  induction links, here, todo, slashed using walk_induction fs with
  | arrived links here slashed =>
    by_cases henter : fs.Enterable here
    · exact ⟨here, slashed, by rw [walk], henter⟩
    · obtain ⟨reason, hreason⟩ := walk_of_not_enterable henter links name [] asked
      cases hreason.symm.trans h
  | blocked links here step rest slashed hblocked =>
    obtain ⟨reason, hreason⟩ := walk_of_not_enterable hblocked links step (rest ++ [name]) asked
    cases hreason.symm.trans h
  | dot links here rest slashed henter ih =>
    rw [List.cons_append, walk_dot henter] at h
    rw [walk_dot henter]
    exact ih h
  | parent links here rest slashed henter ih =>
    rw [List.cons_append, walk_parent henter] at h
    rw [walk_parent henter]
    exact ih h
  | long links here step rest slashed henter hlong =>
    rw [List.cons_append, walk_long henter hlong] at h
    cases h
  | missing links here step rest slashed henter hname hnone =>
    rw [List.cons_append, walk_missing henter hname hnone, if_neg (by simp)] at h
    cases h
  | node links here step rest slashed node henter hname hchild hnode ih =>
    rw [List.cons_append, walk_node henter hname hchild hnode] at h
    rw [walk_node henter hname hchild hnode]
    exact ih h
  | stuck here step rest slashed node target henter hname hchild htarget =>
    rw [List.cons_append, walk_link_zero henter hname hchild htarget] at h
    cases h
  | link links here step rest slashed node target henter hname hchild htarget ih =>
    have hmore : rest ++ [name] ≠ [] := List.append_ne_nil_of_right_ne_nil rest (by simp)
    rw [List.cons_append, walk_link_succ henter hname hchild htarget, if_neg hmore,
      ← List.append_assoc] at h
    rw [walk_link_succ henter hname hchild htarget]
    exact ih h

/-- Bytes without a slash are one step. -/
theorem steps_of_not_mem {name : Name} (hne : name ≠ []) (h : Path.slash ∉ name) :
    steps name = [name] := by
  have hpiece : Text.pieces (· == Path.slash) name = [name] :=
    Text.pieces_of_not_isCut fun a ha => beq_false_of_ne fun heq => h (heq ▸ ha)
  simp [steps, Text.solidPieces, hpiece, hne]

/-- The steps before a slash come before the steps after it. -/
theorem steps_append_slash (front rest : Path) :
    steps (front ++ Path.slash :: rest) = steps front ++ steps rest := by
  simp only [steps, Text.solidPieces]
  rw [Text.pieces_append_cons (· == Path.slash) (beq_self_eq_true Path.slash), List.filter_append]

/-- A joined name is the last step. -/
theorem steps_join (dir : Path) {name : Name} (hne : name ≠ []) (h : Path.slash ∉ name) :
    steps (Path.join dir name) = steps dir ++ [name] := by
  rcases Path.join_cases dir h with ⟨rfl, hjoin⟩ | ⟨front, hdir, -, hjoin⟩
  · rw [hjoin, steps_of_not_mem hne h]
    rfl
  · have hfront : steps dir = steps front := by
      rcases hdir with rfl | rfl
      · rfl
      · rw [steps_append_slash]
        exact List.append_nil _
    rw [hjoin, steps_append_slash, steps_of_not_mem hne h, hfront]

/-- Where the walk of a path starts. -/
def start (fs : FileSystem) (path : Path) : Location :=
  if Path.isAbsolute path then [] else fs.cwd

/-- A path leads somewhere exactly if it is no trouble to look at and its walk gets there. -/
theorem resolve_eq_ok_iff {fs : FileSystem} {path : Path} {landing : Landing} :
    fs.resolve path = .ok landing ↔ 0 ∉ path ∧ path ≠ [] ∧ path.length ≤ maxPath ∧
      fs.walk maxLinks (fs.start path) (steps path) (Path.endsWithSlash path) = .ok landing := by
  rw [resolve, ← start]
  by_cases hnul : 0 ∈ path
  · simp [hnul]
  · by_cases hempty : path = []
    · simp [hempty]
    · by_cases hlong : maxPath < path.length
      · simp [hnul, hempty, hlong, Nat.not_le.mpr hlong]
      · simp [hnul, hempty, hlong, Nat.not_lt.mp hlong]

/-- A joined name leads somewhere exactly if the whole path is no trouble to look at and the walk to
the directory gets there with one name more. -/
theorem resolve_join_eq_ok_iff {fs : FileSystem} {dir : Path} {name : Name} {landing : Landing}
    (hne : name ≠ []) (h : Path.slash ∉ name) :
    fs.resolve (Path.join dir name) = .ok landing ↔
      0 ∉ dir ∧ 0 ∉ name ∧ (Path.join dir name).length ≤ maxPath ∧
        fs.walk maxLinks (fs.start dir) (steps dir ++ [name]) false = .ok landing := by
  have hsome : Path.join dir name ≠ [] := by
    rcases Path.join_cases dir h with ⟨-, hjoin⟩ | ⟨front, -, -, hjoin⟩ <;> simp [hjoin, hne]
  rw [resolve_eq_ok_iff, steps_join dir hne h, Path.endsWithSlash_join dir hne h, start, start,
    Path.isAbsolute_join dir h, Path.mem_join_iff dir h (by decide), not_or, and_assoc]
  simp [hsome]

/-- Where a walk ends, or where a node would stand if its last name were not free. -/
def Place.location : Place → Location
  | taken location => location
  | free parent name => name :: parent

/-- Where a walk ends, and whether a directory is asked for. -/
def Landing.spot (landing : Landing) : Location × Bool := (landing.place.location, landing.slashed)

/-- The location that a path leads to, at which there is a node or could be one, and whether the
path asks for a directory. -/
def destination (fs : FileSystem) (path : Path) : Option (Location × Bool) :=
  (fs.resolve path).toOption.map Landing.spot

/-- Whether a path leads to a location. -/
def LeadsTo (fs : FileSystem) (path : Path) (location : Location) : Prop :=
  ∃ slashed, fs.destination path = some (location, slashed)

/-- A path leads to where its walk lands. -/
theorem destination_eq_some_iff {fs : FileSystem} {path : Path} {location : Location}
    {slashed : Bool} :
    fs.destination path = some (location, slashed) ↔
      ∃ place, fs.resolve path = .ok ⟨place, slashed⟩ ∧ place.location = location := by
  rw [destination]
  cases fs.resolve path with
  | error reason => simp [Except.toOption]
  | ok landing =>
    rcases landing with ⟨place, asked⟩
    simp only [Except.toOption, Option.map_some, Landing.spot, Option.some.injEq, Prod.mk.injEq,
      Except.ok.injEq, Landing.mk.injEq]
    constructor
    · rintro ⟨hplace, hasked⟩
      exact ⟨place, ⟨rfl, hasked⟩, hplace⟩
    · rintro ⟨_, ⟨rfl, hasked⟩, hplace⟩
      exact ⟨hplace, hasked⟩

/-- No node has a name that a walk finds free. -/
theorem node?_of_walk_free {fs : FileSystem} {links : Nat} {here parent : Location}
    {todo : List Name} {name : Name} {slashed ended : Bool}
    (h : fs.walk links here todo slashed = .ok ⟨.free parent name, ended⟩) :
    fs.node? (name :: parent) = none := by
  induction links, here, todo, slashed using walk_induction fs with
  | arrived links here slashed =>
    rw [walk] at h
    cases h
  | blocked links here step rest slashed hblocked =>
    obtain ⟨reason, hreason⟩ := walk_of_not_enterable hblocked links step rest slashed
    cases hreason.symm.trans h
  | dot links here rest slashed henter ih => exact ih (walk_dot henter ▸ h)
  | parent links here rest slashed henter ih => exact ih (walk_parent henter ▸ h)
  | long links here step rest slashed henter hlong =>
    rw [walk_long henter hlong] at h
    cases h
  | missing links here step rest slashed henter hname hnone =>
    rw [walk_missing henter hname hnone] at h
    split at h
    · cases h
      exact hnone
    · cases h
  | node links here step rest slashed node henter hname hchild hnode ih =>
    exact ih (walk_node henter hname hchild hnode ▸ h)
  | stuck here step rest slashed node target henter hname hchild htarget =>
    rw [walk_link_zero henter hname hchild htarget] at h
    cases h
  | link links here step rest slashed node target henter hname hchild htarget ih =>
    exact ih (walk_link_succ henter hname hchild htarget ▸ h)

/-- A path has a node exactly if there is one at the location it leads to, which is a directory if
the path asks for one. -/
theorem locate_eq_ok_iff {fs : FileSystem} {path : Path} {location : Location} {node : Node} :
    fs.locate path = .ok (location, node) ↔
      ∃ slashed, fs.destination path = some (location, slashed) ∧ fs.node? location = some node ∧
        (slashed = true → node.isDirectory = true) := by
  simp only [destination_eq_some_iff]
  cases hresolve : fs.resolve path with
  | error reason => simp [locate, hresolve]
  | ok landing =>
    rcases landing with ⟨place, asked⟩
    cases place with
    | free parent name =>
      have hnone : fs.node? (name :: parent) = none :=
        node?_of_walk_free (resolve_eq_ok_iff.mp hresolve).2.2.2
      simp only [locate, hresolve, reduceCtorEq, Except.ok.injEq, Landing.mk.injEq, false_iff]
      rintro ⟨_, ⟨_, ⟨rfl, -⟩, rfl⟩, hsome, -⟩
      cases hnone.symm.trans hsome
    | taken here =>
      simp only [locate, hresolve, Except.ok.injEq, Landing.mk.injEq]
      cases hnode : fs.node? here with
      | none =>
        simp only [reduceCtorEq, false_iff]
        rintro ⟨_, ⟨_, ⟨rfl, -⟩, rfl⟩, hsome, -⟩
        cases hnode.symm.trans hsome
      | some found =>
        by_cases hasked : asked = true ∧ found.isDirectory = false
        · simp only [hasked, Bool.not_false, Bool.and_self, ite_true, reduceCtorEq, false_iff]
          rintro ⟨_, ⟨_, ⟨rfl, rfl⟩, rfl⟩, hsome, hdirectory⟩
          cases hnode.symm.trans hsome
          cases hasked.2.symm.trans (hdirectory rfl)
        · have hdirectory : asked = true → found.isDirectory = true := by
            intro htrue
            simpa [htrue] using hasked
          have hpass : (asked && !found.isDirectory) = false := by
            cases asked <;> simp_all
          simp only [hpass, Bool.false_eq_true, ite_false, Except.ok.injEq, Prod.mk.injEq]
          constructor
          · rintro ⟨rfl, rfl⟩
            exact ⟨asked, ⟨_, ⟨rfl, rfl⟩, rfl⟩, hnode, hdirectory⟩
          · rintro ⟨_, ⟨_, ⟨rfl, rfl⟩, rfl⟩, hsome, -⟩
            exact ⟨rfl, Option.some.inj (hnode.symm.trans hsome)⟩

/-- Whether no entry of a directory is a link. The directory is the one that names joined to the
path are looked up in. -/
def LinkFree (fs : FileSystem) (dir : Path) : Prop :=
  ∀ here node, fs.locate (Path.join dir [Path.dot]) = .ok (here, node) →
    ∀ name child, fs.node? (name :: here) = some child → ∀ target, child.content ≠ .link target

/-- A directory that a walk comes to, as the path of the directory itself finds it. -/
theorem locate_join_dot {fs : FileSystem} {dir : Path} {here : Location} {slashed ended : Bool}
    (hwalk : fs.walk maxLinks (fs.start dir) (steps dir) slashed = .ok ⟨.taken here, ended⟩)
    (henter : fs.Enterable here) (hnul : 0 ∉ dir)
    (hlength : (Path.join dir [Path.dot]).length ≤ maxPath) :
    ∃ node, fs.locate (Path.join dir [Path.dot]) = .ok (here, node) := by
  have hlast : ∀ links, fs.walk links here [[Path.dot]] false = .ok ⟨.taken here, false⟩ := by
    intro links
    rw [walk_dot henter, walk]
  have hresolve : fs.resolve (Path.join dir [Path.dot]) = .ok ⟨.taken here, false⟩ :=
    (resolve_join_eq_ok_iff (by decide) (by decide)).mpr
      ⟨hnul, by decide, hlength, walk_concat_of_taken hlast hwalk⟩
  obtain ⟨directory, hnode, -, -⟩ := henter
  exact ⟨directory, locate_eq_ok_iff.mpr
    ⟨false, destination_eq_some_iff.mpr ⟨_, hresolve, rfl⟩, hnode,
      fun hslash => absurd hslash Bool.false_ne_true⟩⟩

/-- In a directory without links, a joined name leads to the entry of that name, or to where it
would stand. -/
theorem LinkFree.leadsTo_join {fs : FileSystem} {dir : Path} (hfree : fs.LinkFree dir) {name : Name}
    (hname : Path.isName name = true) {location : Location}
    (h : fs.LeadsTo (Path.join dir name) location) (slashed : Bool) :
    ∃ here ended, fs.walk maxLinks (fs.start dir) (steps dir) slashed = .ok ⟨.taken here, ended⟩ ∧
      location = name :: here := by
  obtain ⟨hne, hslash, hself, hparent⟩ := (Path.isName_iff name).mp hname
  obtain ⟨asked, hdestination⟩ := h
  obtain ⟨place, hresolve, rfl⟩ := destination_eq_some_iff.mp hdestination
  obtain ⟨hnul, -, hlength, hconcat⟩ := (resolve_join_eq_ok_iff hne hslash).mp hresolve
  obtain ⟨here, ended, hwalk, henter⟩ := exists_taken_of_walk_concat hconcat slashed
  refine ⟨here, ended, hwalk, ?_⟩
  have hshorter : (Path.join dir [Path.dot]).length ≤ (Path.join dir name).length :=
    Path.length_join_le dir hslash (by decide) (List.length_pos_iff.mpr hne)
  obtain ⟨node, hlocate⟩ := locate_join_dot hwalk henter hnul (Nat.le_trans hshorter hlength)
  have hlink := hfree here node hlocate name
  by_cases hlong : maxName < name.length
  · rw [walk_concat_of_taken (fun links => walk_long henter hlong) hwalk] at hconcat
    cases hconcat
  · have hordinary : Ordinary name := ⟨hself, hparent, Nat.not_lt.mp hlong⟩
    rw [walk_concat_of_taken (fun links => walk_last henter hordinary hlink links false) hwalk]
      at hconcat
    cases hconcat
    split <;> rfl

end FileSystem

end Fixtures
