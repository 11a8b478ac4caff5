import Mathlib
import Fixtures.Collect
import Fixtures.Proofs.FileSystem.Relisted
import Fixtures.Proofs.Path

/-!
# The scripts of a directory

Collecting ends in one of three ways: the path leads to no directory, the directory cannot be
listed, or the scripts are found. Those found are the entries of the directory itself that end with
the suffix and lead to regular files, each once and in the byte order of their names, whatever order
the directory lists them in.
-/

namespace Fixtures

namespace FileSystem

/-- The node of a path is what is found at its end. -/
theorem find?_eq_some_iff (fs : FileSystem) (path : Path) (node : Node) :
    fs.find? path = some node ↔ ∃ here, fs.locate path = .ok (here, node) := by
  rw [find?]
  cases fs.locate path <;> simp [Except.toOption, Prod.ext_iff]

/-- A path leads to a directory exactly if that is what is found at its end. -/
theorem isDirectory_iff (fs : FileSystem) (path : Path) :
    fs.isDirectory path = true ↔
      ∃ here node, fs.locate path = .ok (here, node) ∧ node.content = .directory := by
  simp only [isDirectory, Option.any_eq_true, find?_eq_some_iff, Node.isDirectory, beq_iff_eq]
  constructor
  · rintro ⟨node, ⟨here, hlocate⟩, hnode⟩
    exact ⟨here, node, hlocate, hnode⟩
  · rintro ⟨here, node, hlocate, hnode⟩
    exact ⟨node, ⟨here, hlocate⟩, hnode⟩

/-- A path leads to a regular file exactly if that is what is found at its end. -/
theorem isFile_iff (fs : FileSystem) (path : Path) :
    fs.isFile path = true ↔
      ∃ here node, fs.locate path = .ok (here, node) ∧ node.content.isRegular = true := by
  simp only [isFile, Option.any_eq_true, find?_eq_some_iff]
  constructor
  · rintro ⟨node, ⟨here, hlocate⟩, hnode⟩
    exact ⟨here, node, hlocate, hnode⟩
  · rintro ⟨here, node, hlocate, hnode⟩
    exact ⟨node, ⟨here, hlocate⟩, hnode⟩

end FileSystem

namespace Collect

/-- The extension without the dots in front of it. -/
def bare (extension : String) : String := String.ofList (extension.toList.dropWhile (· == '.'))

/-- The suffix is one dot and the extension without the dots in front of it. -/
theorem suffix_eq (extension : String) :
    suffix extension = Path.dot :: Utf8.encode (bare extension) := by
  have hdot : String.utf8EncodeChar '.' = [Path.dot] := by decide
  simp only [suffix, bare, Utf8.encode, String.toList_ofList, List.flatMap_cons, hdot,
    List.singleton_append]

/-- An extension that does not start with a dot is taken as it is. -/
theorem bare_eq_of_head? {extension : String} (h : extension.toList.head? ≠ some '.') :
    bare extension = extension := by
  rw [bare]
  cases hlist : extension.toList with
  | nil => rw [List.dropWhile_nil, ← hlist, String.ofList_toList]
  | cons first rest =>
    have hfirst : (first == '.') = false := by
      rw [hlist] at h
      simpa using h
    rw [List.dropWhile_cons, hfirst, if_neg Bool.false_ne_true, ← hlist, String.ofList_toList]

/-- Sorting keeps the names. -/
theorem sorted_perm (names : List Name) : (sorted names).Perm names := List.mergeSort_perm ..

/-- Sorted names are in byte order. -/
theorem sorted_pairwise_le (names : List Name) : (sorted names).Pairwise (· ≤ ·) := by
  have htrans : ∀ a b c : Name, decide (a ≤ b) = true → decide (b ≤ c) = true →
      decide (a ≤ c) = true := by
    intro a b c hab hbc
    exact decide_eq_true (List.le_trans (of_decide_eq_true hab) (of_decide_eq_true hbc))
  have htotal : ∀ a b : Name, (decide (a ≤ b) || decide (b ≤ a)) = true := by
    intro a b
    simpa using List.le_total a b
  exact (List.pairwise_mergeSort htrans htotal names).imp of_decide_eq_true

/-- Different names are sorted strictly. -/
theorem sorted_pairwise_lt {names : List Name} (h : names.Nodup) :
    (sorted names).Pairwise (· < ·) := by
  have hne : (sorted names).Pairwise (· ≠ ·) := (sorted_perm names).nodup_iff.mpr h
  exact (sorted_pairwise_le names).imp₂ (fun _ _ => Std.lt_of_le_of_ne) hne

/-- The order in which names are given does not matter. -/
theorem sorted_eq_of_perm {names others : List Name} (h : names.Perm others) :
    sorted names = sorted others := by
  refine List.Perm.eq_of_pairwise (fun a b _ _ hab hba => List.le_antisymm hab hba)
    (sorted_pairwise_le names) (sorted_pairwise_le others) ?_
  exact (sorted_perm names).trans (h.trans (sorted_perm others).symm)

/-- The names in a directory that stand for scripts, in order. -/
def scriptNames (fs : FileSystem) (dir : Path) (here : Location) (ending : Bytes) : List Name :=
  (sorted (fs.childNames here)).filter (isScript fs dir ending)

section Equations

variable {fs : FileSystem} {dir : Path} {here : Location} {node : Node}

/-- A path that leads to no directory. -/
theorem scripts_of_missing (h : fs.isDirectory dir = false) (ending : Bytes) :
    scripts fs dir ending = .error (.directoryNotFound (Path.text dir)) := by
  simp [scripts, h]

/-- A directory that cannot be listed. -/
theorem scripts_of_unreadable (hdir : fs.locate dir = .ok (here, node))
    (hnode : node.content = .directory) (hread : fs.allows .read node = false) (ending : Bytes) :
    scripts fs dir ending = .error (.directoryUnreadable (Path.text dir)) := by
  have hdirectory := (fs.isDirectory_iff dir).mpr ⟨here, node, hdir, hnode⟩
  simp [scripts, hdirectory, FileSystem.listNames, hdir, Node.isDirectory, hnode, hread]

/-- A directory that can be listed. -/
theorem scripts_of_readable (hdir : fs.locate dir = .ok (here, node))
    (hnode : node.content = .directory) (hread : fs.allows .read node = true) (ending : Bytes) :
    scripts fs dir ending = .ok ((scriptNames fs dir here ending).map (Path.join dir)) := by
  have hdirectory := (fs.isDirectory_iff dir).mpr ⟨here, node, hdir, hnode⟩
  simp [scripts, hdirectory, FileSystem.listNames, hdir, Node.isDirectory, hnode, hread,
    scriptNames]

end Equations

/-- The three ways in which collecting ends. -/
inductive Collected (fs : FileSystem) (dir : Path) (ending : Bytes) :
    Except Failure (List Path) → Prop where
  /-- The path leads to no directory. -/
  | missing (h : ¬∃ here node, fs.locate dir = .ok (here, node) ∧ node.content = .directory) :
    Collected fs dir ending (.error (.directoryNotFound (Path.text dir)))
  /-- The directory cannot be listed. -/
  | unreadable {here : Location} {node : Node} (hdir : fs.locate dir = .ok (here, node))
      (hnode : node.content = .directory) (hread : fs.allows .read node = false) :
    Collected fs dir ending (.error (.directoryUnreadable (Path.text dir)))
  /-- The scripts are found. -/
  | found {here : Location} {node : Node} (hdir : fs.locate dir = .ok (here, node))
      (hnode : node.content = .directory) (hread : fs.allows .read node = true) :
    Collected fs dir ending (.ok ((scriptNames fs dir here ending).map (Path.join dir)))

/-- Collecting ends in one of the three ways. -/
theorem scripts_collected (fs : FileSystem) (dir : Path) (ending : Bytes) :
    Collected fs dir ending (scripts fs dir ending) := by
  cases hdirectory : fs.isDirectory dir with
  | false =>
    rw [scripts_of_missing hdirectory]
    refine .missing fun hfound => ?_
    rw [← fs.isDirectory_iff, hdirectory] at hfound
    cases hfound
  | true =>
    obtain ⟨here, node, hdir, hnode⟩ := (fs.isDirectory_iff dir).mp hdirectory
    cases hread : fs.allows .read node with
    | false =>
      rw [scripts_of_unreadable hdir hnode hread]
      exact .unreadable hdir hnode hread
    | true =>
      rw [scripts_of_readable hdir hnode hread]
      exact .found hdir hnode hread

/-- The names that stand for scripts are strictly in byte order. -/
theorem scriptNames_pairwise (fs : FileSystem) (dir : Path) (here : Location) (ending : Bytes) :
    (scriptNames fs dir here ending).Pairwise (· < ·) :=
  (sorted_pairwise_lt (fs.nodup_childNames here)).filter _

/-- A name in the directory at `here`, which `dir` leads to, that stands for a script: it ends with
a dot and the extension without the dots in front of it, and the path through the directory leads to
a regular file. -/
structure Candidate (fs : FileSystem) (dir : Path) (here : Location) (extension : String)
    (name : Name) : Prop where
  /-- It can be written in a path. -/
  isName : Path.isName name = true
  /-- The directory has an entry of that name. -/
  entry : (fs.node? (name :: here)).isSome
  /-- It ends with the suffix. -/
  ends : Path.dot :: Utf8.encode (bare extension) <:+ name
  /-- It leads to a regular file, links followed. -/
  regular : ∃ location node, fs.locate (Path.join dir name) = .ok (location, node) ∧
    node.content.isRegular = true

/-- The names that stand for scripts are the candidates. -/
theorem mem_scriptNames_iff (fs : FileSystem) (dir : Path) (here : Location) (extension : String)
    (name : Name) :
    name ∈ scriptNames fs dir here (suffix extension) ↔ Candidate fs dir here extension name := by
  rw [scriptNames, List.mem_filter, (sorted_perm _).mem_iff, FileSystem.mem_childNames_iff,
    isScript, Bool.and_eq_true, decide_eq_true_iff, FileSystem.isFile_iff, suffix_eq]
  constructor
  · rintro ⟨⟨hname, hentry⟩, hends, hregular⟩
    exact ⟨hname, hentry, hends, hregular⟩
  · rintro ⟨hname, hentry, hends, hregular⟩
    exact ⟨⟨hname, hentry⟩, hends, hregular⟩

/-- Each name that stands for a script can be written in a path. -/
theorem isName_of_mem_scriptNames {fs : FileSystem} {dir : Path} {here : Location} {ending : Bytes}
    {name : Name} (h : name ∈ scriptNames fs dir here ending) : Path.isName name = true := by
  have hlisted := (sorted_perm _).mem_iff.mp (List.mem_filter.mp h).1
  exact ((FileSystem.mem_childNames_iff ..).mp hlisted).1

/-- No script is found twice. -/
theorem nodup_of_scripts {fs : FileSystem} {dir : Path} {ending : Bytes} {found : List Path}
    (h : scripts fs dir ending = .ok found) : found.Nodup := by
  have hcollected := scripts_collected fs dir ending
  rw [h] at hcollected
  cases hcollected with
  | @found here _ _ _ _ =>
    refine List.pairwise_map.mpr ((scriptNames_pairwise fs dir here ending).imp_of_mem ?_)
    intro name other hname hother hlt heq
    have hsame := Path.join_inj_of_isName (isName_of_mem_scriptNames hname)
      (isName_of_mem_scriptNames hother) heq
    exact Std.ne_of_lt hlt hsame

/-- The order in which nodes are kept does not matter. -/
theorem scripts_eq_of_relisted {fs other : FileSystem} (h : fs.Relisted other) (dir : Path)
    (ending : Bytes) : scripts other dir ending = scripts fs dir ending := by
  have hcollected := scripts_collected fs dir ending
  generalize scripts fs dir ending = result at hcollected ⊢
  cases hcollected with
  | missing hnone =>
    apply scripts_of_missing
    rw [← Bool.not_eq_true, FileSystem.isDirectory_iff]
    simpa only [h.locate_eq] using hnone
  | unreadable hdir hnode hread =>
    exact scripts_of_unreadable ((h.locate_eq dir).trans hdir) hnode
      ((h.allows_eq _ _).trans hread) ending
  | @found here node hdir hnode hread =>
    rw [scripts_of_readable ((h.locate_eq dir).trans hdir) hnode ((h.allows_eq _ _).trans hread)]
    have hscript : isScript other dir ending = isScript fs dir ending := by
      funext name
      simp only [isScript, FileSystem.isFile, FileSystem.find?, h.locate_eq]
    rw [scriptNames, scriptNames, hscript, sorted_eq_of_perm (h.childNames_perm here)]

/-- Collecting finds exactly the candidates, in the byte order of their names. It fails exactly if
the path leads to no directory or the directory cannot be listed. -/
theorem scripts_are_the_candidates (fs : FileSystem) (dir : Path) (extension : String) :
    (scripts fs dir (suffix extension) = .error (.directoryNotFound (Path.text dir)) ↔
      ¬∃ here node, fs.locate dir = .ok (here, node) ∧ node.content = .directory) ∧
    (scripts fs dir (suffix extension) = .error (.directoryUnreadable (Path.text dir)) ↔
      ∃ here node, fs.locate dir = .ok (here, node) ∧ node.content = .directory ∧
        fs.allows .read node = false) ∧
    (∀ here node, fs.locate dir = .ok (here, node) → node.content = .directory →
      fs.allows .read node = true →
      ∃ names : List Name, scripts fs dir (suffix extension) = .ok (names.map (Path.join dir)) ∧
        names.Pairwise (· < ·) ∧ (names.map (Path.join dir)).Nodup ∧
        (∀ name, Path.isName name = true → (Path.join dir name ∈ names.map (Path.join dir) ↔
          Candidate fs dir here extension name)) ∧
        ∀ script ∈ names.map (Path.join dir), ∃ name, script = Path.join dir name ∧
          Path.fileName script = some name ∧ Path.slash ∉ name ∧
          (fs.node? (name :: here)).isSome) ∧
    ∀ other, fs.Relisted other →
      scripts other dir (suffix extension) = scripts fs dir (suffix extension) := by
  refine ⟨?_, ?_, ?_, fun other hother => scripts_eq_of_relisted hother dir _⟩
  · constructor
    · intro hmissing
      have hcollected := scripts_collected fs dir (suffix extension)
      rw [hmissing] at hcollected
      cases hcollected with
      | missing hnone => exact hnone
    · intro hnone
      apply scripts_of_missing
      rwa [← Bool.not_eq_true, FileSystem.isDirectory_iff]
  · constructor
    · intro hunreadable
      have hcollected := scripts_collected fs dir (suffix extension)
      rw [hunreadable] at hcollected
      cases hcollected with
      | unreadable hdir hnode hread => exact ⟨_, _, hdir, hnode, hread⟩
    · rintro ⟨here, node, hdir, hnode, hread⟩
      exact scripts_of_unreadable hdir hnode hread (suffix extension)
  · intro here node hdir hnode hread
    have hscripts := scripts_of_readable hdir hnode hread (suffix extension)
    refine ⟨_, hscripts, scriptNames_pairwise .., nodup_of_scripts hscripts, ?_, ?_⟩
    · intro name hname
      rw [← mem_scriptNames_iff]
      constructor
      · intro hmem
        obtain ⟨other, hother, heq⟩ := List.mem_map.mp hmem
        have hsame := Path.join_inj_of_isName (isName_of_mem_scriptNames hother) hname heq
        exact hsame ▸ hother
      · exact List.mem_map_of_mem
    · intro script hscript
      obtain ⟨name, hname, rfl⟩ := List.mem_map.mp hscript
      have hcandidate := (mem_scriptNames_iff ..).mp hname
      have hisName := (Path.isName_iff name).mp hcandidate.isName
      exact ⟨name, rfl, Path.fileName_join_of_isName dir hcandidate.isName, hisName.2.1,
        hcandidate.entry⟩

/-- A working directory with a hidden script, a link to it, a link to itself and a directory. -/
def mixedEntries : FileSystem where
  nodes := [([], ⟨.directory, 0o755, 0⟩), ([Path.ofText ".boink"], ⟨.file [], 0o644, 5⟩),
    ([Path.ofText "link.boink"], ⟨.link (Path.ofText ".boink"), 0o777, 5⟩),
    ([Path.ofText "loop.boink"], ⟨.link (Path.ofText "loop.boink"), 0o777, 5⟩),
    ([Path.ofText "tree.boink"], ⟨.directory, 0o755, 5⟩)]
  distinct := by decide
  cwd := []
  now := 9
  privileged := true

/-- A link to a script is found, a directory with the name of a script is not. -/
theorem scripts_are_the_candidates_mixed :
    ∃ found, scripts mixedEntries (Path.ofText ".") (suffix "..boink") = .ok found ∧
      found.Nodup ∧ Path.ofText "./link.boink" ∈ found ∧ Path.ofText "./tree.boink" ∉ found := by
  have hdir : mixedEntries.locate (Path.ofText ".") = .ok ([], ⟨.directory, 0o755, 0⟩) := by cbv
  have hlink : mixedEntries.locate (Path.ofText "./link.boink") =
      .ok ([Path.ofText ".boink"], ⟨.file [], 0o644, 5⟩) := by cbv
  have htree : mixedEntries.locate (Path.ofText "./tree.boink") =
      .ok ([Path.ofText "tree.boink"], ⟨.directory, 0o755, 5⟩) := by cbv
  obtain ⟨-, -, hfound, -⟩ := scripts_are_the_candidates mixedEntries (Path.ofText ".") "..boink"
  obtain ⟨names, hnames, -, hnodup, hmem, -⟩ := hfound _ _ hdir rfl rfl
  refine ⟨_, hnames, hnodup, ?_, ?_⟩
  · refine (hmem (Path.ofText "link.boink") (by decide)).mpr ⟨by decide, by decide, ?_, ?_⟩
    · decide +kernel
    · exact ⟨_, _, hlink, rfl⟩
  · intro htaken
    obtain ⟨-, -, -, location, node, hlocate, hregular⟩ :=
      (hmem (Path.ofText "tree.boink") (by decide)).mp htaken
    cases htree.symm.trans hlocate
    cases hregular

end Collect

end Fixtures
