import Mathlib
import Fixtures.Proofs.Artifact
import Fixtures.Proofs.Batch.Accounting
import Fixtures.Proofs.Batch.Effects
import Fixtures.Proofs.Collect
import Fixtures.Proofs.FileSystem.Filed

/-!
# Parse trees are no scripts

The name of a parse tree ends with its own extension, so it ends with another one only if that is
the same or ends with it. For any other extension no parse tree is collected as a script, and a
batch whose calls make or overwrite nothing but parse trees, in directories without links, leaves
the same scripts to be collected again.

With the extension of parse trees itself, all that is collected is a name with `.json` behind it.
Where parse trees go beside the scripts it is then its own parse tree, if the name is not empty and
does not end with `.json` itself.
-/

namespace Fixtures

namespace Artifact

/-- The name of a parse tree does not end with another extension. -/
theorem not_ends_fileName {ending : Bytes} (hjson : ending ≠ Utf8.encode "json")
    (hlonger : ¬suffix <:+ ending) (stem : Bytes) : ¬Path.dot :: ending <:+ fileName stem := by
  intro hends
  rcases List.suffix_or_suffix_of_suffix (suffix_fileName stem) hends with hinside | hinside
  · rcases List.suffix_cons_iff.mp hinside with hsame | hinside
    · rw [suffix_eq_dot_cons, List.cons.injEq] at hsame
      exact hjson hsame.2.symm
    · exact hlonger hinside
  · rw [suffix_eq_dot_cons] at hinside
    rcases List.suffix_cons_iff.mp hinside with hsame | hinside
    · exact hjson (List.cons.inj hsame).2
    · -- There is no other dot in the extension of a parse tree.
      exact absurd (hinside.subset List.mem_cons_self) (by decide +kernel)

/-- The parse tree of a name with the extension of a parse tree has that name, if the extension is
not doubled. -/
theorem path_join_suffix (dir outDir : Path) {name : Bytes} (hslash : Path.slash ∉ name)
    (hname : name ≠ []) (hends : ¬suffix <:+ name) :
    path (Path.join dir (name ++ suffix)) outDir = Path.join outDir (name ++ suffix) := by
  have hstem : Path.nameStem (name ++ suffix) = name := by
    rw [suffix_eq_dot_cons, Path.nameStem_append name (by decide +kernel), if_neg hname]
  have hisName := isName_fileName hslash
  rw [fileName, if_neg hends] at hisName
  rw [path_join dir outDir hisName, hstem, fileName, if_neg hends]

/-- A parse tree is a name in the output directory. -/
theorem exists_path_eq (script outDir : Path) :
    ∃ stem, Path.slash ∉ stem ∧ path script outDir = Path.join outDir (fileName stem) := by
  refine ⟨_, ?_, rfl⟩
  rw [Path.fileStem]
  cases hname : Path.fileName script with
  | none => simp
  | some name =>
    have hslash := Path.slash_not_mem_of_fileName hname
    exact fun hmem => hslash ((Path.nameStem_prefix name).subset hmem)

/-- The file name of a parse tree. -/
theorem exists_fileName_path (script outDir : Path) :
    ∃ stem, Path.fileName (path script outDir) = some (fileName stem) := by
  obtain ⟨stem, hslash, hpath⟩ := exists_path_eq script outDir
  exact ⟨stem, by rw [hpath, Path.fileName_join_of_isName outDir (isName_fileName hslash)]⟩

end Artifact

namespace Collect

/-- Strictly sorted names are known by their members. -/
theorem eq_of_pairwise_lt {names others : List Name} (h : names.Pairwise (· < ·))
    (h' : others.Pairwise (· < ·)) (hmem : ∀ name, name ∈ names ↔ name ∈ others) :
    names = others := by
  have hperm : names.Perm others :=
    (List.perm_ext_iff_of_nodup (h.imp Std.ne_of_lt) (h'.imp Std.ne_of_lt)).mpr hmem
  exact List.Perm.eq_of_pairwise (fun a b _ _ hab hba => absurd hba (List.lt_asymm hab)) h h' hperm

/-- New files that have no script's name, in a directory without links, make no candidates. -/
theorem candidate_iff_of_filed {spots : Location → Prop} {fs after : FileSystem}
    (h : FileSystem.Filed spots fs after) {dir : Path} (hfree : fs.LinkFree dir)
    {extension : String}
    (hspots : ∀ name here,
      Path.dot :: Utf8.encode (bare extension) <:+ name → ¬spots (name :: here))
    (here : Location) (name : Name) :
    Candidate after dir here extension name ↔ Candidate fs dir here extension name := by
  have hregular : Path.isName name = true → Path.dot :: Utf8.encode (bare extension) <:+ name →
      ((∃ location node, after.locate (Path.join dir name) = .ok (location, node) ∧
          node.content.isRegular = true) ↔
        ∃ location node, fs.locate (Path.join dir name) = .ok (location, node) ∧
          node.content.isRegular = true) := by
    intro hname hends
    refine h.locate_regular_iff fun location hleads => ?_
    obtain ⟨parent, -, -, rfl⟩ := hfree.leadsTo_join hname hleads false
    exact hspots name parent hends
  constructor
  · rintro ⟨hname, hentry, hends, hfile⟩
    rw [h.isSome_node? (hspots name here hends)] at hentry
    exact ⟨hname, hentry, hends, (hregular hname hends).mp hfile⟩
  · rintro ⟨hname, hentry, hends, hfile⟩
    rw [← h.isSome_node? (hspots name here hends)] at hentry
    exact ⟨hname, hentry, hends, (hregular hname hends).mpr hfile⟩

/-- New files that have no script's name do not change what is collected from a directory without
links. -/
theorem scripts_eq_of_filed {spots : Location → Prop} {fs after : FileSystem}
    (h : FileSystem.Filed spots fs after) {dir : Path} (hfree : fs.LinkFree dir)
    {extension : String}
    (hspots : ∀ name here, Path.dot :: Utf8.encode (bare extension) <:+ name →
      ¬spots (name :: here)) :
    scripts after dir (suffix extension) = scripts fs dir (suffix extension) := by
  have hcollected := scripts_collected fs dir (suffix extension)
  generalize scripts fs dir (suffix extension) = result at hcollected ⊢
  cases hcollected with
  | missing hnone =>
    apply scripts_of_missing
    rw [← Bool.not_eq_true, FileSystem.isDirectory_iff]
    rintro ⟨here, node, hlocate, hnode⟩
    obtain ⟨found, hfound, hdirectory⟩ := h.locate_directory_before hlocate hnode
    exact hnone ⟨here, found, hfound, hdirectory⟩
  | unreadable hdir hnode hread =>
    obtain ⟨found, hfound, hdirectory, hmode⟩ := h.locate_directory hdir hnode
    exact scripts_of_unreadable hfound hdirectory ((h.allows_eq .read hmode).trans hread) _
  | @found here node hdir hnode hread =>
    obtain ⟨found, hfound, hdirectory, hmode⟩ := h.locate_directory hdir hnode
    rw [scripts_of_readable hfound hdirectory ((h.allows_eq .read hmode).trans hread)]
    have hnames : scriptNames after dir here (suffix extension) =
        scriptNames fs dir here (suffix extension) := by
      refine eq_of_pairwise_lt (scriptNames_pairwise ..) (scriptNames_pairwise ..) fun name => ?_
      rw [mem_scriptNames_iff, mem_scriptNames_iff, candidate_iff_of_filed h hfree hspots]
    rw [hnames]

end Collect

namespace Batch

/-- Whether each call makes or overwrites at most the parse tree of its script, as a regular
file. -/
def Tidy (parser : Parser) : FileSystem → List Attempt → Prop
  | _, [] => True
  | fs, call :: rest =>
    FileSystem.Filed (fs.LeadsTo (Artifact.path call.script call.outDir)) fs
        (parser.parse fs call.script call.outDir).2 ∧
      Tidy parser (parser.parse fs call.script call.outDir).2 rest

/-- Calls that make or overwrite parse trees do so where the parse trees led to at first. -/
theorem filed_effects {parser : Parser} {fs : FileSystem} {calls : List Attempt}
    (h : Tidy parser fs calls) :
    FileSystem.Filed (fun location =>
      ∃ call ∈ calls, fs.LeadsTo (Artifact.path call.script call.outDir) location) fs
      (effects parser fs calls) := by
  induction calls generalizing fs with
  | nil => exact .refl _ fs
  | cons call rest ih =>
    obtain ⟨hfirst, hrest⟩ := h
    rw [effects_cons]
    refine (hfirst.mono fun location hleads => ?_).trans ((ih hrest).mono fun location hlater => ?_)
    · exact ⟨call, List.mem_cons_self, hleads⟩
    · obtain ⟨later, hlater, hleads⟩ := hlater
      exact ⟨later, List.mem_cons_of_mem call hlater, (hfirst.leadsTo_iff _ _).mp hleads⟩

/-- A collected script is a candidate in the directory of the scripts. -/
theorem exists_candidate_of_collect {settings : Settings} {fs : FileSystem} {found : List Path}
    (h : collect settings fs = .ok found) {script : Path} (hscript : script ∈ found) :
    ∃ here name, Collect.Candidate fs settings.scriptsDir here settings.extension name ∧
      script = Path.join settings.scriptsDir name := by
  have hcollected := Collect.scripts_collected fs settings.scriptsDir
    (Collect.suffix settings.extension)
  rw [← collect, h] at hcollected
  cases hcollected with
  | @found here _ _ _ _ =>
    obtain ⟨name, hname, hjoin⟩ := List.mem_map.mp hscript
    exact ⟨here, name, (Collect.mem_scriptNames_iff ..).mp hname, hjoin.symm⟩

section Collect

variable {settings : Settings} (hdot : settings.extension.toList.head? ≠ some '.')
  (hjson : Utf8.encode settings.extension ≠ Utf8.encode "json")
  (hlonger : ¬Artifact.suffix <:+ Utf8.encode settings.extension)

include hdot hjson hlonger

/-- No parse tree is among the collected scripts. -/
theorem path_not_mem_of_collect {fs : FileSystem} {found : List Path}
    (h : collect settings fs = .ok found) (script outDir : Path) :
    Artifact.path script outDir ∉ found := by
  intro hmem
  obtain ⟨here, name, hcandidate, hjoin⟩ := exists_candidate_of_collect h hmem
  obtain ⟨stem, hfile⟩ := Artifact.exists_fileName_path script outDir
  rw [hjoin, Path.fileName_join_of_isName _ hcandidate.isName, Option.some.injEq] at hfile
  have hends := hcandidate.ends
  rw [Collect.bare_eq_of_head? hdot, hfile] at hends
  exact Artifact.not_ends_fileName hjson hlonger stem hends

/-- Calls that make or overwrite parse trees only, in directories without links, leave the same
scripts to be collected. -/
theorem collect_effects {parser : Parser} {fs : FileSystem} {calls : List Attempt}
    (hscripts : fs.LinkFree settings.scriptsDir) (hout : fs.LinkFree settings.outDir)
    (houtDir : ∀ call ∈ calls, call.outDir = settings.outDir) (htidy : Tidy parser fs calls) :
    collect settings (effects parser fs calls) = collect settings fs := by
  refine Collect.scripts_eq_of_filed (filed_effects htidy) hscripts ?_
  rintro name here hends ⟨call, hcall, hleads⟩
  obtain ⟨stem, hslash, hpath⟩ := Artifact.exists_path_eq call.script call.outDir
  rw [hpath, houtDir call hcall] at hleads
  obtain ⟨parent, -, -, hlocation⟩ :=
    hout.leadsTo_join (Artifact.isName_fileName hslash) hleads false
  rw [Collect.bare_eq_of_head? hdot, (List.cons.inj hlocation).1] at hends
  exact Artifact.not_ends_fileName hjson hlonger stem hends

end Collect

/-- Parse trees are no scripts unless the extension is `json` or ends with `.json`, so the batch
that makes them does not change what is collected. -/
theorem artifacts_are_no_scripts (settings : Settings)
    (hdot : settings.extension.toList.head? ≠ some '.') :
    (settings.extension ≠ "json" → ¬Artifact.suffix <:+ Utf8.encode settings.extension →
      (∀ script outDir, ∃ tree, Path.fileName (Artifact.path script outDir) = some tree ∧
        ¬Path.dot :: Utf8.encode settings.extension <:+ tree) ∧
      (∀ script outDir fs found, collect settings fs = .ok found →
        Artifact.path script outDir ∉ found) ∧
      ∀ parser world scripts, world.fs.LinkFree settings.scriptsDir →
        world.fs.LinkFree settings.outDir →
        Tidy parser world.fs (run settings parser world scripts).attempts →
        collect settings (run settings parser world scripts).world.fs =
          collect settings world.fs) ∧
    (settings.extension = "json" →
      (∀ fs found, collect settings fs = .ok found → ∀ script ∈ found, ∃ name,
        Path.slash ∉ name ∧ script = Path.join settings.scriptsDir (name ++ Artifact.suffix)) ∧
      (settings.outDir = settings.scriptsDir →
        ∀ name, Path.slash ∉ name → name ≠ [] → ¬Artifact.suffix <:+ name →
          Artifact.path (Path.join settings.scriptsDir (name ++ Artifact.suffix))
            settings.outDir = Path.join settings.scriptsDir (name ++ Artifact.suffix))) := by
  refine ⟨fun hne hlonger => ?_, fun hjson => ⟨fun fs found hfound script hscript => ?_,
    fun hout name hslash hname hends => ?_⟩⟩
  · have hjson : Utf8.encode settings.extension ≠ Utf8.encode "json" := mt Utf8.encode_inj.mp hne
    refine ⟨fun script outDir => ?_, fun script outDir fs found hfound => ?_,
      fun parser world scripts hscripts hout htidy => ?_⟩
    · obtain ⟨stem, hfile⟩ := Artifact.exists_fileName_path script outDir
      exact ⟨_, hfile, Artifact.not_ends_fileName hjson hlonger stem⟩
    · exact path_not_mem_of_collect hdot hjson hlonger hfound script outDir
    · rw [(run_traced settings parser world scripts).left]
      refine collect_effects hdot hjson hlonger hscripts hout (fun call hcall => ?_) htidy
      exact (exists_parse_of_mem_attempts hcall).1
  · obtain ⟨here, name, hcandidate, hjoin⟩ := exists_candidate_of_collect hfound hscript
    have hends := hcandidate.ends
    rw [Collect.bare_eq_of_head? hdot, hjson, ← Artifact.suffix_eq_dot_cons] at hends
    obtain ⟨before, rfl⟩ := hends
    have hslash := ((Path.isName_iff _).mp hcandidate.isName).2.1
    exact ⟨before, fun hmem => hslash (List.mem_append_left _ hmem), hjoin⟩
  · rw [hout, Artifact.path_join_suffix settings.scriptsDir _ hslash hname hends]

/-- A parser that writes an empty parse tree. -/
def plainParser : Parser where
  parse fs script outDir :=
    (.ok ⟨"p", some 0, [], []⟩,
      ((fs.writeFile (Artifact.path script outDir) []).toOption).getD fs)

/-- It makes or overwrites nothing but parse trees. -/
theorem tidy_plainParser (fs : FileSystem) (calls : List Attempt) : Tidy plainParser fs calls := by
  induction calls generalizing fs with
  | nil => exact trivial
  | cons call rest ih =>
    refine ⟨?_, ih _⟩
    simp only [plainParser]
    cases hwrite : fs.writeFile (Artifact.path call.script call.outDir) [] with
    | error reason => exact .refl _ fs
    | ok after => exact FileSystem.filed_of_writeFile hwrite

/-- After two scripts were parsed beside each other, both are collected again and neither is a parse
tree. -/
theorem artifacts_are_no_scripts_beside :
    let settings : Settings := { scriptsDir := Path.ofText "." }
    let scripts := [Path.ofText "./a.boink", Path.ofText "./b.boink"]
    let done := run settings plainParser ⟨twoScripts, {}⟩ scripts
    done.attempts.map Attempt.script = scripts ∧ collect settings done.world.fs = .ok scripts ∧
      Artifact.path (Path.ofText "./a.boink") settings.outDir ∉ scripts := by
  intro settings scripts done
  have hlinks : ∀ dir, twoScripts.LinkFree dir := by
    intro dir here node _ name child hchild target
    have hmem := (FileSystem.node?_eq_some_iff ..).mp hchild
    simp only [twoScripts, List.mem_cons, List.not_mem_nil, Prod.mk.injEq, or_false] at hmem
    rcases hmem with ⟨-, rfl⟩ | ⟨-, rfl⟩ | ⟨-, rfl⟩ <;> exact Content.noConfusion
  have hcollect : collect settings twoScripts = .ok scripts := by cbv
  obtain ⟨hother, -⟩ := artifacts_are_no_scripts settings (by decide +kernel)
  obtain ⟨-, hnone, hsame⟩ := hother (by decide +kernel) (by decide +kernel)
  refine ⟨?_, ?_, hnone _ _ _ _ hcollect⟩
  · rfl
  · exact (hsame plainParser ⟨twoScripts, {}⟩ scripts (hlinks _) (hlinks _)
      (tidy_plainParser _ _)).trans hcollect

end Batch

end Fixtures
