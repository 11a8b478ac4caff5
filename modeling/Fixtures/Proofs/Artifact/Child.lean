import Fixtures.Proofs.Artifact
import Fixtures.Proofs.Path.Components

/-!
# Parse trees in their directory

A parse tree never leaves the output directory: its path is that directory, a slash where one is
missing, and a name. The name comes from the last component of the script alone, so it does not
depend on where the script is and how the way to it is spelt.

The name is made of the last component of the script; without one, or if the last component goes up,
it is `.json`. It ends with `.json.json` only if the stem of the script does. A slash or `/.` at the
end of the script, a doubled slash in it and a directory in front of it change nothing.
-/

namespace Fixtures

namespace Path

/-- The slash that is missing between a directory and a name. -/
def separator (dir : Path) : Bytes := if dir = [] ∨ endsWithSlash dir = true then [] else [slash]

/-- A name without a slash is joined with the slash that is missing. -/
theorem join_eq_append (dir : Path) {name : Bytes} (h : slash ∉ name) :
    join dir name = dir ++ separator dir ++ name := by
  rw [join, isAbsolute_of_not_mem h, if_neg Bool.false_ne_true, separator]
  split
  · rw [List.append_nil]
  · rw [List.append_assoc, List.singleton_append]

/-- There is no slash in a stem. -/
theorem slash_not_mem_of_fileStem {path : Path} {stem : Bytes} (h : fileStem path = some stem) :
    slash ∉ stem := by
  obtain ⟨name, hname, rfl⟩ := Option.map_eq_some_iff.mp h
  have hbegins := nameStem_prefix name
  intro hslash
  exact slash_not_mem_of_fileName hname (hbegins.subset hslash)

end Path

namespace Artifact

/-- The name of a script's parse tree. -/
def name (script : Path) : Bytes := fileName ((Path.fileStem script).getD [])

/-- A parse tree stands in the output directory under its name. -/
theorem path_eq_join (script outDir : Path) : path script outDir = Path.join outDir (name script) :=
  rfl

/-- The name of a parse tree can be written in a path. -/
theorem isName_name (script : Path) : Path.isName (name script) = true := by
  apply isName_fileName
  cases hstem : Path.fileStem script with
  | none => exact List.not_mem_nil
  | some stem => exact Path.slash_not_mem_of_fileStem hstem

/-- The name comes from the file name, if there is one. -/
theorem name_of_fileName {script : Path} {last : Bytes} (h : Path.fileName script = some last) :
    name script = fileName (Path.nameStem last) := by
  rw [name, Path.fileStem, h, Option.map_some, Option.getD_some]

/-- Without a file name there is just the extension. -/
theorem name_of_fileName_none {script : Path} (h : Path.fileName script = none) :
    name script = suffix := by
  rw [name, Path.fileStem, h]
  decide +kernel

/-- Scripts with the same file name, or both without one, have parse trees of one name. -/
theorem name_congr {script other : Path} (h : Path.fileName script = Path.fileName other) :
    name script = name other := by
  rw [name, name, Path.fileStem, Path.fileStem, h]

/-- Scripts with the same names on their way have parse trees of one name. -/
theorem name_eq_of_names {script other : Path} (h : Path.names script = Path.names other) :
    name script = name other := by
  apply name_congr
  rw [Path.fileName, Path.fileName, h]

/-- The extension is doubled only if it was doubled in the stem. -/
theorem doubled_of_fileName {stem : Bytes} (h : suffix ++ suffix <:+ fileName stem) :
    suffix ++ suffix <:+ stem := by
  rw [fileName] at h
  split at h
  · exact h
  · next hplain =>
    obtain ⟨front, hfront⟩ := h
    rw [← List.append_assoc] at hfront
    exact absurd ⟨front, List.append_cancel_right hfront⟩ hplain

/-- A parse tree is a direct child of the output directory and named after the last component of its
script. -/
theorem path_is_child_named_after_script (script outDir : Path) :
    (∃ name : Bytes,
      path script outDir = outDir ++
        (if outDir = [] ∨ Path.endsWithSlash outDir = true then [] else [Path.slash]) ++ name ∧
      Path.slash ∉ name ∧ Utf8.encode ".json" <:+ name ∧
      name ≠ [] ∧ name ≠ [Path.dot] ∧ name ≠ [Path.dot, Path.dot] ∧
      (∀ last, Path.EndsIn script last → last ≠ [Path.dot, Path.dot] →
        name = fileName (Path.nameStem last)) ∧
      (Path.Nameless script ∨ Path.EndsIn script [Path.dot, Path.dot] →
        name = Utf8.encode ".json") ∧
      (Utf8.encode ".json.json" <:+ name → ∃ stem, Path.fileStem script = some stem ∧
        Utf8.encode ".json.json" <:+ stem)) ∧
    (Path.Nameless script ∨ ∃ last, Path.EndsIn script last) ∧
    path (script ++ [Path.slash]) outDir = path script outDir ∧
    path (script ++ [Path.slash, Path.dot]) outDir = path script outDir ∧
    (∀ before after, script = before ++ Path.slash :: after →
      path (before ++ Path.slash :: Path.slash :: after) outDir = path script outDir) ∧
    ∀ last, Path.EndsIn script last → last ≠ [Path.dot, Path.dot] → ∀ dir,
      path (Path.join dir script) outDir = path script outDir ∧
        path (dir ++ Path.slash :: script) outDir = path script outDir := by
  obtain ⟨hsome, hslash, hself, hparent⟩ := (Path.isName_iff _).mp (isName_name script)
  have hjson : Utf8.encode ".json.json" = suffix ++ suffix := by decide +kernel
  simp only [path_eq_join]
  refine ⟨⟨name script, Path.join_eq_append outDir hslash, hslash, suffix_fileName _, hsome, hself,
    hparent, ?_, ?_, ?_⟩, Path.nameless_or_endsIn script, ?_, ?_, ?_, ?_⟩
  · intro last hlast hup
    exact name_of_fileName (Path.fileName_eq_some_iff.mpr ⟨hlast, hup⟩)
  · intro hnone
    exact name_of_fileName_none (Path.fileName_eq_none_iff.mpr hnone)
  · intro hdoubled
    rw [hjson] at hdoubled ⊢
    have hstem := doubled_of_fileName hdoubled
    cases hscript : Path.fileStem script with
    | some stem =>
      rw [hscript] at hstem
      exact ⟨stem, rfl, hstem⟩
    | none =>
      -- The empty stem is too short to end with anything.
      rw [hscript] at hstem
      cases List.suffix_nil.mp hstem
  · rw [name_eq_of_names ((Path.Idle.bare .nil).names_append script)]
  · rw [name_eq_of_names ((Path.Idle.self .nil).names_append script)]
  · rintro before after rfl
    have hnames : Path.names (before ++ Path.slash :: Path.slash :: after) =
        Path.names (before ++ Path.slash :: after) := by
      have hempty : Path.names (Path.slash :: after) = Path.names after :=
        Path.names_append_slash [] after
      rw [Path.names_append_slash, Path.names_append_slash, hempty]
    rw [name_eq_of_names hnames]
  · intro last hlast hup dir
    have hsame : ∀ {other : Path}, Path.EndsIn other last → name other = name script := by
      intro other hother
      apply name_congr
      rw [Path.fileName_eq_some_iff.mpr ⟨hother, hup⟩, Path.fileName_eq_some_iff.mpr ⟨hlast, hup⟩]
    rw [hsame (hlast.join dir), hsame (hlast.append_slash dir)]
    exact ⟨rfl, rfl⟩

/-- The parse tree of `a/x.json.boink/./` in `out` is `out/x.json`, also from another directory, and
that of `a/..` is `out/.json`. -/
theorem path_is_child_named_after_script_dotted :
    let outDir := Path.ofText "out"
    path (Path.ofText "a/x.json.boink/./") outDir = Path.ofText "out/x.json" ∧
      path (Path.ofText "b//a/x.json.boink/./") outDir = Path.ofText "out/x.json" ∧
      path (Path.ofText "a/..") outDir = Path.ofText "out/.json" := by
  intro outDir
  have hlast : Path.EndsIn (Path.ofText "a/x.json.boink/./") (Path.ofText "x.json.boink") :=
    @Path.EndsIn.intro (Path.ofText "a/") (Path.ofText "x.json.boink") _
      (.inr ⟨Path.ofText "a", rfl⟩) (by decide) (by decide) (by decide) (.self (.bare .nil))
  have hup : Path.EndsIn (Path.ofText "a/..") [Path.dot, Path.dot] :=
    @Path.EndsIn.intro (Path.ofText "a/") [Path.dot, Path.dot] _
      (.inr ⟨Path.ofText "a", rfl⟩) (by decide) (by decide) (by decide) .nil
  obtain ⟨⟨name, hpath, -, -, -, -, -, hname, -, -⟩, -, -, -, -, hdir⟩ :=
    path_is_child_named_after_script (Path.ofText "a/x.json.boink/./") outDir
  obtain ⟨⟨other, hother, -, -, -, -, -, -, hnone, -⟩, -⟩ :=
    path_is_child_named_after_script (Path.ofText "a/..") outDir
  have hfirst : path (Path.ofText "a/x.json.boink/./") outDir = Path.ofText "out/x.json" := by
    rw [hpath, hname _ hlast (by decide)]
    decide +kernel
  refine ⟨hfirst, ?_, ?_⟩
  · exact ((hdir _ hlast (by decide) (Path.ofText "b/")).2).trans hfirst
  · rw [hother, hnone (.inr hup)]
    decide +kernel

end Artifact

end Fixtures
