import Fixtures.Artifact
import Fixtures.Settings
import Fixtures.Proofs.Computation
import Fixtures.Proofs.Path
import Fixtures.Proofs.Text.Utf8

/-!
# Names of parse trees

The name of a parse tree is the stem of its script with the extension of a parse tree, which is not
written twice. Two scripts with one ending have different stems, except for a hidden file and its
doubled name, so they share a parse tree only there or if one stem is the other with the extension.

Precisely, for an extension that does not start with a dot: either the stem of one is the stem of
the other with `.json` behind it, where the shorter one does not end with `.json` itself, or the
extension has no dot and the names are a dot with the extension and that name doubled.
-/

namespace Fixtures

namespace Path

/-- Without a dot, no byte from the end stops the search for one. -/
theorem bne_dot_of_mem_reverse {bytes : Bytes} (h : dot ∉ bytes) :
    ∀ byte ∈ bytes.reverse, (byte != dot) = true := by
  intro byte hbyte
  exact bne_iff_ne.mpr fun heq => h (heq ▸ List.mem_reverse.mp hbyte)

/-- The stem is what stands before the last dot, or all if nothing does. -/
theorem nameStem_append (before : Bytes) {tail : Bytes} (h : dot ∉ tail) :
    nameStem (before ++ dot :: tail) = if before = [] then dot :: tail else before := by
  have hcut : (before ++ dot :: tail).reverse.dropWhile (· != dot) = dot :: before.reverse := by
    rw [List.reverse_append, List.reverse_cons, List.append_assoc,
      List.dropWhile_append_of_pos (bne_dot_of_mem_reverse h)]
    simp
  rw [nameStem, hcut]
  simp only [List.reverse_eq_nil_iff, List.reverse_reverse]
  split
  · next hempty => rw [hempty, List.nil_append]
  · rfl

/-- A stem is the beginning of its name. -/
theorem nameStem_prefix (name : Bytes) : nameStem name <+: name := by
  by_cases h : dot ∈ name
  · obtain ⟨before, tail, rfl, htail⟩ := Text.exists_append_last h
    rw [nameStem_append before htail]
    split
    · next hempty => exact ⟨[], by rw [hempty, List.nil_append, List.append_nil]⟩
    · exact List.prefix_append _ _
  · have hnone : (name.reverse ++ []).dropWhile (· != dot) = [] :=
      List.dropWhile_append_of_pos (bne_dot_of_mem_reverse h)
    rw [List.append_nil] at hnone
    have hall : nameStem name = name := by rw [nameStem, hnone]
    exact ⟨[], by rw [hall, List.append_nil]⟩

/-- There is no slash in a file name. -/
theorem slash_not_mem_of_fileName {path : Path} {name : Bytes} (h : fileName path = some name) :
    slash ∉ name := by
  rw [fileName, Option.filter_eq_some_iff] at h
  have hpiece := (List.mem_filter.mp (List.mem_of_getLast? h.1)).1
  intro hslash
  have hcut := Text.not_isCut_of_mem_pieces hpiece hslash
  simp at hcut

section Ending

variable {ending : Bytes} (hsome : ending ≠ []) (hhead : ending.head? ≠ some dot)

include hsome hhead

/-- What ends with a dot and an extension is a name. -/
theorem isName_of_ends {name : Bytes} (hslash : slash ∉ name) (hends : dot :: ending <:+ name) :
    isName name = true := by
  obtain ⟨first, rest, rfl⟩ := List.exists_cons_of_ne_nil hsome
  have hlength := hends.length_le
  refine (isName_iff name).mpr ⟨?_, hslash, ?_, ?_⟩
  · rintro rfl
    simp at hlength
  · rintro rfl
    simp at hlength
  · rintro rfl
    -- Only two dots are that short, and the extension does not start with one.
    have hwhole := hends.eq_of_length_le (by simp)
    simp_all

/-- Two names with one extension have the same stem only if they are a hidden file and its doubled
name, and there is no dot in the extension. -/
theorem nameStem_eq_iff_of_ends {name other : Bytes} (hends : dot :: ending <:+ name)
    (hends' : dot :: ending <:+ other) (hne : name ≠ other) :
    nameStem name = nameStem other ↔ dot ∉ ending ∧
      (name = dot :: ending ∧ other = dot :: ending ++ dot :: ending ∨
        other = dot :: ending ∧ name = dot :: ending ++ dot :: ending) := by
  obtain ⟨x, rfl⟩ := hends
  obtain ⟨y, rfl⟩ := hends'
  have hxy : x ≠ y := fun heq => hne (by rw [heq])
  by_cases hdot : dot ∈ ending
  · obtain ⟨front, tail, rfl, htail⟩ := Text.exists_append_last hdot
    have hfront : ∀ z : Bytes,
        nameStem (z ++ dot :: (front ++ dot :: tail)) = z ++ dot :: front := by
      intro z
      have hcut := nameStem_append (z ++ dot :: front) htail
      rw [if_neg (by simp), List.append_assoc, List.cons_append] at hcut
      exact hcut
    simp [hfront, hxy]
  · simp only [nameStem_append _ hdot, hdot, not_false_eq_true, true_and,
      List.append_left_eq_self, List.append_cancel_right_eq]
    by_cases hx : x = []
    · subst hx
      have hy : y ≠ [] := hxy.symm
      simp [hy, eq_comm]
    · by_cases hy : y = []
      · subst hy
        simp [hx]
      · simp [hx, hy, hxy]

end Ending

end Path

namespace Artifact

/-- A stem that is another one with the extension of a parse tree, which the shorter one does not
have itself. -/
def Extends (stem other : Bytes) : Prop := stem = other ++ suffix ∧ ¬suffix <:+ other

/-- The extension of a parse tree is a dot and a word without one. -/
theorem suffix_eq_dot_cons : suffix = Path.dot :: Utf8.encode "json" := by decide +kernel

/-- The name of a parse tree ends with its extension. -/
theorem suffix_fileName (stem : Bytes) : suffix <:+ fileName stem := by
  rw [fileName]
  split
  · assumption
  · exact List.suffix_append _ _

/-- Two stems give one name exactly if they are the same or differ by the extension. -/
theorem fileName_eq_iff (stem other : Bytes) :
    fileName stem = fileName other ↔ stem = other ∨ Extends stem other ∨ Extends other stem := by
  rw [fileName, fileName, Extends, Extends]
  by_cases hstem : suffix <:+ stem
  · by_cases hother : suffix <:+ other
    · simp [hstem, hother]
    · have hne : stem ≠ other := fun heq => hother (heq ▸ hstem)
      simp [hstem, hother, hne]
  · by_cases hother : suffix <:+ other
    · have hne : stem ≠ other := fun heq => hstem (heq ▸ hother)
      simp [hstem, hother, hne, eq_comm]
    · have hnot : stem ≠ other ++ suffix := fun heq => hstem (heq ▸ List.suffix_append _ _)
      have hnot' : other ≠ stem ++ suffix := fun heq => hother (heq ▸ List.suffix_append _ _)
      simp [hstem, hother, hnot, hnot']

/-- The name of a parse tree can be written in a path. -/
theorem isName_fileName {stem : Bytes} (h : Path.slash ∉ stem) :
    Path.isName (fileName stem) = true := by
  have hends := suffix_fileName stem
  rw [suffix_eq_dot_cons] at hends
  refine Path.isName_of_ends (by decide +kernel) (by decide +kernel) ?_ hends
  rw [fileName]
  split
  · exact h
  · rw [List.mem_append, not_or]
    exact ⟨h, by decide +kernel⟩

/-- The parse tree of a script in a directory. -/
theorem path_join (dir outDir : Path) {name : Bytes} (h : Path.isName name = true) :
    path (Path.join dir name) outDir = Path.join outDir (fileName (Path.nameStem name)) := by
  rw [path, Path.fileStem, Path.fileName_join_of_isName dir h, Option.map_some, Option.getD_some]

/-- Two names give one parse tree in a directory exactly if their stems give one name. -/
theorem join_fileName_eq_iff (outDir : Path) {name other : Bytes} (hname : Path.slash ∉ name)
    (hother : Path.slash ∉ other) :
    Path.join outDir (fileName (Path.nameStem name)) =
        Path.join outDir (fileName (Path.nameStem other)) ↔
      fileName (Path.nameStem name) = fileName (Path.nameStem other) := by
  have hstem : ∀ {bytes : Bytes}, Path.slash ∉ bytes → Path.slash ∉ Path.nameStem bytes :=
    fun h hslash => h ((Path.nameStem_prefix _).subset hslash)
  exact ⟨Path.join_inj_of_isName (isName_fileName (hstem hname)) (isName_fileName (hstem hother)),
    congrArg _⟩

/-- Valid settings have an extension. -/
theorem encode_extension_ne_nil {settings : Settings} (h : settings.validate = .ok ()) :
    Utf8.encode settings.extension ≠ [] := by
  intro hnone
  have hempty : settings.extension = "" := Utf8.encode_inj.mp hnone
  rw [Settings.validate, hempty] at h
  cases h

/-- When two scripts with the extension of valid settings share a parse tree: their stems differ by
`.json`, or they are the hidden file and its doubled name. -/
theorem path_eq_path_iff (settings : Settings) (hvalid : settings.validate = .ok ())
    (hdot : settings.extension.toList.head? ≠ some '.') (dir dir' outDir : Path)
    (name other : Bytes) (hname : Path.slash ∉ name) (hother : Path.slash ∉ other)
    (hends : Path.dot :: Utf8.encode settings.extension <:+ name)
    (hends' : Path.dot :: Utf8.encode settings.extension <:+ other) (hne : name ≠ other) :
    let hidden := Path.dot :: Utf8.encode settings.extension
    path (Path.join dir name) outDir = path (Path.join dir' other) outDir ↔
      (Extends (Path.nameStem name) (Path.nameStem other) ∨
        Extends (Path.nameStem other) (Path.nameStem name)) ∨
      '.' ∉ settings.extension.toList ∧
        (name = hidden ∧ other = hidden ++ hidden ∨ other = hidden ∧ name = hidden ++ hidden) := by
  intro hidden
  have hsome := encode_extension_ne_nil hvalid
  have hlow : '.'.toNat < 0x80 := by decide
  have hhead : (Utf8.encode settings.extension).head? ≠ some Path.dot :=
    mt (Utf8.head?_encode_eq_some_iff hlow _).mp hdot
  have hmem : Path.dot ∈ Utf8.encode settings.extension ↔ '.' ∈ settings.extension.toList :=
    Utf8.mem_encode_iff hlow _
  rw [path_join dir outDir (Path.isName_of_ends hsome hhead hname hends),
    path_join dir' outDir (Path.isName_of_ends hsome hhead hother hends'),
    join_fileName_eq_iff outDir hname hother, fileName_eq_iff,
    Path.nameStem_eq_iff_of_ends hsome hhead hends hends' hne, hmem, or_comm]

/-- A script and the one with `.json` in its name share a parse tree, and so do a hidden script and
its doubled name. A script that is not hidden shares none with its doubled name. -/
theorem path_eq_path_iff_boink :
    let settings : Settings := {}
    let tree := fun name => path (Path.join settings.scriptsDir (Path.ofText name)) []
    settings.validate = .ok () ∧ tree "x.boink" = tree "x.json.boink" ∧
      tree ".boink" = tree ".boink.boink" ∧ tree "x.boink" ≠ tree "x.boink.boink" := by
  intro settings tree
  have hvalid : settings.validate = .ok () := eq_ok_of_toOption (by decide +kernel)
  have hiff := fun name other => path_eq_path_iff settings hvalid (by decide +kernel)
    settings.scriptsDir settings.scriptsDir [] (Path.ofText name) (Path.ofText other)
  refine ⟨hvalid, ?_, ?_, ?_⟩
  · refine (hiff _ _ (by decide +kernel) (by decide +kernel) (by decide +kernel) (by decide +kernel)
      (by decide +kernel)).mpr (.inl (.inr ⟨?_, ?_⟩)) <;> decide +kernel
  · exact (hiff _ _ (by decide +kernel) (by decide +kernel) (by decide +kernel) (by decide +kernel)
      (by decide +kernel)).mpr (.inr (by decide +kernel))
  · refine mt (hiff _ _ (by decide +kernel) (by decide +kernel) (by decide +kernel)
      (by decide +kernel) (by decide +kernel)).mp ?_
    rw [Extends, Extends]
    decide +kernel

end Artifact

end Fixtures
