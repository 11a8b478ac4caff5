import Fixtures.Path

/-!
# Names at the end of a path

A name that is joined to a base is the file name of the joined path, whether or not the base ends
with a slash. So different names joined to one base are different paths.
-/

namespace Fixtures

namespace Text

variable {α : Type} {isCut : α → Bool}

/-- A list without separators is one piece. -/
theorem pieces_of_not_isCut {l : List α} (h : ∀ a ∈ l, isCut a = false) :
    pieces isCut l = [l] := by
  induction l with
  | nil => rfl
  | cons a rest ih =>
    have hrest := ih fun b hb => h b (List.mem_cons_of_mem a hb)
    simp [pieces, h a List.mem_cons_self, hrest]

/-- The pieces before a separator come before the pieces after it. -/
theorem pieces_append_cons (isCut : α → Bool) {cut : α} (h : isCut cut = true)
    (l rest : List α) :
    pieces isCut (l ++ cut :: rest) = pieces isCut l ++ pieces isCut rest := by
  induction l with
  | nil => simp [pieces, h]
  | cons a l ih =>
    rw [List.cons_append, pieces, pieces, ih]
    cases hcut : isCut a with
    | true => simp
    | false =>
      obtain ⟨piece, others, hpieces⟩ := List.exists_cons_of_ne_nil (pieces_ne_nil isCut l)
      simp [hpieces]

/-- A list cut at the last place where an element stands. -/
theorem exists_append_last {a : α} {l : List α} (h : a ∈ l) :
    ∃ before tail, l = before ++ a :: tail ∧ a ∉ tail := by
  obtain ⟨tail, before, hl, htail⟩ := List.eq_append_cons_of_mem (List.mem_reverse.mpr h)
  refine ⟨before.reverse, tail.reverse, ?_, by simpa using htail⟩
  rw [← List.reverse_reverse l, hl]
  simp

end Text

namespace Path

/-- A name is not empty, holds no slash, and is neither the directory itself nor its parent. -/
theorem isName_iff (name : Bytes) :
    isName name = true ↔ name ≠ [] ∧ slash ∉ name ∧ name ≠ [dot] ∧ name ≠ [dot, dot] := by
  simp [isName, and_assoc]

/-- Bytes without a slash are a relative path. -/
theorem isAbsolute_of_not_mem {name : Bytes} (h : slash ∉ name) : isAbsolute name = false := by
  cases name with
  | nil => rfl
  | cons first rest =>
    have hfirst : first ≠ slash := fun heq => h (heq ▸ List.mem_cons_self)
    simp [isAbsolute, hfirst]

/-- A path that ends with a slash, cut before it. -/
theorem eq_append_slash_of_endsWithSlash {path : Path} (h : endsWithSlash path = true) :
    ∃ front, path = front ++ [slash] :=
  List.getLast?_eq_some_iff.mp (eq_of_beq h)

/-- Joined to nothing, bytes without a slash stand alone; joined to anything else, they stand behind
the slash that ends it or a new one. -/
theorem join_cases (base : Path) {name : Bytes} (h : slash ∉ name) :
    base = [] ∧ join base name = name ∨
      ∃ front, (base = front ∨ base = front ++ [slash]) ∧ base ≠ [] ∧
        join base name = front ++ slash :: name := by
  have hrelative := isAbsolute_of_not_mem h
  by_cases hempty : base = []
  · left
    simp [join, hrelative, hempty]
  · right
    cases hends : endsWithSlash base with
    | true =>
      obtain ⟨front, rfl⟩ := eq_append_slash_of_endsWithSlash hends
      exact ⟨front, .inr rfl, hempty, by simp [join, hrelative, hends]⟩
    | false => exact ⟨base, .inl rfl, hempty, by simp [join, hrelative, hempty, hends]⟩

/-- A joined path starts where its base does. -/
theorem isAbsolute_join (base : Path) {name : Bytes} (h : slash ∉ name) :
    isAbsolute (join base name) = isAbsolute base := by
  rcases join_cases base h with ⟨rfl, hjoin⟩ | ⟨front, rfl | rfl, hsome, hjoin⟩
  · rw [hjoin, isAbsolute_of_not_mem h]
    rfl
  · obtain ⟨first, rest, rfl⟩ := List.exists_cons_of_ne_nil hsome
    rw [hjoin]
    rfl
  · rw [hjoin]
    cases front <;> rfl

/-- A joined path ends as the name does. -/
theorem endsWithSlash_join (base : Path) {name : Bytes} (hne : name ≠ []) (h : slash ∉ name) :
    endsWithSlash (join base name) = false := by
  have hlast : name.getLast? ≠ some slash := fun heq => h (List.mem_of_getLast? heq)
  rcases join_cases base h with ⟨-, hjoin⟩ | ⟨front, -, -, hjoin⟩
  · rw [hjoin, endsWithSlash, beq_eq_false_iff_ne]
    exact hlast
  · have hname := List.getLast?_eq_some_getLast hne
    rw [hname] at hlast
    simpa [hjoin, endsWithSlash, List.getLast?_cons, hname] using hlast

/-- A joined path has the bytes of its parts, slashes apart. -/
theorem mem_join_iff (base : Path) {name : Bytes} (h : slash ∉ name) {byte : UInt8}
    (hbyte : byte ≠ slash) : byte ∈ join base name ↔ byte ∈ base ∨ byte ∈ name := by
  rcases join_cases base h with ⟨rfl, hjoin⟩ | ⟨front, rfl | rfl, -, hjoin⟩ <;>
    simp [hjoin, hbyte]

/-- A joined path is longer the longer the name is. -/
theorem length_join_le (base : Path) {name other : Bytes} (h : slash ∉ name) (h' : slash ∉ other)
    (hle : other.length ≤ name.length) : (join base other).length ≤ (join base name).length := by
  rw [join, join, isAbsolute_of_not_mem h, isAbsolute_of_not_mem h']
  simp only [Bool.false_eq_true, ite_false]
  split <;> simp only [List.length_append, List.length_cons] <;> omega

/-- The last piece of a joined name is the name. -/
theorem pieces_join_of_isName (base : Path) {name : Bytes} (h : isName name = true) :
    ∃ before, Text.pieces (· == slash) (join base name) = before ++ [name] := by
  have hslash := ((isName_iff name).mp h).2.1
  have hpiece : Text.pieces (· == slash) name = [name] :=
    Text.pieces_of_not_isCut fun a ha => beq_false_of_ne fun heq => hslash (heq ▸ ha)
  rcases join_cases base hslash with ⟨-, hjoin⟩ | ⟨front, -, -, hjoin⟩
  · exact ⟨[], by rw [hjoin, hpiece, List.nil_append]⟩
  · refine ⟨Text.pieces (· == slash) front, ?_⟩
    rw [hjoin, Text.pieces_append_cons (· == slash) (beq_self_eq_true slash), hpiece]

/-- A joined name is the file name of the whole path. -/
theorem fileName_join_of_isName (base : Path) {name : Bytes} (h : isName name = true) :
    fileName (join base name) = some name := by
  obtain ⟨hempty, -, hself, hparent⟩ := (isName_iff name).mp h
  obtain ⟨before, hpieces⟩ := pieces_join_of_isName base h
  have hnames : ∃ outer, names (join base name) = outer ++ [name] :=
    ⟨_, by rw [names, hpieces, List.filter_append,
      List.filter_cons_of_pos (by simp [hempty, hself]), List.filter_nil]⟩
  obtain ⟨outer, houter⟩ := hnames
  simp [fileName, houter, hparent]

/-- Different names joined to one base are different paths. -/
theorem join_inj_of_isName {base : Path} {name other : Bytes} (hname : isName name = true)
    (hother : isName other = true) (h : join base name = join base other) : name = other := by
  have hfile := congrArg fileName h
  rw [fileName_join_of_isName base hname, fileName_join_of_isName base hother] at hfile
  exact Option.some.inj hfile

end Path

end Fixtures
