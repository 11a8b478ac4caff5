import Fixtures.Proofs.Path

/-!
# The last component of a path

A path is a row of components with slashes between them. Slashes behind the last component, and dots
that stand alone there, change nothing. A path without components holds only such slashes and dots,
so every path either has a last component or is of that kind; and its file name is the last
component, unless that one goes up.
-/

namespace Fixtures.Path

/-- What can stand behind the last component of a path: slashes, some of them with one dot. -/
inductive Idle : Bytes → Prop
  /-- Nothing. -/
  | nil : Idle []
  /-- A slash. -/
  | bare {rest : Bytes} (h : Idle rest) : Idle (slash :: rest)
  /-- A slash and the directory itself. -/
  | self {rest : Bytes} (h : Idle rest) : Idle (slash :: dot :: rest)

/-- A path without components: it is empty or has only slashes and dots that stand alone. -/
def Nameless (path : Path) : Prop := Idle path ∨ ∃ rest, path = dot :: rest ∧ Idle rest

/-- A path and its last component, which is perhaps `..`. It stands at the start or behind a slash,
and nothing but slashes and dots follows it. -/
inductive EndsIn : Path → Bytes → Prop
  | intro {front component rest : Bytes} (hfront : front = [] ∨ ∃ outer, front = outer ++ [slash])
    (hsome : component ≠ []) (hslash : slash ∉ component) (hself : component ≠ [dot])
    (hrest : Idle rest) : EndsIn (front ++ component ++ rest) component

/-- The names before a slash come before the names after it. -/
theorem names_append_slash (before after : Path) :
    names (before ++ slash :: after) = names before ++ names after := by
  rw [names, Text.pieces_append_cons (· == slash) (beq_self_eq_true slash), List.filter_append]
  rfl

/-- Bytes without a slash are one name, or none if they are nothing or the directory itself. -/
theorem names_of_not_mem {bytes : Bytes} (h : slash ∉ bytes) :
    names bytes = if bytes ≠ [] ∧ bytes ≠ [dot] then [bytes] else [] := by
  have hpiece : Text.pieces (· == slash) bytes = [bytes] :=
    Text.pieces_of_not_isCut fun a ha => beq_false_of_ne fun heq => h (heq ▸ ha)
  rw [names, hpiece, List.filter_cons, List.filter_nil]
  simp only [decide_eq_true_eq]

/-- Slashes and dots at the end name nothing. -/
theorem Idle.names_append {rest : Bytes} (h : Idle rest) (path : Path) :
    names (path ++ rest) = names path := by
  induction h generalizing path with
  | nil => rw [List.append_nil]
  | bare _ ih =>
    have hnone := ih []
    rw [names_append_slash]
    rw [List.nil_append] at hnone
    rw [hnone]
    exact List.append_nil _
  | self _ ih =>
    have hnone := ih [dot]
    rw [names_append_slash]
    rw [List.singleton_append] at hnone
    rw [hnone]
    exact List.append_nil _

/-- More slashes and dots can follow. -/
theorem Idle.append {rest more : Bytes} (h : Idle rest) (hmore : Idle more) :
    Idle (rest ++ more) := by
  induction h with
  | nil => exact hmore
  | bare _ ih => exact .bare ih
  | self _ ih => exact .self ih

/-- A path without components has no names. -/
theorem Nameless.names_eq_nil {path : Path} (h : Nameless path) : names path = [] := by
  rcases h with hidle | ⟨rest, rfl, hidle⟩
  · exact hidle.names_append []
  · exact hidle.names_append [dot]

/-- A path without components has none if slashes and dots follow. -/
theorem Nameless.append {path rest : Path} (h : Nameless path) (hrest : Idle rest) :
    Nameless (path ++ rest) := by
  rcases h with hidle | ⟨tail, rfl, hidle⟩
  · exact .inl (hidle.append hrest)
  · exact .inr ⟨tail ++ rest, rfl, hidle.append hrest⟩

/-- The last component stays the last if slashes and dots follow. -/
theorem EndsIn.append {path rest : Path} {component : Bytes} (h : EndsIn path component)
    (hrest : Idle rest) : EndsIn (path ++ rest) component := by
  obtain ⟨hfront, hsome, hslash, hself, hidle⟩ := h
  rw [List.append_assoc]
  exact .intro hfront hsome hslash hself (hidle.append hrest)

/-- The last component is the last name. -/
theorem EndsIn.getLast?_names {path : Path} {component : Bytes} (h : EndsIn path component) :
    (names path).getLast? = some component := by
  obtain ⟨hfront, hsome, hslash, hself, hidle⟩ := h
  have hname : names component = [component] := by
    rw [names_of_not_mem hslash, if_pos ⟨hsome, hself⟩]
  rw [hidle.names_append]
  rcases hfront with rfl | ⟨outer, rfl⟩
  · rw [List.nil_append, hname]
    rfl
  · rw [List.append_assoc, List.singleton_append, names_append_slash, hname,
      List.getLast?_concat]

/-- Bytes behind a slash, or at the start, are the last component or stand idle. -/
theorem endsIn_or_idle {front bytes : Bytes}
    (hfront : front = [] ∨ ∃ outer, front = outer ++ [slash]) (hslash : slash ∉ bytes) :
    EndsIn (front ++ bytes) bytes ∨ bytes = [] ∨ bytes = [dot] := by
  by_cases hsome : bytes = []
  · exact .inr (.inl hsome)
  · by_cases hself : bytes = [dot]
    · exact .inr (.inr hself)
    · left
      have hends := EndsIn.intro hfront hsome hslash hself .nil
      rwa [List.append_nil] at hends

/-- Every path has a last component, or no component at all. -/
theorem nameless_or_endsIn (path : Path) : Nameless path ∨ ∃ component, EndsIn path component := by
  -- The induction is on the length, for what stands behind the last slash may be idle.
  induction hn : path.length using Nat.strongRecOn generalizing path with
  | _ n ih =>
    by_cases hmem : slash ∈ path
    · obtain ⟨before, tail, rfl, htail⟩ := Text.exists_append_last hmem
      have hshorter : before.length < n := by
        rw [List.length_append, List.length_cons] at hn
        omega
      have hidle : ∀ {rest : Bytes}, Idle rest → Nameless (before ++ rest) ∨
          ∃ component, EndsIn (before ++ rest) component := by
        intro rest hrest
        rcases ih before.length hshorter before rfl with hnone | ⟨component, hends⟩
        · exact .inl (hnone.append hrest)
        · exact .inr ⟨component, hends.append hrest⟩
      have hfront : before ++ [slash] = [] ∨ ∃ outer, before ++ [slash] = outer ++ [slash] :=
        .inr ⟨before, rfl⟩
      rcases endsIn_or_idle hfront htail with hends | rfl | rfl
      · rw [List.append_assoc, List.singleton_append] at hends
        exact .inr ⟨tail, hends⟩
      · exact hidle (.bare .nil)
      · exact hidle (.self .nil)
    · rcases endsIn_or_idle (.inl rfl) hmem with hends | rfl | rfl
      · exact .inr ⟨path, hends⟩
      · exact .inl (.inl .nil)
      · exact .inl (.inr ⟨[], rfl, .nil⟩)

/-- The file name is the last component, unless that one goes up. -/
theorem fileName_eq_some_iff {path : Path} {name : Bytes} :
    fileName path = some name ↔ EndsIn path name ∧ name ≠ [dot, dot] := by
  rw [fileName, Option.filter_eq_some_iff, decide_eq_true_iff]
  refine and_congr_left fun _ => ⟨fun hlast => ?_, EndsIn.getLast?_names⟩
  rcases nameless_or_endsIn path with hnone | ⟨component, hends⟩
  · rw [hnone.names_eq_nil] at hlast
    cases hlast
  · rw [hends.getLast?_names] at hlast
    cases hlast
    exact hends

/-- There is no file name exactly if there is no component or the last one goes up. -/
theorem fileName_eq_none_iff {path : Path} :
    fileName path = none ↔ Nameless path ∨ EndsIn path [dot, dot] := by
  constructor
  · intro h
    rcases nameless_or_endsIn path with hnone | ⟨component, hends⟩
    · exact .inl hnone
    · right
      by_cases hparent : component = [dot, dot]
      · exact hparent ▸ hends
      · rw [fileName_eq_some_iff.mpr ⟨hends, hparent⟩] at h
        cases h
  · rintro (hnone | hends)
    · rw [fileName, hnone.names_eq_nil]
      rfl
    · rw [fileName, hends.getLast?_names]
      rfl

/-- The last component is the same behind any directory. -/
theorem EndsIn.append_slash {path : Path} {component : Bytes} (h : EndsIn path component)
    (dir : Path) : EndsIn (dir ++ slash :: path) component := by
  cases h with
  | @intro front _ rest hfront hsome hslash hself hidle =>
    have hbehind : dir ++ slash :: front = [] ∨
        ∃ outer, dir ++ slash :: front = outer ++ [slash] := by
      rcases hfront with rfl | ⟨outer, rfl⟩
      · exact .inr ⟨dir, rfl⟩
      · exact .inr ⟨dir ++ slash :: outer, by simp⟩
    have hends := EndsIn.intro hbehind hsome hslash hself hidle
    simpa using hends

/-- The last component is the same from any directory. -/
theorem EndsIn.join {path : Path} {component : Bytes} (h : EndsIn path component) (dir : Path) :
    EndsIn (join dir path) component := by
  rw [Path.join]
  split
  · exact h
  · split
    · next hdir =>
      rcases hdir with rfl | hends
      · exact h
      · obtain ⟨front, rfl⟩ := eq_append_slash_of_endsWithSlash hends
        rw [List.append_assoc, List.singleton_append]
        exact h.append_slash front
    · exact h.append_slash dir

end Fixtures.Path
