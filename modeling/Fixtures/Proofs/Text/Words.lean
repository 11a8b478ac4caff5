import Fixtures.Text.Blank
import Fixtures.Proofs.Path

/-!
# Words between white space

A list of words can be written in many ways, with more or less white space of any kind between the
words, and before and behind them. Cutting at white space undoes all of them: every text is written
for exactly one list of words, and that is the list it is cut into.
-/

namespace Fixtures.Text

section Pieces

variable {α : Type} {isCut : α → Bool}

/-- Words, and a list that they are written in. Each word is solid: it is not empty and holds no
separator. Separators may stand before the words and behind them, and a word that something follows
is followed by a separator. -/
inductive Spaced (isCut : α → Bool) : List (List α) → List α → Prop
  /-- No words, and perhaps separators. -/
  | gap {run : List α} (hrun : ∀ a ∈ run, isCut a = true) : Spaced isCut [] run
  /-- Separators, a word and what follows it. -/
  | word {run word rest : List α} {words : List (List α)} (hrun : ∀ a ∈ run, isCut a = true)
    (hsome : word ≠ []) (hsolid : ∀ a ∈ word, isCut a = false)
    (hcut : ∀ a ∈ rest.head?, isCut a = true) (hrest : Spaced isCut words rest) :
    Spaced isCut (word :: words) (run ++ word ++ rest)

/-- Separators in front make no words. -/
theorem solidPieces_append_of_isCut {run : List α} (h : ∀ a ∈ run, isCut a = true) (l : List α) :
    solidPieces isCut (run ++ l) = solidPieces isCut l := by
  induction run with
  | nil => rfl
  | cons a run ih =>
    obtain ⟨ha, hrun⟩ := List.forall_mem_cons.mp h
    rw [← ih hrun, List.cons_append, solidPieces, pieces, if_pos ha]
    rfl

/-- A word in front is the first piece, if a separator follows it. -/
theorem solidPieces_append_of_solid {word rest : List α} (hsome : word ≠ [])
    (hsolid : ∀ a ∈ word, isCut a = false) (hcut : ∀ a ∈ rest.head?, isCut a = true) :
    solidPieces isCut (word ++ rest) = word :: solidPieces isCut rest := by
  have hkept : (!word.isEmpty) = true := by simpa using hsome
  cases rest with
  | nil =>
    rw [List.append_nil, solidPieces, pieces_of_not_isCut hsolid, List.filter_cons, if_pos hkept]
    rfl
  | cons a rest =>
    have ha : isCut a = true := hcut a rfl
    have hrest : solidPieces isCut (a :: rest) = solidPieces isCut rest :=
      solidPieces_append_of_isCut (List.forall_mem_singleton.mpr ha) rest
    rw [hrest, solidPieces, pieces_append_cons isCut ha, pieces_of_not_isCut hsolid,
      List.singleton_append, List.filter_cons, if_pos hkept]
    rfl

/-- What is written for words is cut into them. -/
theorem Spaced.solidPieces_eq {words : List (List α)} {l : List α} (h : Spaced isCut words l) :
    solidPieces isCut l = words := by
  induction h with
  | @gap run hrun =>
    have hnone := solidPieces_append_of_isCut hrun []
    rw [List.append_nil] at hnone
    exact hnone
  | word hrun hsome hsolid hcut _ ih =>
    rw [List.append_assoc, solidPieces_append_of_isCut hrun,
      solidPieces_append_of_solid hsome hsolid hcut, ih]

/-- Words can be written without separators in front. -/
theorem Spaced.solid {word rest : List α} {words : List (List α)} (hsome : word ≠ [])
    (hsolid : ∀ a ∈ word, isCut a = false) (hcut : ∀ a ∈ rest.head?, isCut a = true)
    (hrest : Spaced isCut words rest) : Spaced isCut (word :: words) (word ++ rest) :=
  @Spaced.word α isCut [] word rest words (List.forall_mem_nil _) hsome hsolid hcut hrest

/-- A separator in front can belong to what is written for words. -/
theorem Spaced.cons {words : List (List α)} {l : List α} (h : Spaced isCut words l) {a : α}
    (ha : isCut a = true) : Spaced isCut words (a :: l) := by
  cases h with
  | gap hrun => exact .gap (List.forall_mem_cons.mpr ⟨ha, hrun⟩)
  | word hrun hsome hsolid hcut hrest =>
    exact .word (List.forall_mem_cons.mpr ⟨ha, hrun⟩) hsome hsolid hcut hrest

/-- An element in front that is no separator starts the first word or is a word of its own. -/
theorem Spaced.exists_cons {words : List (List α)} {l : List α} (h : Spaced isCut words l) {a : α}
    (ha : isCut a = false) : ∃ others, Spaced isCut others (a :: l) := by
  by_cases hcut : ∀ b ∈ l.head?, isCut b = true
  · exact ⟨[a] :: words,
      .solid (List.cons_ne_nil a []) (List.forall_mem_singleton.mpr ha) hcut h⟩
  · cases h with
    | gap hrun => exact absurd (fun b hb => hrun b (List.mem_of_mem_head? hb)) hcut
    | @word run word rest words hrun hsome hsolid hbehind hrest =>
      cases run with
      | nil =>
        exact ⟨(a :: word) :: words, .solid (List.cons_ne_nil a word)
          (List.forall_mem_cons.mpr ⟨ha, hsolid⟩) hbehind hrest⟩
      | cons b run =>
        have hb : ∀ c ∈ (b :: run ++ word ++ rest).head?, isCut c = true := by
          rintro c hc
          cases hc
          exact hrun b List.mem_cons_self
        exact absurd hb hcut

/-- Everything is written for some words. -/
theorem exists_spaced (isCut : α → Bool) (l : List α) : ∃ words, Spaced isCut words l := by
  induction l with
  | nil => exact ⟨[], .gap (List.forall_mem_nil _)⟩
  | cons a l ih =>
    obtain ⟨words, h⟩ := ih
    cases ha : isCut a with
    | true => exact ⟨words, h.cons ha⟩
    | false => exact h.exists_cons ha

/-- A list is cut into words exactly if it is written for them. -/
theorem solidPieces_eq_iff {words : List (List α)} {l : List α} :
    solidPieces isCut l = words ↔ Spaced isCut words l := by
  refine ⟨?_, Spaced.solidPieces_eq⟩
  rintro rfl
  obtain ⟨words, h⟩ := exists_spaced isCut l
  rwa [h.solidPieces_eq]

end Pieces

/-- Whether a text is written for words: they are solid, and white space of any kind and amount
stands between them and perhaps before and behind them. -/
def Writes (text : String) (words : List String) : Prop :=
  Spaced isBlank (words.map String.toList) text.toList

/-- A text has the words that it is written for. -/
theorem words_eq_iff {text : String} {list : List String} :
    words text = list ↔ Writes text list := by
  rw [Writes, ← solidPieces_eq_iff, words]
  constructor
  · rintro rfl
    simp
  · intro h
    simp [h]

end Fixtures.Text
