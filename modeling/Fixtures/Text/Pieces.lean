/-!
# Cutting a list at separators

Paths, lines, filter directives and launcher words are all cut at separators. A list with `n`
separators has `n + 1` pieces, some of them perhaps empty; joining the pieces gives the list back.
-/

namespace Fixtures.Text

/-- The pieces between the elements that satisfy `isCut`, empty ones included. -/
def pieces {α : Type} (isCut : α → Bool) : List α → List (List α)
  | [] => [[]]
  | a :: rest =>
    if isCut a then
      [] :: pieces isCut rest
    else
      match pieces isCut rest with
      | [] => [[a]]
      | piece :: others => (a :: piece) :: others

/-- The pieces that are not empty. -/
def solidPieces {α : Type} (isCut : α → Bool) (l : List α) : List (List α) :=
  (pieces isCut l).filter fun piece => !piece.isEmpty

/-- There is always a first piece. -/
theorem pieces_ne_nil {α : Type} (isCut : α → Bool) (l : List α) : pieces isCut l ≠ [] := by
  induction l with
  | nil => simp [pieces]
  | cons a rest ih =>
    rw [pieces]
    split
    · simp
    · split <;> simp

/-- Joining the pieces at the separator gives the list back. -/
theorem intercalate_pieces {α : Type} [BEq α] [LawfulBEq α] (cut : α) (l : List α) :
    [cut].intercalate (pieces (· == cut) l) = l := by
  induction l with
  | nil => simp [pieces]
  | cons a rest ih =>
    rw [pieces]
    obtain ⟨piece, others, h⟩ := List.exists_cons_of_ne_nil (pieces_ne_nil (· == cut) rest)
    split
    · rename_i ha
      rw [h, List.intercalate_cons_cons, ← h, ih, eq_of_beq ha]
      rfl
    · rw [h] at ih ⊢
      cases others with
      | nil => simpa using ih
      | cons next others =>
        rw [List.intercalate_cons_cons] at ih ⊢
        simp only [List.cons_append, ih]

/-- No piece holds a separator. -/
theorem not_isCut_of_mem_pieces {α : Type} {isCut : α → Bool} {l piece : List α} {a : α}
    (hp : piece ∈ pieces isCut l) (ha : a ∈ piece) : isCut a = false := by
  induction l generalizing piece with
  | nil => simp_all [pieces]
  | cons b rest ih =>
    rw [pieces] at hp
    split at hp
    · rcases List.mem_cons.mp hp with rfl | hp
      · simp at ha
      · exact ih hp ha
    · rename_i hb
      split at hp
      · simp_all
      · rename_i first others h
        rw [h] at ih
        rcases List.mem_cons.mp hp with rfl | hp
        · rcases List.mem_cons.mp ha with rfl | ha
          · simpa using hb
          · exact ih List.mem_cons_self ha
        · exact ih (List.mem_cons_of_mem _ hp) ha

end Fixtures.Text
