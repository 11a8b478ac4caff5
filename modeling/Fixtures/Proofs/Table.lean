import Mathlib.Data.List.Forall2
import Fixtures.Table

/-!
# What a table shows

The text of a table has a block of lines for each row, one after another between border lines. Line
`i` of a block holds line `i` of each cell of its row, filled up with blanks where the cell is
narrower or has fewer lines. A cell starts in the same column of the screen in every row, so nothing
of any cell is lost or moved to another one.
-/

namespace Fixtures

namespace Text

/-- The lines of a text: no line has a line break, and joined at line breaks they are the text. -/
structure Lines (text : List Char) (lines : List (List Char)) : Prop where
  /-- Joining the lines gives the text. -/
  joined : ['\n'].intercalate lines = text
  /-- No line is broken. -/
  unbroken : ∀ line ∈ lines, '\n' ∉ line

theorem width_nil : width [] = 0 := rfl

theorem width_cons (c : Char) (line : List Char) : width (c :: line) = charWidth c + width line :=
  rfl

theorem width_append (line others : List Char) :
    width (line ++ others) = width line + width others := by
  induction line with
  | nil => rw [List.nil_append, width_nil, Nat.zero_add]
  | cons c rest ih => rw [List.cons_append, width_cons, width_cons, ih, Nat.add_assoc]

/-- A blank takes one column. -/
theorem width_blanks (n : Nat) : width (List.replicate n ' ') = n := by
  induction n with
  | zero => rfl
  | succ n ih =>
    have hblank : charWidth ' ' = 1 := by decide
    rw [List.replicate_succ, width_cons, ih, hblank, Nat.add_comm]

end Text

namespace Table

open Text

/-- The pieces of a cell between line breaks are its lines. -/
theorem cellLines_lines (cell : String) : Lines cell.toList (cellLines cell) where
  joined := intercalate_pieces '\n' cell.toList
  unbroken line hline hbreak := by
    have hcut := not_isCut_of_mem_pieces hline hbreak
    simp at hcut

/-- The columns of the screen before the cell at a position of a row. -/
def indent (columns : List Nat) (position : Nat) : Nat :=
  (columns.take position).foldr (fun n rest => n + 3 + rest) 1

/-- A block of lines shows a row in columns of given widths. Each cell has no more lines than the
block, and line `i` of the block has line `i` of the cell at the place of its column. -/
def ShowsRow (columns : List Nat) (row : List String) (block : List (List Char)) : Prop :=
  ∀ position cell, row[position]? = some cell → ∃ lines, Lines cell.toList lines ∧
    lines.length ≤ block.length ∧ ∀ i shown, block[i]? = some shown →
      ∃ before blanks after,
        shown = before ++ ' ' :: (lines.getD i [] ++ List.replicate blanks ' ') ++
          ' ' :: '|' :: after ∧
        width before = indent columns position ∧
        columns[position]? = some (width (lines.getD i []) + blanks)

/-- A text shows a table: its lines are the blocks of the rows, the header first, with a border line
before, between and after them, and an empty line at the end. -/
def Shows (header : List String) (rows : List (List String)) (text : String) : Prop :=
  ∃ columns edge blocks, List.Forall₂ (ShowsRow columns) (header :: rows) blocks ∧
    (∀ c ∈ edge, c = '+' ∨ c = '-') ∧
    Lines text.toList (edge :: blocks.flatMap (· ++ [edge]) ++ [[]])

/-- A row fits into columns of given widths: there is a column for each cell, wide enough for it. -/
def Fits (columns : List Nat) (row : List String) : Prop :=
  List.Forall₂ (fun n cell => cellWidth cell ≤ n) columns row

/-- The largest of some numbers is no smaller than any of them. -/
theorem le_foldl_max {n start : Nat} {numbers : List Nat} (h : n ≤ start ∨ n ∈ numbers) :
    n ≤ numbers.foldl max start := by
  induction numbers generalizing start with
  | nil => exact h.resolve_right List.not_mem_nil
  | cons m rest ih =>
    apply ih
    rcases h with hstart | hmem
    · exact .inl (Nat.le_trans hstart (Nat.le_max_left start m))
    · rcases List.mem_cons.mp hmem with rfl | hrest
      · exact .inl (Nat.le_max_right start n)
      · exact .inr hrest

/-- What a cell has for a line of its row is one of its own lines, or nothing. -/
theorem getD_cellLines (cell : String) (i : Nat) :
    (cellLines cell).getD i [] ∈ cellLines cell ∨ (cellLines cell).getD i [] = [] := by
  rw [List.getD_eq_getElem?_getD]
  cases hline : (cellLines cell)[i]? with
  | none => exact .inr rfl
  | some line => exact .inl (List.mem_of_getElem? hline)

/-- A cell is as wide as its widest line. -/
theorem width_getD_le_cellWidth (cell : String) (i : Nat) :
    width ((cellLines cell).getD i []) ≤ cellWidth cell := by
  rcases getD_cellLines cell i with hline | hnone
  · exact le_foldl_max (.inr (List.mem_map_of_mem hline))
  · rw [hnone]
    exact Nat.zero_le _

/-- A row still fits if columns are widened for another one. -/
theorem Fits.widened {columns : List Nat} {row : List String} (h : Fits columns row)
    {other : List String} (hlength : other.length = columns.length) :
    Fits (columns.zipWith max (other.map cellWidth)) row := by
  induction h generalizing other with
  | nil => exact .nil
  | cons hcell _ ih =>
    cases other with
    | nil => cases hlength
    | cons first rest =>
      exact .cons (Nat.le_trans hcell (Nat.le_max_left ..)) (ih (Nat.succ.inj hlength))

/-- A row fits into columns that are widened for it. -/
theorem fits_widened {columns : List Nat} {row : List String}
    (h : row.length = columns.length) : Fits (columns.zipWith max (row.map cellWidth)) row := by
  induction row generalizing columns with
  | nil =>
    rw [List.map_nil, List.zipWith_nil_right]
    exact .nil
  | cons cell rest ih =>
    cases columns with
    | nil => cases h
    | cons n columns => exact .cons (Nat.le_max_right ..) (ih (Nat.succ.inj h))

/-- All rows fit into columns that are widened for each of them. -/
theorem fits_foldl {columns : List Nat} {rows : List (List String)}
    (hlength : ∀ row ∈ rows, row.length = columns.length) {row : List String}
    (h : Fits columns row ∨ row ∈ rows) :
    Fits (rows.foldl (fun acc row => acc.zipWith max (row.map cellWidth)) columns) row := by
  induction rows generalizing columns with
  | nil => exact h.resolve_right List.not_mem_nil
  | cons first rest ih =>
    have hfirst : first.length = columns.length := hlength first List.mem_cons_self
    apply ih
    · intro other hother
      rw [List.length_zipWith, List.length_map, hfirst, Nat.min_self]
      exact hlength other (List.mem_cons_of_mem first hother)
    · rcases h with hfits | hmem
      · exact .inl (hfits.widened hfirst)
      · rcases List.mem_cons.mp hmem with rfl | hrest
        · exact .inl (fits_widened hfirst)
        · exact .inr hrest

/-- Every row of a table fits into its columns. -/
theorem fits_widths {header : List String} {rows : List (List String)}
    (hlength : ∀ row ∈ rows, row.length = header.length) {row : List String}
    (hrow : row ∈ header :: rows) : Fits (widths (header :: rows)) row := by
  refine fits_foldl (fun other hother => ?_) (.inr hrow)
  rw [List.headD_cons, List.length_map]
  rcases List.mem_cons.mp hother with rfl | hother
  · rfl
  · exact hlength other hother

/-- The characters of texts that are put one behind another. -/
theorem toList_foldl_append {α : Type} (text : α → String) (parts : List α) (start : String) :
    (parts.foldl (fun line part => line ++ text part) start).toList =
      start.toList ++ parts.flatMap fun part => (text part).toList := by
  induction parts generalizing start with
  | nil => rw [List.foldl_nil, List.flatMap_nil, List.append_nil]
  | cons part rest ih =>
    rw [List.foldl_cons, ih, String.toList_append, List.append_assoc, List.flatMap_cons]

/-- The characters of one line of a cell. -/
theorem toList_padded (columns : Nat) (line : List Char) :
    (padded columns line).toList =
      ' ' :: (line ++ List.replicate (columns - width line) ' ') ++ [' ', '|'] := by
  simp only [padded, String.toList_append, String.toList_ofList]
  rfl

/-- A line that fits into a column takes all of it, with two blanks and a bar. -/
theorem width_padded {columns : Nat} {line : List Char} (h : width line ≤ columns) :
    width (padded columns line).toList = columns + 3 := by
  have hends : charWidth ' ' = 1 ∧ width [' ', '|'] = 2 := by decide
  rw [toList_padded, width_append, width_cons, width_append, width_blanks, hends.1, hends.2]
  omega

/-- The characters of line `i` of a row. -/
def lineOf (columns : List Nat) (row : List String) (i : Nat) : List Char :=
  (columns.zip (row.map cellLines)).flatMap fun cell => (padded cell.1 (cell.2.getD i [])).toList

/-- Line `i` of a row is line `i` of its first cell and line `i` of the rest. -/
theorem lineOf_cons (n : Nat) (columns : List Nat) (cell : String) (row : List String) (i : Nat) :
    lineOf (n :: columns) (cell :: row) i =
      (padded n ((cellLines cell).getD i [])).toList ++ lineOf columns row i := by
  rw [lineOf, List.map_cons, List.zip_cons_cons, List.flatMap_cons, lineOf]

/-- The lines of a row, as characters. -/
theorem map_toList_rowLines (columns : List Nat) (row : List String) :
    (rowLines columns row).map String.toList =
      (List.range (((row.map cellLines).map List.length).foldl max 0)).map fun i =>
        '|' :: lineOf columns row i := by
  rw [rowLines, List.map_map]
  refine List.map_congr_left fun i _ => ?_
  rw [Function.comp_apply, toList_foldl_append]
  rfl

/-- Each cell of a row that fits stands in line `i` of it at the place of its column. -/
theorem Fits.lineOf_eq {columns : List Nat} {row : List String} (h : Fits columns row) (i : Nat)
    {position : Nat} {cell : String} (hcell : row[position]? = some cell) :
    ∃ n before after, columns[position]? = some n ∧ cellWidth cell ≤ n ∧
      lineOf columns row i = before ++ (padded n ((cellLines cell).getD i [])).toList ++ after ∧
      width before + 1 = indent columns position := by
  induction h generalizing position with
  | nil => cases hcell
  | @cons n first columns rest hfirst _ ih =>
    cases position with
    | zero =>
      cases hcell
      refine ⟨n, [], lineOf columns rest i, rfl, hfirst, ?_, rfl⟩
      rw [lineOf_cons, List.nil_append]
    | succ position =>
      obtain ⟨m, before, after, hcolumn, hfits, hline, hwidth⟩ := ih hcell
      refine ⟨m, (padded n ((cellLines first).getD i [])).toList ++ before, after, hcolumn, hfits,
        ?_, ?_⟩
      · rw [lineOf_cons, hline]
        simp only [List.append_assoc]
      · rw [width_append, width_padded (Nat.le_trans (width_getD_le_cellWidth first i) hfirst),
          Nat.add_assoc, hwidth]
        rfl

/-- The lines of a row that fits show it. -/
theorem Fits.showsRow {columns : List Nat} {row : List String} (h : Fits columns row) :
    ShowsRow columns row ((rowLines columns row).map String.toList) := by
  intro position cell hcell
  rw [map_toList_rowLines]
  refine ⟨cellLines cell, cellLines_lines cell, ?_, fun i shown hshown => ?_⟩
  · rw [List.length_map, List.length_range]
    apply le_foldl_max
    rw [List.map_map]
    exact .inr (List.mem_map_of_mem (List.mem_of_getElem? hcell))
  · rw [List.getElem?_map, Option.map_eq_some_iff] at hshown
    obtain ⟨j, hj, rfl⟩ := hshown
    obtain ⟨hi, rfl⟩ := List.getElem?_eq_some_iff.mp hj
    rw [List.getElem_range]
    obtain ⟨n, before, after, hcolumn, hfits, hline, hwidth⟩ := h.lineOf_eq i hcell
    refine ⟨'|' :: before, n - width ((cellLines cell).getD i []), after, ?_, ?_, ?_⟩
    · rw [hline, toList_padded]
      simp only [List.append_assoc, List.cons_append, List.nil_append]
    · rw [width_cons, ← hwidth, Nat.add_comm]
      rfl
    · rw [hcolumn, Nat.add_sub_of_le (Nat.le_trans (width_getD_le_cellWidth cell i) hfits)]

/-- The characters of a border line. -/
theorem toList_border (columns : List Nat) :
    (border columns).toList =
      '+' :: columns.flatMap fun n => List.replicate (n + 2) '-' ++ ['+'] := by
  have hparts := toList_foldl_append
    (fun n => String.ofList (List.replicate (n + 2) '-') ++ "+") columns "+"
  simp only [String.toList_append, String.toList_ofList, ← String.append_assoc] at hparts
  exact hparts

/-- A border line is made of two characters. -/
theorem mem_border {columns : List Nat} {c : Char} (h : c ∈ (border columns).toList) :
    c = '+' ∨ c = '-' := by
  rw [toList_border] at h
  simp only [List.mem_cons, List.mem_flatMap, List.mem_append, List.mem_replicate,
    List.not_mem_nil, or_false] at h
  rcases h with rfl | ⟨n, -, ⟨-, rfl⟩ | rfl⟩
  · exact .inl rfl
  · exact .inr rfl
  · exact .inl rfl

/-- A filled line is not broken if the line is not. -/
theorem not_mem_padded {columns : Nat} {line : List Char} (h : '\n' ∉ line) :
    '\n' ∉ (padded columns line).toList := by
  simp [toList_padded, h]

/-- No line of a row is broken. -/
theorem not_mem_lineOf (columns : List Nat) (row : List String) (i : Nat) :
    '\n' ∉ lineOf columns row i := by
  intro hbreak
  obtain ⟨⟨n, lines⟩, hmem, hbreak⟩ := List.mem_flatMap.mp hbreak
  obtain ⟨cell, -, rfl⟩ := List.mem_map.mp (List.of_mem_zip hmem).2
  refine not_mem_padded ?_ hbreak
  rcases getD_cellLines cell i with hline | hnone
  · exact (cellLines_lines cell).unbroken _ hline
  · rw [hnone]
    exact List.not_mem_nil

/-- The lines of a table are those of its rows between border lines. -/
theorem map_toList_lines (header : List String) (rows : List (List String)) :
    (⟨header, rows⟩ : Table).lines.map String.toList =
      (border (widths (header :: rows))).toList :: ((header :: rows).map fun row =>
        (rowLines (widths (header :: rows)) row).map String.toList).flatMap
          (· ++ [(border (widths (header :: rows))).toList]) := by
  rw [lines, List.map_cons, List.map_flatMap, List.flatMap_map]
  simp only [List.map_append, List.map_cons, List.map_nil]

/-- No line of a table is broken. -/
theorem not_mem_of_mem_lines {table : Table} {line : List Char}
    (h : line ∈ table.lines.map String.toList) : '\n' ∉ line := by
  have hedge : ∀ columns, '\n' ∉ (border columns).toList := by
    intro columns hbreak
    rcases mem_border hbreak with heq | heq <;> exact absurd heq (by decide)
  rw [map_toList_lines] at h
  rcases List.mem_cons.mp h with rfl | h
  · exact hedge _
  · obtain ⟨block, hblock, hline⟩ := List.mem_flatMap.mp h
    obtain ⟨row, -, rfl⟩ := List.mem_map.mp hblock
    rw [map_toList_rowLines] at hline
    rcases List.mem_append.mp hline with hline | hline
    · obtain ⟨i, -, rfl⟩ := List.mem_map.mp hline
      simp [not_mem_lineOf]
    · rw [List.mem_singleton.mp hline]
      exact hedge _

/-- The lines of the text of a table, up to the line break behind it. -/
theorem lines_render (table : Table) :
    Lines (table.render ++ "\n").toList (table.lines.map String.toList ++ [[]]) where
  joined := by
    have hlines : table.lines ≠ [] := List.cons_ne_nil _ _
    have htext : table.render ++ "\n" = "\n".intercalate (table.lines ++ [""]) := by
      rw [String.intercalate_append_of_ne_nil hlines (List.cons_ne_nil _ _),
        String.intercalate_singleton, String.append_empty]
      rfl
    rw [htext, String.toList_intercalate, List.map_append]
    rfl
  unbroken line hline := by
    rcases List.mem_append.mp hline with hline | hline
    · exact not_mem_of_mem_lines hline
    · rw [List.mem_singleton.mp hline]
      exact List.not_mem_nil

/-- The text of a table starts with the corner of its first border line. -/
theorem corner_prefix_render (table : Table) : ['+'] <+: table.render.toList := by
  rw [render, lines, String.toList_intercalate, List.map_cons, toList_border]
  generalize List.map String.toList _ = rest
  cases rest with
  | nil => exact List.prefix_append ['+'] _
  | cons line rest =>
    rw [List.intercalate_cons_cons, List.append_assoc]
    exact List.prefix_append ['+'] _

/-- A table whose rows have a cell for each title is shown by its text, up to the line break behind
it. -/
theorem shows_render {header : List String} {rows : List (List String)}
    (h : ∀ row ∈ rows, row.length = header.length) :
    Shows header rows ((⟨header, rows⟩ : Table).render ++ "\n") := by
  let columns := widths (header :: rows)
  refine ⟨columns, (border columns).toList,
    (header :: rows).map fun row => (rowLines columns row).map String.toList, ?_,
    fun c => mem_border, ?_⟩
  · rw [List.forall₂_map_right_iff, List.forall₂_same]
    exact fun row hrow => (fits_widths h hrow).showsRow
  · rw [← map_toList_lines]
    exact lines_render ⟨header, rows⟩

end Table

end Fixtures
