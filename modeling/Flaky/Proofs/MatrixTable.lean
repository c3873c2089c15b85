-- SUMMARY: The Markdown text of a matrix is a table exactly if no name in it has a bar or a line feed.
import Flaky.Proofs.Decimal
import Flaky.Proofs.Lines
import Flaky.Proofs.Trim
import Flaky.Report.Markdown
import Mathlib.Data.List.Forall2

/-!
# Matrices as tables

A table has a line for its header, one for its rule and one for each row, and all lines
have as many cells, which are what the bars of a line separate. A line feed within a name
makes two lines of one and a bar two cells, and there is nothing that could make up for
one too many: so the text of a matrix is a table of its rows exactly if no name of them
has either.
-/

namespace Flaky

namespace Text

variable {sep : Char} {text : List Char} {lines lines' : List (List Char)}

/-! ## Counting separators -/

theorem length_splitAt (cs : List Char) : (splitAt sep cs).length = cs.count sep + 1 := by
  induction cs with
  | nil => rfl
  | cons c cs ih =>
    rw [splitAt]
    by_cases hc : c = sep
    · rw [if_pos hc, List.length_cons, ih, hc, List.count_cons_self]
    · rw [if_neg hc, List.count_cons_of_ne hc, ← ih]
      obtain ⟨part, parts, hparts⟩ := List.exists_cons_of_ne_nil (@splitAt_ne_nil sep cs)
      rw [hparts]
      rfl

/-- Lines with a separator at the end of each have no others exactly if there are as many of them. -/
theorem count_ended : lines.length ≤ (lines.flatMap (· ++ [sep])).count sep ∧
    ((lines.flatMap (· ++ [sep])).count sep = lines.length ↔ ∀ line ∈ lines, sep ∉ line) := by
  induction lines with
  | nil => simp
  | cons line lines ih =>
    obtain ⟨hle, hiff⟩ := ih
    have hcount : ((line :: lines).flatMap (· ++ [sep])).count sep =
        line.count sep + (lines.flatMap (· ++ [sep])).count sep + 1 := by
      simp
      omega
    rw [hcount, List.length_cons, List.forall_mem_cons, ← List.count_eq_zero, ← hiff]
    omega

/-- A text is made of so many lines in one way only. -/
theorem Lined.eq_of_length (h : Lined sep text lines [])
    (htext : text = lines'.flatMap (· ++ [sep])) (hlength : lines'.length = lines.length) :
    lines' = lines := by
  have hcount := congrArg List.length h.splitAt_eq
  rw [length_splitAt, htext, List.length_append, List.length_singleton, ← hlength] at hcount
  have hfree := count_ended.2.mp (Nat.succ.inj hcount)
  have h' : Lined sep text lines' [] := ⟨by rw [htext, List.append_nil], hfree, List.not_mem_nil⟩
  exact List.append_cancel_right (h'.splitAt_eq.symm.trans h.splitAt_eq)

end Text

namespace Markdown

/-! ## Rows -/

/-- The cells of a table row are what its bars separate, without the blanks around them. -/
def cellsOf (line : List Char) : List (List Char) :=
  ((Text.splitAt '|' line).drop 1).dropLast.map Text.trim

section

variable {cells : List String} {line : List Char}

theorem toList_row (hne : cells ≠ []) : (row cells).toList =
    '|' :: (cells.map fun cell => ' ' :: (cell.toList ++ [' '])).flatMap (· ++ ['|']) := by
  have hjoined : ∀ cell rest,
      ' ' :: ([' ', '|', ' '].intercalate ((cell :: rest).map String.toList) ++ [' ', '|']) =
        ((cell :: rest).map fun cell : String => ' ' :: (cell.toList ++ [' '])).flatMap
          (· ++ ['|']) := by
    intro cell rest
    induction rest generalizing cell with
    | nil => simp
    | cons next rest ih =>
      have hrest := ih next
      simp only [List.map_cons, List.flatMap_cons] at hrest ⊢
      rw [List.intercalate_cons_of_ne_nil (List.cons_ne_nil _ _), ← hrest]
      simp
  obtain ⟨cell, rest, rfl⟩ := List.exists_cons_of_ne_nil hne
  rw [row, String.toList_append, String.toList_append, String.toList_intercalate, ← hjoined]
  rfl

theorem length_cellsOf : (cellsOf line).length = line.count '|' - 1 := by
  rw [cellsOf, List.length_map, List.length_dropLast, List.length_drop, Text.length_splitAt]
  rfl

/-- A row has a cell for each text that it was made of exactly if none of them has a bar. -/
theorem length_cellsOf_row_iff (hne : cells ≠ []) :
    (cellsOf (row cells).toList).length = cells.length ↔ ∀ cell ∈ cells, '|' ∉ cell.toList := by
  have hcount := (@Text.count_ended '|' (cells.map fun cell => ' ' :: (cell.toList ++ [' ']))).2
  rw [List.length_map] at hcount
  rw [length_cellsOf, toList_row hne, List.count_cons_self, Nat.add_sub_cancel, hcount,
    List.forall_mem_map]
  simp

theorem cellsOf_row (hne : cells ≠ []) (free : ∀ cell ∈ cells, '|' ∉ cell.toList) :
    cellsOf (row cells).toList = cells.map fun cell => Text.trim cell.toList := by
  have lined : Text.Lined '|' _ (cells.map fun cell => ' ' :: (cell.toList ++ [' '])) [] :=
    ⟨rfl, by simpa using free, List.not_mem_nil⟩
  have hcut := lined.splitAt_eq
  rw [List.append_nil] at hcut
  rw [cellsOf, toList_row hne, Text.splitAt, if_pos rfl, hcut, List.drop_one, List.tail_cons,
    List.dropLast_concat, List.map_map]
  refine List.map_congr_left fun cell _ => ?_
  have hspace : Text.IsBlank [' '] := List.forall_mem_singleton.mpr rfl
  exact (Text.trim_blank_append hspace).trans (Text.trim_append_blank hspace)

theorem lineFeed_mem_row (hne : cells ≠ []) :
    '\n' ∈ (row cells).toList ↔ ∃ cell ∈ cells, '\n' ∈ cell.toList := by
  rw [toList_row hne]
  simp

end

/-! ## What cells can hold -/

/-- A text that can be written in a table. -/
def FitsCell (text : String) : Prop := '|' ∉ text.toList ∧ '\n' ∉ text.toList

instance : DecidablePred FitsCell := fun text =>
  inferInstanceAs (Decidable ('|' ∉ text.toList ∧ '\n' ∉ text.toList))

section

variable {text more : String} {cells : List String}

theorem FitsCell.append (h : FitsCell text) (h' : FitsCell more) : FitsCell (text ++ more) := by
  simpa [FitsCell, h.1, h.2] using h'

theorem fitsCell_toString (n : Nat) : FitsCell (toString n) := by
  have digits : ∀ c ∈ (toString n).toList, c.isDigit = true := by
    rw [Text.toList_toString]
    exact fun c hc => Nat.isDigit_of_mem_toDigits (by decide) (by decide) hc
  exact ⟨fun hmem => absurd (digits _ hmem) (by decide),
    fun hmem => absurd (digits _ hmem) (by decide)⟩

theorem fitsCell_code_iff : FitsCell (code text) ↔ FitsCell text := by
  simp [FitsCell, code]

theorem fitsCell_cell (cell : Cell) : FitsCell cell.text := by
  cases cell <;> decide

/-- A row of texts that can be written in a table is one line with a cell for each. -/
theorem row_fits (hne : cells ≠ []) (fits : ∀ cell ∈ cells, FitsCell cell) :
    (cellsOf (row cells).toList).length = cells.length ∧ '\n' ∉ (row cells).toList := by
  rw [cellsOf_row hne fun cell hcell => (fits cell hcell).1, List.length_map, lineFeed_mem_row hne]
  exact ⟨rfl, fun ⟨cell, hcell, hmem⟩ => (fits cell hcell).2 hmem⟩

end

/-! ## The text of a matrix -/

/-- A line has the cells of a row: the name of its test, and the text of each cell of the matrix. -/
structure ShowsRow (width : Nat) (line : List Char) (row : TestId × List Cell) : Prop where
  width : (cellsOf line).length = width + 1
  cells : cellsOf line = (code row.1.text).toList :: row.2.map (·.text.toList)

/-- A text is a table for a matrix: a line for the header, a line for the rule and a line for each
    row, all with so many cells beside that for the name of a test. -/
inductive Tabulates (width : Nat) (matrix : Matrix) (text : String) : Prop
  | mk {header rule : List Char} {body : List (List Char)}
    (lined : Text.Lined '\n' text.toList (header :: rule :: body) [])
    (headed : (cellsOf header).length = width + 1) (ruled : (cellsOf rule).length = width + 1)
    (rows : List.Forall₂ (ShowsRow width) body matrix.rows)

/-- The part of a report that is about its matrix. -/
def matrixText (matrix : Matrix) : String := String.join ((matrixLines matrix).map (· ++ "\n"))

section

variable {matrix : Matrix} {test : TestId} {cells : List Cell}

theorem toList_matrixText :
    (matrixText matrix).toList =
      ((matrixLines matrix).map String.toList).flatMap (· ++ ['\n']) := by
  rw [matrixText, String.toList_join, List.flatMap_map, List.flatMap_map]
  exact List.flatMap_congr fun line _ => String.toList_append

theorem matrixHeader_fits :
    (cellsOf (matrixHeader matrix).toList).length = matrix.columns.length + 1 ∧
      '\n' ∉ (matrixHeader matrix).toList := by
  have column : ∀ column : MatrixColumn,
      FitsCell ("seed " ++ toString column.index ++ " (" ++ code column.seed.text ++ ")") :=
    fun column => (((FitsCell.append (by decide) (fitsCell_toString _)).append (by decide)).append
      (fitsCell_code_iff.mpr (fitsCell_toString _))).append (by decide)
  have test : FitsCell "Test" := by decide
  have hrow := row_fits (List.cons_ne_nil _ _) (List.forall_mem_cons.mpr
    ⟨test, List.forall_mem_map.mpr fun c (_ : c ∈ matrix.columns) => column c⟩)
  rwa [List.length_cons, List.length_map] at hrow

theorem matrixRule_fits :
    (cellsOf (matrixRule matrix).toList).length = matrix.columns.length + 1 ∧
      '\n' ∉ (matrixRule matrix).toList := by
  have rule : FitsCell "---" := by decide
  have hrow := row_fits (List.cons_ne_nil _ _) (List.forall_mem_cons.mpr
    ⟨rule, List.forall_mem_map.mpr fun c (_ : c ∈ matrix.columns) => rule⟩)
  rwa [List.length_cons, List.length_map] at hrow

/-- The ticks of a name are not blank, so nothing of it is trimmed. -/
theorem trim_code (text : String) : Text.trim (code text).toList = (code text).toList := by
  have hcode : (code text).toList = '`' :: (text.toList ++ ['`']) := by simp [code]
  have htick : Text.isBlank '`' = false := by decide
  rw [hcode, Text.trim_eq, Text.trimStart, List.dropWhile_cons_of_neg (by simp [htick]),
    Text.trimEnd, ← List.cons_append, List.rdropWhile_concat_neg _ _ _ (by simp [htick])]

theorem trim_cell (cell : Cell) : Text.trim cell.text.toList = cell.text.toList := by
  cases cell <;> decide

/-- A row has its cells if the name of its test has no bar. -/
theorem showsRow_iff : ShowsRow cells.length (matrixRow test cells).toList (test, cells) ↔
    '|' ∉ test.text.toList := by
  have hne : code test.text :: cells.map Cell.text ≠ [] := List.cons_ne_nil _ _
  have hcode : '|' ∈ (code test.text).toList ↔ '|' ∈ test.text.toList := by simp [code]
  constructor
  · intro h
    have hfree := (length_cellsOf_row_iff hne).mp (h.width.trans (by simp))
    exact hcode.not.mp (hfree _ List.mem_cons_self)
  · intro hname
    have free : ∀ cell ∈ code test.text :: cells.map Cell.text, '|' ∉ cell.toList := by
      rw [List.forall_mem_cons, List.forall_mem_map, hcode]
      exact ⟨hname, fun cell _ => (fitsCell_cell cell).1⟩
    have hcells : cellsOf (matrixRow test cells).toList =
        (code test.text).toList :: cells.map (·.text.toList) := by
      rw [matrixRow, cellsOf_row hne free, List.map_cons, trim_code, List.map_map]
      exact congrArg _ (List.map_congr_left fun cell _ => trim_cell cell)
    exact ⟨by rw [hcells, List.length_cons, List.length_map], hcells⟩

theorem lineFeed_mem_matrixRow :
    '\n' ∈ (matrixRow test cells).toList ↔ '\n' ∈ test.text.toList := by
  have hcode : '\n' ∈ (code test.text).toList ↔ '\n' ∈ test.text.toList := by simp [code]
  rw [matrixRow, lineFeed_mem_row (List.cons_ne_nil _ _), List.exists_mem_cons_iff, hcode,
    or_iff_left]
  rintro ⟨text, htext, hmem⟩
  obtain ⟨cell, -, rfl⟩ := List.mem_map.mp htext
  exact (fitsCell_cell cell).2 hmem

/-- The text of a matrix is a table for it exactly if the names of its tests can be written in
    one. -/
theorem tabulates_iff (full : ∀ row ∈ matrix.rows, row.2.length = matrix.columns.length) :
    Tabulates matrix.columns.length matrix (matrixText matrix) ↔
      ∀ row ∈ matrix.rows, FitsCell row.1.text := by
  have hlines : (matrixLines matrix).map String.toList =
      (matrixHeader matrix).toList :: (matrixRule matrix).toList ::
        matrix.rows.map fun row => (matrixRow row.1 row.2).toList := by
    rw [matrixLines, List.map_cons, List.map_cons, List.map_map]
    rfl
  have htext := @toList_matrixText matrix
  rw [hlines] at htext
  constructor
  · rintro ⟨lined, -, -, rows⟩ row hrow
    -- a table has as many lines as the matrix, so these are the lines of the table
    have hsame := lined.eq_of_length htext (by simp [rows.length_eq])
    obtain rfl := (List.cons.inj (List.cons.inj hsame).2).2
    rw [List.forall₂_map_left_iff, List.forall₂_same] at rows
    have shows := rows row hrow
    rw [← full row hrow, showsRow_iff] at shows
    have hfree := lined.lines_free (matrixRow row.1 row.2).toList
      (List.mem_cons_of_mem _ (List.mem_cons_of_mem _ (List.mem_map_of_mem hrow)))
    exact ⟨shows, fun hmem => hfree (lineFeed_mem_matrixRow.mpr hmem)⟩
  · intro fits
    have hfree : ∀ line ∈ (matrixHeader matrix).toList :: (matrixRule matrix).toList ::
        matrix.rows.map fun row => (matrixRow row.1 row.2).toList, '\n' ∉ line := by
      simp only [List.forall_mem_cons, List.forall_mem_map, lineFeed_mem_matrixRow]
      exact ⟨matrixHeader_fits.2, matrixRule_fits.2, fun row hrow => (fits row hrow).2⟩
    refine ⟨⟨by rw [htext, List.append_nil], hfree, List.not_mem_nil⟩, matrixHeader_fits.1,
      matrixRule_fits.1, ?_⟩
    rw [List.forall₂_map_left_iff, List.forall₂_same]
    intro row hrow
    rw [← full row hrow, showsRow_iff]
    exact (fits row hrow).1

end

end Markdown

end Flaky
