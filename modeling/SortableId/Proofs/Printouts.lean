import SortableId.Program.Generate
import SortableId.Proofs.Directions
import SortableId.Proofs.Documents

/-!
# Printed rows

Rows are printed for readers that know nothing of identifiers: as a table, whose cells stand between
bars, or as a JSON list of records.  Either way the printed text shows the rows and nothing else,
because no cell holds a bar or a blank.
-/

namespace SortableId

/-! ## Tables -/

theorem intercalate_concat_nil (separator : Char) (pieces : List (List Char)) :
    [separator].intercalate (pieces ++ [[]]) = pieces.flatMap (· ++ [separator]) := by
  induction pieces with
  | nil => rfl
  | cons piece pieces ih =>
      have more : pieces ++ [[]] ≠ [] := List.append_ne_nil_of_right_ne_nil pieces (by simp)
      rw [List.flatMap_cons, List.cons_append, List.intercalate_cons_of_ne_nil more, ih]

theorem intercalate_append_separator {separator : Char} {pieces : List (List Char)}
    (notEmpty : pieces ≠ []) :
    [separator].intercalate pieces ++ [separator] = pieces.flatMap (· ++ [separator]) := by
  induction pieces with
  | nil => contradiction
  | cons piece pieces ih =>
      by_cases last : pieces = []
      · subst last
        simp
      · rw [List.intercalate_cons_of_ne_nil last, List.append_assoc, ih last, List.flatMap_cons]

/-- Pieces that are each ended by a separator are the parts between the separators, with nothing
behind the last one. -/
theorem splitOn_flatMap {separator : Char} {pieces : List (List Char)}
    (unbroken : ∀ piece ∈ pieces, separator ∉ piece) :
    (pieces.flatMap (· ++ [separator])).splitOn separator = pieces ++ [[]] := by
  rw [← intercalate_concat_nil, List.splitOn_intercalate separator _ (by simp)]
  intro piece member
  rcases List.mem_append.mp member with inside | last
  · exact unbroken piece inside
  · rw [List.mem_singleton.mp last]
    exact List.not_mem_nil

namespace Table

/-- The cells of a line: what stands between its bars, without the blanks around it. -/
def cellsOfLine (line : List Char) : List String :=
  (line.splitOn '|').tail.dropLast.map fun cell => String.ofList (Text.Blank.trim cell)

/-- The cells that a printed table shows, line by line.  Lines without bars only separate. -/
def cellsOf (text : String) : List (List String) :=
  ((text.toList.splitOn '\n').filter fun line => line.head? == some '|').map cellsOfLine

/-- A cell that can be told from what surrounds it. -/
structure Plain (cell : String) : Prop where
  notEmpty : cell.toList ≠ []
  visible : ∀ c ∈ cell.toList, Text.Blank.isBlank c = false
  noBar : '|' ∉ cell.toList

/-- A table with plain cells, as many in every row as in the header. -/
structure Readable (table : Table) : Prop where
  header : ∀ cell ∈ table.header, Plain cell
  rows : ∀ row ∈ table.rows, row.length = table.header.length ∧ ∀ cell ∈ row, Plain cell

/-- A line of hyphens. -/
def rule (widths : List Nat) : List Char :=
  '+' :: widths.flatMap fun width => List.replicate (width + 2) '-' ++ ['+']

/-- A line of cells. -/
def line (widths : List Nat) (cells : List String) : List Char :=
  '|' :: (rowCells widths cells).flatMap (· ++ ['|'])

theorem length_widths_of_rows {table : Table}
    (same : ∀ row ∈ table.rows, row.length = table.header.length) :
    table.widths.length = table.header.length := by
  have kept (rows : List (List String)) (widths : List Nat)
      (same : ∀ row ∈ rows, row.length = widths.length) :
      (rows.foldl (fun widths row =>
        widths.zipWith (fun width cell => max width cell.length) row) widths).length =
          widths.length := by
    induction rows generalizing widths with
    | nil => rfl
    | cons row rows ih =>
        have zipped : (widths.zipWith (fun width cell => max width cell.length) row).length =
            widths.length := by
          rw [List.length_zipWith, same row List.mem_cons_self, Nat.min_self]
        rw [List.foldl_cons, ih, zipped]
        intro other member
        rw [zipped]
        exact same other (List.mem_cons_of_mem _ member)
  rw [widths, kept, List.length_map]
  intro row member
  rw [List.length_map]
  exact same row member

theorem length_widths {table : Table} (readable : table.Readable) :
    table.widths.length = table.header.length :=
  length_widths_of_rows fun row member => (readable.rows row member).1

theorem trim_cellChars {cell : String} (plain : Plain cell) (width : Nat) :
    Text.Blank.trim (cellChars width cell) = cell.toList := by
  have blank : Text.Blank.isBlank ' ' = true := rfl
  have shape : cellChars width cell = [' '] ++ cell.toList ++
      (List.replicate (width - cell.toList.length) ' ' ++ [' ']) := by
    simp [cellChars, List.rightpad]
  rw [shape]
  apply Text.Blank.trim_append plain.notEmpty
  · simp [blank]
  · intro c member
    rcases List.mem_append.mp member with filled | last
    · rw [List.eq_of_mem_replicate filled]
      exact blank
    · rw [List.mem_singleton.mp last]
      exact blank
  · exact plain.visible _ (List.head_mem plain.notEmpty)
  · exact plain.visible _ (List.getLast_mem plain.notEmpty)

theorem mem_cellChars {cell : String} {width : Nat} {c : Char}
    (member : c ∈ cellChars width cell) : c = ' ' ∨ c ∈ cell.toList := by
  simp only [cellChars, List.rightpad, List.mem_append, List.mem_cons, List.mem_replicate] at member
  tauto

theorem exists_cell_of_mem_rowCells {widths : List Nat} {cells : List String} {piece : List Char}
    (member : piece ∈ rowCells widths cells) :
    ∃ width, ∃ cell ∈ cells, piece = cellChars width cell := by
  induction cells generalizing widths with
  | nil => cases widths <;> contradiction
  | cons cell cells ih =>
      cases widths with
      | nil => contradiction
      | cons width widths =>
          rcases List.mem_cons.mp member with rfl | later
          · exact ⟨width, cell, List.mem_cons_self, rfl⟩
          · rcases ih later with ⟨width, cell, found, shape⟩
            exact ⟨width, cell, List.mem_cons_of_mem _ found, shape⟩

theorem map_trim_rowCells {widths : List Nat} {cells : List String}
    (same : widths.length = cells.length) (plain : ∀ cell ∈ cells, Plain cell) :
    (rowCells widths cells).map (fun cell => String.ofList (Text.Blank.trim cell)) = cells := by
  induction cells generalizing widths with
  | nil => cases widths <;> rfl
  | cons cell cells ih =>
      cases widths with
      | nil => contradiction
      | cons width widths =>
          have others := ih (Nat.succ.inj same) fun cell member =>
            plain cell (List.mem_cons_of_mem _ member)
          rw [rowCells] at others
          rw [rowCells, List.zipWith_cons_cons, List.map_cons, others,
            trim_cellChars (plain cell List.mem_cons_self), String.ofList_toList]

/-- The cells of a printed line are read back. -/
theorem cellsOfLine_line {widths : List Nat} {cells : List String}
    (same : widths.length = cells.length) (plain : ∀ cell ∈ cells, Plain cell) :
    cellsOfLine (line widths cells) = cells := by
  have unbroken : ∀ piece ∈ [] :: rowCells widths cells, '|' ∉ piece := by
    intro piece member
    rcases List.mem_cons.mp member with rfl | inRow
    · exact List.not_mem_nil
    · rcases exists_cell_of_mem_rowCells inRow with ⟨width, cell, found, rfl⟩
      intro bar
      rcases mem_cellChars bar with equal | inCell
      · contradiction
      · exact (plain cell found).noBar inCell
  have split : (line widths cells).splitOn '|' = [] :: rowCells widths cells ++ [[]] :=
    splitOn_flatMap unbroken
  rw [cellsOfLine, split, List.cons_append, List.tail_cons, List.dropLast_concat,
    map_trim_rowCells same plain]

theorem not_mem_rule (widths : List Nat) : '\n' ∉ rule widths := by
  simp [rule]

theorem not_mem_line {widths : List Nat} {cells : List String}
    (plain : ∀ cell ∈ cells, Plain cell) : '\n' ∉ line widths cells := by
  intro member
  rcases List.mem_cons.mp member with equal | inCells
  · contradiction
  · rcases List.mem_flatMap.mp inCells with ⟨piece, inRow, inPiece⟩
    rcases exists_cell_of_mem_rowCells inRow with ⟨width, cell, found, rfl⟩
    rcases List.mem_append.mp inPiece with inCell | bar
    · rcases mem_cellChars inCell with equal | visible
      · contradiction
      · have notBlank := (plain cell found).visible _ visible
        contradiction
    · contradiction

/-- The lines of a printed table. -/
def lines (table : Table) : List (List Char) :=
  rule table.widths ::
    (table.header :: table.rows).flatMap fun cells => [line table.widths cells, rule table.widths]

theorem toList_bordered_append (table : Table) :
    (table.bordered ++ "\n").toList = table.lines.flatMap (· ++ ['\n']) := by
  have joined : table.bordered.toList = ['\n'].intercalate table.lines := String.toList_ofList
  have notEmpty : table.lines ≠ [] := List.cons_ne_nil _ _
  rw [String.toList_append, joined, ← intercalate_append_separator notEmpty]
  rfl

theorem filter_lines (table : Table) :
    (table.lines ++ [[]]).filter (fun line => line.head? == some '|') =
      (table.header :: table.rows).map (line table.widths) := by
  have kept (cells : List String) :
      [line table.widths cells, rule table.widths].filter (fun line => line.head? == some '|') =
        [line table.widths cells] := rfl
  have ruled : (rule table.widths).head? = some '+' := rfl
  rw [lines, List.cons_append, List.filter_cons_of_neg (by simp [ruled]), List.filter_append,
    List.filter_flatMap]
  simp only [kept, ← List.map_eq_flatMap]
  exact List.append_nil _

/-- A printed table shows its header and its rows. -/
theorem cellsOf_bordered {table : Table} (readable : table.Readable) :
    cellsOf (table.bordered ++ "\n") = table.header :: table.rows := by
  have cells_plain : ∀ cells ∈ table.header :: table.rows,
      table.widths.length = cells.length ∧ ∀ cell ∈ cells, Plain cell := by
    intro cells member
    rw [length_widths readable]
    rcases List.mem_cons.mp member with rfl | inRows
    · exact ⟨rfl, readable.header⟩
    · exact ⟨(readable.rows cells inRows).1.symm, (readable.rows cells inRows).2⟩
  have unbroken : ∀ piece ∈ table.lines, '\n' ∉ piece := by
    intro piece member
    rcases List.mem_cons.mp member with rfl | later
    · exact not_mem_rule _
    · rcases List.mem_flatMap.mp later with ⟨cells, inTable, inPair⟩
      rcases List.mem_cons.mp inPair with rfl | second
      · exact not_mem_line (cells_plain cells inTable).2
      · rw [List.mem_singleton.mp second]
        exact not_mem_rule _
  rw [cellsOf, toList_bordered_append, splitOn_flatMap unbroken, filter_lines, List.map_map]
  have read : ∀ cells ∈ table.header :: table.rows,
      (cellsOfLine ∘ line table.widths) cells = cells := by
    intro cells member
    exact cellsOfLine_line (cells_plain cells member).1 (cells_plain cells member).2
  rw [List.map_congr_left read, List.map_id']

/-! ## Plain cells -/

theorem Plain.append {left right : String} (plainLeft : Plain left) (plainRight : Plain right) :
    Plain (left ++ right) where
  notEmpty := by
    rw [String.toList_append]
    exact List.append_ne_nil_of_left_ne_nil plainLeft.notEmpty _
  visible := by
    intro c member
    rw [String.toList_append] at member
    rcases List.mem_append.mp member with inLeft | inRight
    · exact plainLeft.visible c inLeft
    · exact plainRight.visible c inRight
  noBar := by
    rw [String.toList_append, List.mem_append]
    rintro (inLeft | inRight)
    · exact plainLeft.noBar inLeft
    · exact plainRight.noBar inRight

theorem plain_of_alphanum {cell : String} (notEmpty : cell.toList ≠ [])
    (alphanum : ∀ c ∈ cell.toList, c.isAlphanum = true) : Plain cell where
  notEmpty := notEmpty
  visible c member := Text.isBlank_of_isAlphanum (alphanum c member)
  noBar member := absurd (alphanum '|' member) (by decide)

theorem isAlphanum_of_mem_toDigits {value : Nat} {c : Char} (member : c ∈ Nat.toDigits 10 value) :
    c.isAlphanum = true := by
  have digit := Nat.isDigit_of_mem_toDigits (by decide) (by decide) member
  rw [Char.isAlphanum, digit, Bool.or_true]

theorem plain_toString (value : Nat) : Plain (toString value) := by
  have shape : (toString value).toList = Nat.toDigits 10 value := by
    rw [Nat.toString_eq_ofList_toDigits, String.toList_ofList]
  apply plain_of_alphanum
  · rw [shape]
    exact Nat.toDigits_ne_nil
  · intro c member
    rw [shape] at member
    exact isAlphanum_of_mem_toDigits member

theorem plain_padded (width value : Nat) : Plain (Calendar.padded width value) := by
  apply plain_of_alphanum
  · rw [Calendar.toList_padded]
    exact List.append_ne_nil_of_right_ne_nil _ Nat.toDigits_ne_nil
  · intro c member
    rw [Calendar.toList_padded] at member
    rcases List.mem_append.mp member with filled | digit
    · rw [List.eq_of_mem_replicate filled]
      rfl
    · exact isAlphanum_of_mem_toDigits digit

theorem plain_of_toList_eq {cell : String} {c : Char} (shape : cell.toList = [c])
    (visible : Text.Blank.isBlank c = false) (noBar : '|' ≠ c) : Plain cell where
  notEmpty := by rw [shape]; exact List.cons_ne_nil c []
  visible := by rw [shape, List.forall_mem_singleton]; exact visible
  noBar := by rw [shape, List.mem_singleton]; exact noBar

theorem plain_timestamp (unixMs : Nat) : Plain (Calendar.timestamp unixMs) := by
  have hyphen : Plain "-" := plain_of_toList_eq rfl (by decide) (by decide)
  have colon : Plain ":" := plain_of_toList_eq rfl (by decide) (by decide)
  have point : Plain "." := plain_of_toList_eq rfl (by decide) (by decide)
  have plus : Plain "+" := plain_of_toList_eq rfl (by decide) (by decide)
  have letterT : Plain "T" := plain_of_toList_eq rfl (by decide) (by decide)
  have letterZ : Plain "Z" := plain_of_toList_eq rfl (by decide) (by decide)
  have yearText (year : Nat) : Plain (Calendar.yearText year) := by
    unfold Calendar.yearText
    split
    · exact plain_padded 4 year
    · exact plus.append (plain_toString year)
  have number := plain_padded
  unfold Calendar.timestamp Calendar.instantText
  exact ((yearText _).append hyphen |>.append (number 2 _) |>.append hyphen |>.append (number 2 _)
    |>.append letterT |>.append (number 2 _) |>.append colon |>.append (number 2 _)
    |>.append colon |>.append (number 2 _) |>.append point |>.append (number 3 _)
    |>.append letterZ)

end Table

namespace Program

open Json (Reader Shape)

/-- A row as a reader of the printed text finds it. -/
structure Printed where
  id : String := ""
  time : String := ""
  tenant : BitVec 16 := 0
  shard : BitVec 16 := 0
  seq : BitVec 16 := 0
  deriving DecidableEq

namespace Printed

/-- The columns of a printed table. -/
def columns : List String := ["ID", "Time", "Tenant", "Shard", "Seq"]

theorem plain_columns : ∀ column ∈ columns, Table.Plain column := by
  have letters : ∀ column ∈ columns, column.toList ≠ [] ∧
      column.toList.all Char.isAlphanum = true := by decide
  intro column member
  rcases letters column member with ⟨notEmpty, alphanum⟩
  exact Table.plain_of_alphanum notEmpty (List.all_eq_true.mp alphanum)

/-- The cells of a row in a table. -/
def cells (row : Printed) : List String :=
  [row.id, row.time, toString row.tenant.toNat, toString row.shard.toNat, toString row.seq.toNat]

/-- How a row is read from a record, which has a member for every column. -/
def shape : Shape Printed where
  name := "Row"
  initial := {}
  fields := ([
    .of "id" Reader.text fun id row => { row with id },
    .of "time" Reader.text fun time row => { row with time },
    .of "tenant" (Reader.word 16) fun tenant row => { row with tenant },
    .of "shard" (Reader.word 16) fun shard row => { row with shard },
    .of "seq" (Reader.word 16) fun seq row => { row with seq }] : List (Json.Field Printed)).map
      Json.Field.asRequired

end Printed

/-- The printed text shows the rows in order, and nothing else. -/
def Shows (format : Format) (text : String) (rows : List Printed) : Prop :=
  match format with
  | .table => Table.cellsOf text = Printed.columns :: rows.map Printed.cells
  | .json => (Reader.list Printed.shape.read).run text = .ok rows

namespace Row

/-- The row as it is printed. -/
def printed (row : Row) : Printed where
  id := row.encoded
  time := row.time
  tenant := row.id.fields.tenant
  shard := row.id.fields.shard
  seq := row.id.fields.seq.setWidth 16

theorem toNat_seq_printed (row : Row) : row.printed.seq.toNat = row.id.fields.seq.toNat :=
  BitVec.toNat_setWidth_of_le (by decide)

theorem cells_printed (row : Row) : row.printed.cells = row.cells := by
  rw [Printed.cells, toNat_seq_printed]
  rfl

theorem length_cells (row : Row) : row.cells.length = Printed.columns.length := by
  have five : row.cells.length = 5 := rfl
  rw [five]
  rfl

theorem plain_cells {row : Row} (plain : Table.Plain row.encoded) :
    ∀ cell ∈ row.cells, Table.Plain cell := by
  simp only [cells, List.forall_mem_cons]
  exact ⟨plain, Table.plain_timestamp _, Table.plain_toString _, Table.plain_toString _,
    Table.plain_toString _, List.forall_mem_nil _⟩

theorem reads_toJson (row : Row) : Printed.shape.read.Reads row.toJson row.printed := by
  have seq : (Reader.word 16).Reads (.number row.id.fields.seq.toNat) row.printed.seq := by
    rw [← toNat_seq_printed]
    exact Reader.reads_word (by decide) row.printed.seq
  have takes := (.cons ⟨_, rfl, (Reader.reads_text row.encoded).map _⟩ <|
    .cons ⟨_, rfl, (Reader.reads_text row.time).map _⟩ <|
    .cons ⟨_, rfl, (Reader.reads_word (by decide) row.id.fields.tenant).map _⟩ <|
    .cons ⟨_, rfl, (Reader.reads_word (by decide) row.id.fields.shard).map _⟩ <|
    .cons ⟨_, rfl, seq.map _⟩ .nil :
    List.Forall₂ Printed.shape.Takes [("id", .text row.encoded), ("time", .text row.time),
      ("tenant", .number row.id.fields.tenant.toNat), ("shard", .number row.id.fields.shard.toNat),
      ("seq", .number row.id.fields.seq.toNat)] _)
  refine Shape.reads_record takes (by simp) ?_
  intro field member _
  exact List.mem_map_of_mem member

theorem shows_render {rows : List Row} (notEmpty : rows ≠ [])
    (plain : ∀ row ∈ rows, Table.Plain row.encoded) (format : Format) :
    Shows format (render format rows ++ "\n") (rows.map printed) := by
  cases format with
  | json =>
      have read : List.Forall₂ Printed.shape.read.Reads (rows.map toJson) (rows.map printed) := by
        rw [List.forall₂_map_left_iff, List.forall₂_map_right_iff, List.forall₂_same]
        exact fun row _ => row.reads_toJson
      have ending : Json.Blanks ['\n'] := Json.blanks_lineBreak .indented 0
      exact (Reader.Reads.list read).run .indented ending
  | table =>
      have shown : rows.map cells = (rows.map printed).map Printed.cells := by
        rw [List.map_map]
        exact List.map_congr_left fun row _ => row.cells_printed.symm
      have readable : Table.Readable { header := Printed.columns, rows := rows.map cells } := by
        refine ⟨Printed.plain_columns, ?_⟩
        intro shownCells member
        rcases List.mem_map.mp member with ⟨row, inRows, rfl⟩
        exact ⟨row.length_cells, plain_cells (plain row inRows)⟩
      have someRows : rows.isEmpty = false := List.isEmpty_eq_false_iff.mpr notEmpty
      have rendered : render .table rows =
          ({ header := Printed.columns, rows := rows.map cells } : Table).bordered := by
        rw [render, someRows]
        rfl
      rw [Shows, rendered, Table.cellsOf_bordered readable, shown]

end Row

end Program

end SortableId
