/-!
# Tables

Rows of cells are shown in columns as wide as their widest cell.  Every cell has a blank on either
side and is filled up on the right.
-/

namespace SortableId

/-- A header and rows of as many cells. -/
structure Table where
  header : List String
  rows : List (List String)

namespace Table

/-- The width of each column. -/
def widths (table : Table) : List Nat :=
  table.rows.foldl (fun widths row => widths.zipWith (fun width cell => max width cell.length) row)
    (table.header.map String.length)

/-- The characters of a cell of the given width. -/
def cellChars (width : Nat) (cell : String) : List Char :=
  ' ' :: cell.toList.rightpad width ' ' ++ [' ']

/-- The cells of a row, filled up to the widths of their columns. -/
def rowCells (widths : List Nat) (row : List String) : List (List Char) :=
  widths.zipWith cellChars row

/-- A table between lines of hyphens, with bars between its columns. -/
def bordered (table : Table) : String :=
  let widths := table.widths
  let line := '+' :: widths.flatMap fun width => List.replicate (width + 2) '-' ++ ['+']
  let row (cells : List String) := '|' :: (rowCells widths cells).flatMap (· ++ ['|'])
  let lines := line :: (table.header :: table.rows).flatMap fun cells => [row cells, line]
  String.ofList (['\n'].intercalate lines)

/-- A table without any lines, with a blank between its columns. -/
def plain (table : Table) : String :=
  let widths := table.widths
  let row (cells : List String) := [' '].intercalate (rowCells widths cells)
  String.ofList (['\n'].intercalate ((table.header :: table.rows).map row))

end Table

end SortableId
