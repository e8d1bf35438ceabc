import SortableId.Proofs.Printouts

/-!
# Tables of names and values

A table of two columns may be printed without any lines between them.  A name may hold blanks, but a
value holds none, so the value of a line is what stands behind its last blank, and the name is what
is left in front of it.
-/

namespace SortableId

namespace Table

/-- The name and the value of a line: the value is what stands behind its last blank. -/
def pairOfLine (line : List Char) : Option (String × String) :=
  (Text.splitLast ' ' (Text.Blank.trim line)).map fun parts =>
    (String.ofList (Text.Blank.trim parts.1), String.ofList parts.2)

/-- The names and values that a table shows, line by line. -/
def pairsOf (text : String) : List (String × String) :=
  (text.toList.splitOn '\n').filterMap pairOfLine

/-- A name that can be told from the blanks around it, although it may hold some. -/
structure Name (name : String) : Prop where
  notEmpty : name.toList ≠ []
  head : Text.Blank.isBlank (name.toList.head notEmpty) = false
  last : Text.Blank.isBlank (name.toList.getLast notEmpty) = false
  oneLine : '\n' ∉ name.toList

/-- A line of a table with two columns. -/
def pairLine (widths : Nat × Nat) (pair : String × String) : List Char :=
  cellChars widths.1 pair.1 ++ ' ' :: cellChars widths.2 pair.2

theorem isBlank_of_mem_replicate {count : Nat} :
    ∀ c ∈ List.replicate count ' ', Text.Blank.isBlank c = true := by
  intro c member
  rw [List.eq_of_mem_replicate member]
  rfl

/-- No white space stands in a plain cell. -/
theorem Plain.not_mem {cell : String} (plain : Plain cell) {c : Char}
    (blank : Text.Blank.isBlank c = true) : c ∉ cell.toList := by
  intro member
  rw [plain.visible c member] at blank
  exact Bool.false_ne_true blank

theorem lineBreak_not_mem_cellChars {cell : String} (oneLine : '\n' ∉ cell.toList) (width : Nat) :
    '\n' ∉ cellChars width cell := by
  intro member
  rcases mem_cellChars member with equal | inCell
  · exact absurd equal (by decide)
  · exact oneLine inCell

theorem cellChars_eq (width : Nat) (cell : String) : cellChars width cell =
    [' '] ++ cell.toList ++ List.replicate (width - cell.toList.length + 1) ' ' := by
  simp [cellChars, List.rightpad, List.replicate_succ']

/-- The name and the value of a line are read back. -/
theorem pairOfLine_pairLine {pair : String × String} (named : Name pair.1) (plain : Plain pair.2)
    (widths : Nat × Nat) : pairOfLine (pairLine widths pair) = some pair := by
  obtain ⟨name, value⟩ := pair
  let gap := List.replicate (widths.1 - name.toList.length + 2) ' '
  have shape : pairLine widths (name, value) =
      [' '] ++ (name.toList ++ gap ++ ' ' :: value.toList) ++
        List.replicate (widths.2 - value.toList.length + 1) ' ' := by
    simp [pairLine, cellChars_eq, gap, List.replicate_succ']
  have notEmpty : name.toList ++ gap ++ ' ' :: value.toList ≠ [] := by simp
  have head : (name.toList ++ gap ++ ' ' :: value.toList).head notEmpty =
      name.toList.head named.notEmpty := by
    simp [List.head_append_of_ne_nil, named.notEmpty]
  have last : (name.toList ++ gap ++ ' ' :: value.toList).getLast notEmpty =
      value.toList.getLast plain.notEmpty := by
    simp [List.getLast_append_of_ne_nil, List.getLast_cons, plain.notEmpty]
  have trimmed : Text.Blank.trim (pairLine widths (name, value)) =
      name.toList ++ gap ++ ' ' :: value.toList := by
    rw [shape]
    apply Text.Blank.trim_append notEmpty
    · simp [show Text.Blank.isBlank ' ' = true from rfl]
    · exact isBlank_of_mem_replicate
    · rw [head]
      exact named.head
    · rw [last]
      exact plain.visible _ (List.getLast_mem plain.notEmpty)
  have noBlank : ' ' ∉ value.toList := plain.not_mem rfl
  have bare : Text.Blank.trim (name.toList ++ gap) = name.toList := by
    have blank : ∀ c ∈ gap, Text.Blank.isBlank c = true := isBlank_of_mem_replicate
    have inside := Text.Blank.trim_append named.notEmpty (List.forall_mem_nil _) blank named.head
      named.last
    rwa [List.nil_append] at inside
  rw [pairOfLine, trimmed, Text.splitLast_eq_some_iff.mpr ⟨rfl, noBlank⟩]
  simp only [Option.map_some, bare, String.ofList_toList]

/-- A table of names and values. -/
def ofPairs (header : String × String) (pairs : List (String × String)) : Table where
  header := [header.1, header.2]
  rows := pairs.map fun pair => [pair.1, pair.2]

theorem exists_plain_ofPairs (header : String × String) (pairs : List (String × String)) :
    ∃ widths, (ofPairs header pairs).plain =
      String.ofList (['\n'].intercalate ((header :: pairs).map (pairLine widths))) := by
  have two : (ofPairs header pairs).widths.length = 2 := by
    apply length_widths_of_rows
    intro row member
    obtain ⟨pair, _, rfl⟩ := List.mem_map.mp member
    rfl
  obtain ⟨first, second, widths⟩ := List.length_eq_two.mp two
  refine ⟨(first, second), ?_⟩
  have same (pair : String × String) :
      [' '].intercalate (rowCells (ofPairs header pairs).widths [pair.1, pair.2]) =
        pairLine (first, second) pair := by
    rw [widths]
    simp [rowCells, pairLine]
  have rows : (ofPairs header pairs).header :: (ofPairs header pairs).rows =
      (header :: pairs).map fun pair => [pair.1, pair.2] := rfl
  simp only [plain, rows, List.map_map]
  congr 2
  exact List.map_congr_left fun pair _ => same pair

/-- A printed table of names and values shows them in order. -/
theorem pairsOf_plain {header : String × String} {pairs : List (String × String)}
    (readable : ∀ pair ∈ header :: pairs, Name pair.1 ∧ Plain pair.2) :
    pairsOf ((ofPairs header pairs).plain ++ "\n") = header :: pairs := by
  obtain ⟨widths, printed⟩ := exists_plain_ofPairs header pairs
  have unbroken : ∀ piece ∈ (header :: pairs).map (pairLine widths), '\n' ∉ piece := by
    intro piece member
    obtain ⟨pair, inTable, rfl⟩ := List.mem_map.mp member
    obtain ⟨named, plainValue⟩ := readable pair inTable
    intro lineBreak
    rcases List.mem_append.mp lineBreak with inName | behind
    · exact lineBreak_not_mem_cellChars named.oneLine _ inName
    · rcases List.mem_cons.mp behind with equal | inValue
      · exact absurd equal (by decide)
      · exact lineBreak_not_mem_cellChars (plainValue.not_mem rfl) _ inValue
  have ended : ((ofPairs header pairs).plain ++ "\n").toList =
      ((header :: pairs).map (pairLine widths)).flatMap (· ++ ['\n']) := by
    have notEmpty : (header :: pairs).map (pairLine widths) ≠ [] := List.cons_ne_nil _ _
    rw [String.toList_append, printed, String.toList_ofList,
      ← intercalate_append_separator notEmpty]
    rfl
  have read : ∀ pair ∈ header :: pairs, (pairOfLine ∘ pairLine widths) pair = some pair := by
    intro pair member
    rw [Function.comp_apply]
    exact pairOfLine_pairLine (readable pair member).1 (readable pair member).2 widths
  have nothing : [[]].filterMap pairOfLine = [] := rfl
  rw [pairsOf, ended, splitOn_flatMap unbroken, List.filterMap_append, List.filterMap_map,
    List.filterMap_congr read, List.filterMap_some, nothing, List.append_nil]

end Table

end SortableId
