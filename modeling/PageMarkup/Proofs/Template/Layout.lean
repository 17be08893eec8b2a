import PageMarkup.Proofs.Binary64.Rounding
import PageMarkup.Proofs.Import.Runs

/-!
# The layout of grids

Features, statistics and columns stand in rows of cells.  The cells are cut into pieces of one size
and put beside widths that are computed from the number of columns alone, and what has no width
would be lost.  Since the number of columns lies between one and six, whatever the properties say,
no cell is lost and no row is too wide.
-/

namespace PageMarkup

open Text Template

/-! ### The number of columns -/

namespace Template

/-- A row of features has a column. -/
theorem one_le_columnsPerRow (props : Props) (count : Nat) : 1 ≤ columnsPerRow props count := by
  unfold columnsPerRow
  split
  · omega
  · split
    · rename_i hone
      exact Nat.le_min.mpr ⟨Binary64.one_le_wholePart hone, by decide⟩
    · omega

/-! ### Widths -/

/-- Shares of which the first `extra` are greater by one add up. -/
theorem sum_shares (base : Nat) {count extra : Nat} :
    ((List.range count).map fun i => base + if i < extra then 1 else 0).sum =
      count * base + min count extra := by
  induction count with
  | zero => simp
  | succ count ih =>
    rw [List.range_succ, List.map_append, List.sum_append, ih, Nat.succ_mul]
    simp only [List.map_cons, List.map_nil, List.sum_singleton]
    split <;> omega

variable {columns : Nat}

/-- The widths of up to twelve columns fill a row. -/
theorem sum_spans (hlow : 1 ≤ columns) (hhigh : columns ≤ 12) : (spans columns).sum = 12 := by
  have hcount : min (max columns 1) 12 = columns := by omega
  have hextra : 12 % columns < columns := Nat.mod_lt 12 hlow
  unfold spans
  dsimp only
  rw [hcount, sum_shares, Nat.min_eq_right hextra.le, Nat.div_add_mod]

/-- The columns of a row of up to six are two units wide at least. -/
theorem two_le_of_mem_spans (hlow : 1 ≤ columns) (hhigh : columns ≤ 6) {width : Nat}
    (h : width ∈ spans columns) : 2 ≤ width := by
  have hcount : min (max columns 1) 12 = columns := by omega
  unfold spans at h
  dsimp only at h
  rw [hcount] at h
  obtain ⟨i, -, rfl⟩ := List.mem_map.mp h
  have hbase : 2 ≤ 12 / columns := (Nat.le_div_iff_mul_le hlow).mpr (by omega)
  exact hbase.trans (Nat.le_add_right _ _)

/-! ### Pieces -/

variable {α : Type} {size : Nat} {items piece : List α}

/-- No piece is empty. -/
theorem ne_nil_of_mem_chunks (hsize : 0 < size) (h : piece ∈ chunks size items) : piece ≠ [] := by
  obtain ⟨i, hi, rfl⟩ := List.mem_map.mp h
  have hbefore : (i + 1) * size ≤ items.length + size - 1 :=
    (Nat.le_div_iff_mul_le hsize).mp (List.mem_range.mp hi)
  rw [Nat.succ_mul] at hbefore
  apply List.ne_nil_of_length_pos
  rw [List.length_take, List.length_drop]
  omega

/-- Every piece but the last has the full size. -/
theorem length_of_mem_dropLast_chunks (hsize : 0 < size)
    (h : piece ∈ (chunks size items).dropLast) : piece.length = size := by
  unfold chunks at h
  rw [← List.map_dropLast] at h
  obtain ⟨i, hi, rfl⟩ := List.mem_map.mp h
  -- Another piece follows this one, and it would begin where this one ends.
  have hnext : i + 2 ≤ (items.length + size - 1) / size := by
    generalize (items.length + size - 1) / size = count at hi
    cases count with
    | zero => exact absurd hi List.not_mem_nil
    | succ count =>
      rw [List.range_succ, List.dropLast_concat, List.mem_range] at hi
      omega
  have hbefore := (Nat.le_div_iff_mul_le hsize).mp hnext
  rw [Nat.add_mul] at hbefore
  rw [List.length_take, List.length_drop]
  omega

/-- Items that are put beside as many as there are or more keep the first of these. -/
theorem map_snd_zip_of_length_le {β : Type} {others : List β} (h : items.length ≤ others.length) :
    (items.zip others).map Prod.snd = others.take items.length := by
  induction items generalizing others with
  | nil => rfl
  | cons item items ih =>
    cases others with
    | nil => exact absurd h (by simp)
    | cons other others => simp [ih (Nat.le_of_succ_le_succ h)]

end Template

/-! ### What stands inside rows -/

namespace Markup

/-- The names of the elements of a grid. -/
def gridNames : List String := ["row_inner", "column_inner"]

variable {name : String}

/-- In an element of another name that holds a text there is nothing to find. -/
theorem collectAll_holding {tag : Tag} (h : (tag.name == name) = false) (content : List Char) :
    collectAll name [holding tag content] = [] := by
  have hinside : collectAll name (held content) = [] := collectAll_held name content
  unfold held at hinside
  unfold holding
  simp only [collectAll, collect, h, hinside, List.append_nil, Bool.false_eq_true, if_false]

/-- What is found in items that stand on a line each is found in the items. -/
theorem collectAll_lines_items (name : String) (items : List Markup) :
    collectAll name (Forest.lines (items.map fun item => [item])) =
      items.flatMap (collect name) := by
  rw [collectAll_lines, List.flatMap_map]
  refine List.flatMap_congr fun item _ => ?_
  rw [collectAll_eq_flatMap, List.flatMap_singleton]

/-- No row and no cell stands inside the cell of a record. -/
theorem collectAll_cell (h : name ∈ gridNames) (kind : Kind) (record : Props) :
    collectAll name (kind.cell record) = [] := by
  have hother : ∀ inner ∈ ["blurb", "counter", "heading", "text"], (inner == name) = false := by
    revert name
    decide
  unfold Kind.cell
  split
  · exact collectAll_holding (hother "blurb" (by decide)) _
  · simp [Template.statisticCell, collectAll, collect, hother "counter" (by decide)]
  · unfold Template.columnCell
    rw [collectAll_lines, List.flatMap_eq_nil_iff]
    intro part hpart
    simp only [List.mem_append, Option.mem_toList, Option.map_eq_some_iff] at hpart
    rcases hpart with ⟨title, -, rfl⟩ | ⟨content, -, rfl⟩
    · exact collectAll_holding (hother "heading" (by decide)) _
    · exact collectAll_holding (hother "text" (by decide)) _
  · rfl

/-- The cells in a row are the elements of the row. -/
theorem collect_column_rowElement (columns : Nat) (piece : List Forest) :
    collect "column_inner"
        (.element (Template.rowElement columns piece).tag
          (Template.rowElement columns piece).children) =
      (Template.rowElement columns piece).elements := by
  have hname : ("row_inner" == "column_inner") = false := by decide
  rw [Element.elements_rowElement, Template.rowElement, collect, hname, if_neg (by decide),
    collectAll_ownLines, collectAll_lines_items, Template.rowCells, List.flatMap_map,
    List.map_eq_flatMap]
  refine List.flatMap_congr fun entry _ => ?_
  rfl

end Markup

/-! ### Rows -/

namespace Element

/-- The tag of a cell. -/
def cellTag (width : Nat) : Tag :=
  ⟨"column_inner", [("span", toString width)]⟩

/-- The row has a cell, as many as there are columns at most, and their widths do not add up to more
than the width of the row; with a cell in each column they fill it. -/
structure IsFilledRow (columns : Nat) (row : Element) : Prop where
  ne_nil : row.elements ≠ []
  length_le : row.elements.length ≤ columns
  exists_widths : ∃ widths : List Nat, row.elements.map tag = widths.map cellTag ∧
    (∀ width ∈ widths, 2 ≤ width) ∧ widths.sum ≤ 12 ∧
    (row.elements.length = columns → widths.sum = 12)

variable {columns : Nat} {piece : List Forest}

/-- A row that is not too long has all its cells. -/
theorem length_elements_rowElement (h : piece.length ≤ (spans columns).length) :
    (rowElement columns piece).elements.length = piece.length := by
  rw [elements_rowElement, List.length_map, List.length_zip, Nat.min_eq_left h]

/-- What the cells of a row hold that is not too long. -/
theorem map_children_elements_rowElement (h : piece.length ≤ (spans columns).length) :
    (rowElement columns piece).elements.map children = piece.map Forest.ownLines := by
  rw [elements_rowElement, List.map_map, ← List.map_fst_zip h, List.map_map, List.map_fst_zip h]
  exact List.map_congr_left fun entry _ => rfl

/-- The tags of the cells of a row that is not too long. -/
theorem map_tag_elements_rowElement (h : piece.length ≤ (spans columns).length) :
    (rowElement columns piece).elements.map tag =
      ((spans columns).take piece.length).map cellTag := by
  rw [elements_rowElement, List.map_map, ← map_snd_zip_of_length_le h, List.map_map]
  exact List.map_congr_left fun entry _ => rfl

/-- A piece of the cells makes a row. -/
theorem isFilledRow_rowElement (hlow : 1 ≤ columns) (hhigh : columns ≤ 6) (hne : piece ≠ [])
    (hlength : piece.length ≤ columns) : IsFilledRow columns (rowElement columns piece) := by
  have hspans : (spans columns).length = columns := by
    rw [length_spans (by omega), Nat.max_eq_left hlow]
  have hfits : piece.length ≤ (spans columns).length := hspans.symm ▸ hlength
  have hcells := length_elements_rowElement hfits
  have hsum : (spans columns).sum = 12 := sum_spans hlow (by omega)
  refine ⟨?_, hcells.trans_le hlength, (spans columns).take piece.length,
    map_tag_elements_rowElement hfits, ?_, ?_, ?_⟩
  · apply List.ne_nil_of_length_pos
    rw [hcells]
    exact List.length_pos_of_ne_nil hne
  · intro width hwidth
    exact two_le_of_mem_spans hlow hhigh (List.mem_of_mem_take hwidth)
  · calc ((spans columns).take piece.length).sum
        ≤ ((spans columns).take piece.length).sum + ((spans columns).drop piece.length).sum :=
          Nat.le_add_right _ _
      _ = (spans columns).sum := by rw [← List.sum_append, List.take_append_drop]
      _ = 12 := hsum
  · intro hall
    rw [hcells] at hall
    rw [List.take_of_length_le (hspans.trans hall.symm).le, hsum]

end Element

/-! ### The grid of a node -/

/-- The elements of a grid in some markup: each content has a cell, in order, and the cells stand in
rows, of which only the last may have fewer cells than there are columns. -/
structure Forest.IsLaidOut (columns : Nat) (contents : List Forest) (forest : Forest) : Prop where
  contents_eq : (Markup.collectAll "column_inner" forest).map Element.children =
    contents.map Forest.ownLines
  innermost : ∀ cell ∈ Markup.collectAll "column_inner" forest, ∀ name ∈ Markup.gridNames,
    cell.findAll name = []
  cells_eq : (Markup.collectAll "row_inner" forest).flatMap Element.elements =
    Markup.collectAll "column_inner" forest
  full : ∀ row ∈ (Markup.collectAll "row_inner" forest).dropLast, row.elements.length = columns
  filled : ∀ row ∈ Markup.collectAll "row_inner" forest, row.IsFilledRow columns

namespace Node

variable {node : Node}

/-- A grid has from one to six columns. -/
theorem one_le_gridColumns_le_six (h : node.gridRecords ≠ []) :
    1 ≤ node.gridColumns ∧ node.gridColumns ≤ 6 := by
  have hsome : 1 ≤ node.gridRecords.length := List.length_pos_of_ne_nil h
  unfold gridColumns
  split
  · exact ⟨one_le_columnsPerRow _ _, columnsPerRow_le _ _⟩
  · rw [mostColumns]
    omega

/-- In the heading above a grid there is no row and no cell. -/
theorem flatMap_collect_gridTitle (node : Node) {name : String} (h : name ∈ Markup.gridNames) :
    ((node.gridTitle?.map titleHeading).toList).flatMap (Markup.collect name) = [] := by
  have hother : ("heading" == name) = false := by
    revert name
    decide
  cases node.gridTitle? with
  | none => rfl
  | some title =>
    rw [← Markup.collectAll_eq_flatMap]
    apply Markup.collectAll_holding
    exact hother

/-- The rows and the cells in the markup of a grid stand in its rows. -/
theorem collectAll_gridMarkup (node : Node) {name : String} (h : name ∈ Markup.gridNames) :
    Markup.collectAll name (Forest.lines (node.gridMarkup.map fun item => [item])) =
      node.gridRows.flatMap fun row => Markup.collect name (.element row.tag row.children) := by
  rw [Markup.collectAll_lines_items, gridMarkup, List.flatMap_append,
    node.flatMap_collect_gridTitle h, List.nil_append, List.flatMap_map]

/-- The rows in the markup of a grid are its rows. -/
theorem collectAll_row_gridMarkup (node : Node) :
    Markup.collectAll "row_inner" (Forest.lines (node.gridMarkup.map fun item => [item])) =
      node.gridRows := by
  rw [node.collectAll_gridMarkup (by decide), List.flatMap_congr (g := fun row => [row])]
  · exact List.flatMap_singleton' _
  · intro row hrow
    have hname : row.tag.name = "row_inner" := name_of_mem_gridRows hrow
    rw [Markup.collect, hname, beq_self_eq_true, if_pos rfl]

/-- The cells in the markup of a grid are the elements of its rows. -/
theorem collectAll_column_gridMarkup (node : Node) :
    Markup.collectAll "column_inner" (Forest.lines (node.gridMarkup.map fun item => [item])) =
      node.gridRows.flatMap Element.elements := by
  rw [node.collectAll_gridMarkup (by decide)]
  refine List.flatMap_congr fun row hrow => ?_
  obtain ⟨piece, -, rfl⟩ := List.mem_map.mp hrow
  exact Markup.collect_column_rowElement node.gridColumns piece

/-- What the cells of a grid hold. -/
theorem map_children_gridRows (h : node.gridRecords ≠ []) :
    (node.gridRows.flatMap Element.elements).map Element.children =
      (node.gridRecords.map node.kind.cell).map Forest.ownLines := by
  obtain ⟨hlow, hhigh⟩ := one_le_gridColumns_le_six h
  let contents := node.gridRecords.map node.kind.cell
  have hrow : ∀ piece ∈ chunks node.gridColumns contents,
      (rowElement node.gridColumns piece).elements.map Element.children =
        piece.map Forest.ownLines := by
    intro piece hpiece
    apply Element.map_children_elements_rowElement
    rw [length_spans (by omega), Nat.max_eq_left hlow]
    exact length_le_of_mem_chunks hpiece
  calc (node.gridRows.flatMap Element.elements).map Element.children
      = (chunks node.gridColumns contents).flatMap fun piece =>
          (rowElement node.gridColumns piece).elements.map Element.children := by
        rw [gridRows, Template.gridRows, Nat.max_eq_left hlow, List.map_flatMap, List.flatMap_map]
    _ = (chunks node.gridColumns contents).flatMap fun piece => piece.map Forest.ownLines :=
        List.flatMap_congr hrow
    _ = contents.map Forest.ownLines := by
        rw [List.flatMap_def, ← List.map_flatten, flatten_chunks hlow]

/-- The markup of a grid with a record is laid out. -/
theorem isLaidOut_gridMarkup (h : node.gridRecords ≠ []) :
    (Forest.lines (node.gridMarkup.map fun item => [item])).IsLaidOut node.gridColumns
      (node.gridRecords.map node.kind.cell) := by
  obtain ⟨hlow, hhigh⟩ := one_le_gridColumns_le_six h
  have hrows : node.gridRows = (chunks node.gridColumns (node.gridRecords.map node.kind.cell)).map
      (rowElement node.gridColumns) := by
    rw [gridRows, Template.gridRows, Nat.max_eq_left hlow]
  have hcells := (congrArg (List.map Element.children) node.collectAll_column_gridMarkup).trans
    (map_children_gridRows h)
  refine ⟨hcells, ?_, ?_, ?_, ?_⟩
  · -- What a cell holds is the content of a record, and no record brings rows or cells of its own.
    intro cell hcell name hname
    have hchildren := List.mem_map_of_mem (f := Element.children) hcell
    rw [hcells, List.map_map] at hchildren
    obtain ⟨record, -, hrecord⟩ := List.mem_map.mp hchildren
    rw [Element.findAll, ← hrecord, Function.comp_apply, Markup.collectAll_ownLines]
    exact Markup.collectAll_cell hname node.kind record
  · rw [node.collectAll_row_gridMarkup, node.collectAll_column_gridMarkup]
  · intro row hrow
    rw [node.collectAll_row_gridMarkup, hrows, ← List.map_dropLast] at hrow
    obtain ⟨piece, hpiece, rfl⟩ := List.mem_map.mp hrow
    have hlength := length_of_mem_dropLast_chunks hlow hpiece
    rw [Element.length_elements_rowElement, hlength]
    rw [hlength, length_spans (by omega), Nat.max_eq_left hlow]
  · intro row hrow
    rw [node.collectAll_row_gridMarkup, hrows] at hrow
    obtain ⟨piece, hpiece, rfl⟩ := List.mem_map.mp hrow
    exact Element.isFilledRow_rowElement hlow hhigh (ne_nil_of_mem_chunks hlow hpiece)
      (length_le_of_mem_chunks hpiece)

/-- The text that the template of a grid gives has a cell for each record, in order, whatever the
properties ask for. -/
theorem grid_keeps_records (h : node.gridRecords ≠ []) :
    1 ≤ node.gridColumns ∧ node.gridColumns ≤ 6 ∧
    ∀ limit, ∃ forest, node.template.result limit = some forest ∧
      (Forest.read forest.render).IsLaidOut node.gridColumns
        (node.gridRecords.map node.kind.cell) := by
  obtain ⟨hlow, hhigh⟩ := one_le_gridColumns_le_six h
  have hmarkup := markup?_eq_gridMarkup h
  have hwell : Markup.AreWellFormed (Forest.lines (node.gridMarkup.map fun item => [item])) :=
    (isSolid_of_markup? hmarkup).isWellFormed
  refine ⟨hlow, hhigh, fun limit => ⟨_, (node.result_template limit).trans hmarkup, ?_⟩⟩
  rw [Forest.read, Forest.render, Markup.tokens_renderAll hwell,
    Markup.Growth.finish_extend_tokensOfAll hwell]
  exact isLaidOut_gridMarkup h

/-- Three features of which two are to stand in a row, by a fraction in a text. -/
def threeFeatures : Node :=
  ⟨.featureGrid, "features", [
    ("features", .list [.record [("title", .text "Fast")], .record [("title", .text "Small")],
      .record [("icon", .text "star")]]),
    ("perRow", .text " 2.9 ")]⟩

theorem grid_keeps_records_threeFeatures :
    threeFeatures.gridColumns = 2 ∧ threeFeatures.gridRecords.length = 3 ∧
    1 ≤ threeFeatures.gridColumns ∧ threeFeatures.gridColumns ≤ 6 ∧
    ∀ limit, ∃ forest, threeFeatures.template.result limit = some forest ∧
      (Forest.read forest.render).IsLaidOut threeFeatures.gridColumns
        (threeFeatures.gridRecords.map threeFeatures.kind.cell) := by
  have hrecords : threeFeatures.gridRecords.length = 3 := by decide +kernel
  have hne : threeFeatures.gridRecords ≠ [] := by
    apply List.ne_nil_of_length_pos
    rw [hrecords]
    decide
  exact ⟨by decide +kernel, hrecords, grid_keeps_records hne⟩

end Node

end PageMarkup
