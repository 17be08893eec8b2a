import PageMarkup.Proofs.Import.Box
import PageMarkup.Proofs.Import.Group

/-!
# Grids are read back

Rows that follow one another are read as one grid.  The pieces into which the cells were cut are put
together again, and what the cells hold tells features, statistics and columns apart.
-/

namespace PageMarkup

open Text Template

/-! ### Pieces of a list -/

namespace Template

variable {α : Type} {size : Nat} {items piece : List α}

/-- The first pieces of a list are a first part of it. -/
theorem flatten_map_range (size count : Nat) (items : List α) :
    ((List.range count).map fun i => (items.drop (i * size)).take size).flatten =
      items.take (count * size) := by
  induction count with
  | zero => simp
  | succ count ih =>
    rw [List.range_succ, List.map_append, List.flatten_append, ih, Nat.succ_mul, List.take_add]
    simp

/-- The pieces of a list make up the list. -/
theorem flatten_chunks (h : 0 < size) (items : List α) : (chunks size items).flatten = items := by
  rw [chunks, flatten_map_range, List.take_of_length_le]
  have hdiv := Nat.lt_div_mul_add h (a := items.length + size - 1)
  omega

/-- No piece is longer than the size. -/
theorem length_le_of_mem_chunks (h : piece ∈ chunks size items) : piece.length ≤ size := by
  obtain ⟨i, -, rfl⟩ := List.mem_map.mp h
  exact List.length_take_le size _

/-- The first piece of a list that is long enough has the full size. -/
theorem take_mem_chunks (h : 0 < size) (hsize : size ≤ items.length) :
    items.take size ∈ chunks size items := by
  refine List.mem_map.mpr ⟨0, ?_, by simp⟩
  rw [List.mem_range]
  exact Nat.div_pos (by omega) h

/-- The greatest length of the pieces of a list that is long enough is the size. -/
theorem foldl_max_length_chunks (h : 0 < size) (hsize : size ≤ items.length) :
    ((chunks size items).map List.length).foldl max 0 = size := by
  have hfirst : size ∈ (chunks size items).map List.length :=
    List.mem_map.mpr ⟨items.take size, take_mem_chunks h hsize, List.length_take_of_le hsize⟩
  have hmax : (0 :: (chunks size items).map List.length).max? = some size := by
    rw [List.max?_eq_some_iff]
    refine ⟨List.mem_cons_of_mem 0 hfirst, fun length hlength => ?_⟩
    rcases List.mem_cons.mp hlength with rfl | hlength
    · exact Nat.zero_le size
    · obtain ⟨piece, hpiece, rfl⟩ := List.mem_map.mp hlength
      exact length_le_of_mem_chunks hpiece
  rw [List.max?_cons'] at hmax
  exact Option.some.inj hmax

/-- There is a piece if there is an item. -/
theorem chunks_ne_nil (h : 0 < size) (hne : items ≠ []) : chunks size items ≠ [] := by
  intro hnil
  have hflatten := flatten_chunks h items
  rw [hnil] at hflatten
  exact hne hflatten.symm

end Template

/-! ### Rows of cells -/

namespace Template

/-- The cells of a row with their widths. -/
def rowCells (columns : Nat) (piece : List Forest) : List Markup :=
  (piece.zip (spans columns)).map fun (content, span) => cell content span

/-- A row of cells as an element. -/
def rowElement (columns : Nat) (piece : List Forest) : Element :=
  ⟨⟨"row_inner", []⟩, (Forest.lines ((rowCells columns piece).map fun cell => [cell])).ownLines⟩

/-- The rows of a grid. -/
def gridRows (columns : Nat) (cells : List Forest) : List Element :=
  (chunks (max columns 1) cells).map (rowElement columns)

/-- A grid is the lines of its rows. -/
theorem grid_eq (columns : Nat) (cells : List Forest) :
    grid columns cells =
      Forest.lines ((gridRows columns cells).map fun row => [.element row.tag row.children]) := by
  rw [grid, gridRows, List.map_map]
  congr 1
  refine List.map_congr_left fun piece _ => ?_
  rw [row, Function.comp_apply, rowElement, rowCells, List.map_map]
  rfl

/-- A row has at most as many columns as there are widths for. -/
theorem length_spans {columns : Nat} (h : columns ≤ 12) :
    (spans columns).length = max columns 1 := by
  rw [spans, List.length_map, List.length_range]
  omega

/-- A grid has at least one column. -/
theorem grid_max (columns : Nat) (cells : List Forest) :
    grid (max columns 1) cells = grid columns cells := by
  have hspans : spans (max columns 1) = spans columns := by
    simp only [spans, Nat.max_assoc, Nat.max_self]
  simp only [grid, Nat.max_assoc, Nat.max_self, row, hspans]

end Template

namespace Element

/-- The element of a cell. -/
def ofCell (content : Forest) (width : Nat) : Element :=
  ⟨⟨"column_inner", [("span", toString width)]⟩, content.ownLines⟩

/-- A row holds its cells and no other elements. -/
theorem elements_rowElement (columns : Nat) (piece : List Forest) :
    (rowElement columns piece).elements =
      (piece.zip (spans columns)).map fun (content, width) => ofCell content width := by
  show Forest.elements (rowElement columns piece).children = _
  rw [rowElement, Forest.elements_ownLines, Forest.elements_lines, rowCells, List.map_map,
    List.flatMap_map, List.map_eq_flatMap]
  rfl

/-- The cells of a row that is not too long are read back. -/
theorem cells_rowElement {columns : Nat} {piece : List Forest}
    (h : piece.length ≤ (spans columns).length) :
    cells (rowElement columns piece) = piece.map Forest.elements := by
  let inner (entry : Forest × Nat) : Element := ofCell entry.1 entry.2
  have helements : (rowElement columns piece).elements =
      (piece.zip (spans columns)).map inner := elements_rowElement columns piece
  have hcolumns : (rowElement columns piece).elements.filter (·.name == "column_inner") =
      (piece.zip (spans columns)).map inner := by
    rw [helements, List.filter_eq_self]
    intro element helement
    obtain ⟨entry, -, rfl⟩ := List.mem_map.mp helement
    rfl
  have hcell : ((piece.zip (spans columns)).map inner).map elements =
      piece.map Forest.elements := by
    have hread (entry : Forest × Nat) : (inner entry).elements = Forest.elements entry.1 :=
      Forest.elements_ownLines entry.1
    rw [List.map_map, ← List.map_fst_zip h, List.map_map, List.map_fst_zip h]
    exact List.map_congr_left fun entry _ => hread entry
  rw [cells, hcolumns, helements]
  cases hzip : piece.zip (spans columns) with
  | nil =>
    rw [hzip] at hcell
    exact hcell
  | cons entry entries =>
    rw [hzip] at hcell
    exact hcell

/-- The cells of the rows of a grid. -/
theorem map_cells_gridRows {columns : Nat} (h : columns ≤ 12) (contents : List Forest) :
    (gridRows columns contents).map cells =
      (chunks (max columns 1) contents).map (List.map Forest.elements) := by
  rw [gridRows, List.map_map]
  refine List.map_congr_left fun piece hpiece => ?_
  refine cells_rowElement ?_
  rw [length_spans h]
  exact length_le_of_mem_chunks hpiece

/-- The cells of a grid are read back. -/
theorem flatten_cells_gridRows {columns : Nat} (h : columns ≤ 12) (contents : List Forest) :
    ((gridRows columns contents).map cells).flatten = contents.map Forest.elements := by
  rw [map_cells_gridRows h, ← List.map_flatten, flatten_chunks (by omega)]

/-- The widest row of a grid with enough cells has all columns. -/
theorem widest_gridRows {columns : Nat} {contents : List Forest} (hlow : 1 ≤ columns)
    (hhigh : columns ≤ 12) (h : columns ≤ contents.length) :
    max ((((gridRows columns contents).map cells).map List.length).foldl max 0) 1 = columns := by
  have hlengths : ((gridRows columns contents).map cells).map List.length =
      (chunks columns contents).map List.length := by
    rw [map_cells_gridRows hhigh, List.map_map, Nat.max_eq_left hlow]
    exact List.map_congr_left fun piece _ => List.length_map _
  rw [hlengths, foldl_max_length_chunks (by omega) h, Nat.max_eq_left hlow]

/-- The cells of a grid that hold one element each are read back as these elements. -/
theorem flatten_cells_single {columns : Nat} (h : columns ≤ 12) {cell : Props → Forest}
    {inside : Props → Element} (hcell : ∀ item, Forest.elements (cell item) = [inside item])
    (items : List Props) :
    ((gridRows columns (items.map cell)).map cells).flatten =
      items.map fun item => [inside item] := by
  rw [flatten_cells_gridRows h, List.map_map]
  exact List.map_congr_left fun item _ => hcell item

end Element

/-! ### Features -/

namespace Template

/-- The attributes of a feature. -/
def featureEntries (title icon : Option String) : List (String × Option String) :=
  [("title", title), ("icon", icon)]

theorem nodup_featureEntries (title icon : Option String) :
    ((featureEntries title icon).map Prod.fst).Nodup := by
  simp [featureEntries]

/-- The description of a feature, which may be empty. -/
def describe (feature : Props) : String :=
  (feature.text? ["description", "text", "content"]).getD ""

/-- The cell of a feature. -/
theorem featureCell_eq (feature : Props) :
    featureCell feature = [richElement ⟨"blurb", attributesOf (featureEntries
      (feature.text? ["title", "name"]) (feature.text? ["icon"]))⟩ (describe feature)] := by
  simp [featureCell, attributesOf, featureEntries, describe]

/-- There are at most six columns in a row of features. -/
theorem columnsPerRow_le (props : Props) (count : Nat) : columnsPerRow props count ≤ 6 := by
  rw [columnsPerRow]
  split
  · omega
  · split
    · exact Nat.min_le_right _ _
    · omega

/-- A number of columns that was stored is found again. -/
theorem columnsPerRow_of_get? {props : Props} {columns : Nat}
    (h : Dict.get? "columns" props = some (.number (Binary64.ofNat columns))) (hlow : 1 ≤ columns)
    (hhigh : columns ≤ 6) (count : Nat) : columnsPerRow props count = columns := by
  have hnumber := Binary64.wholePart_ofNat hlow hhigh
  have hvalue : (props.value? ["columns", "perRow"]).bind Value.number? =
      some (Binary64.ofNat columns) := by
    rw [Props.value?_cons, h]
    rfl
  rw [columnsPerRow, hvalue]
  simp only [hnumber.1, hnumber.2, if_true]
  exact Nat.min_eq_left hhigh

end Template

namespace Element

/-- A feature as an element. -/
def ofFeature (feature : Props) : Element :=
  ⟨⟨"blurb", attributesOf (featureEntries (feature.text? ["title", "name"])
    (feature.text? ["icon"]))⟩, Markup.held (Escape.rich (describe feature).toList)⟩

theorem elements_featureCell (feature : Props) :
    Forest.elements (featureCell feature) = [ofFeature feature] := by
  rw [featureCell_eq]
  rfl

/-- The fields of the record that a feature is read as. -/
def featureFields (blurb : Element) : Props :=
  fieldsOf [
    textField "title" (blurb.attribute? "title"),
    textField "icon" (blurb.attribute? "icon"),
    textField "description" (nonempty? blurb.richText)]

/-- A feature is read with its title, its icon and what is read of its description. -/
theorem featureFields_ofFeature (feature : Props) :
    featureFields (ofFeature feature) = fieldsOf [
      textField "title" (feature.text? ["title", "name"]),
      textField "icon" (feature.text? ["icon"]),
      textField "description" (nonempty? (ofFeature feature).richText)] := by
  have hnodup := nodup_featureEntries (feature.text? ["title", "name"]) (feature.text? ["icon"])
  have htitle : (ofFeature feature).attribute? "title" = feature.text? ["title", "name"] :=
    attribute?_eq hnodup rfl (nonblank?_text? _ feature)
  have hicon : (ofFeature feature).attribute? "icon" = feature.text? ["icon"] :=
    attribute?_eq hnodup rfl (nonblank?_text? _ feature)
  rw [featureFields, htitle, hicon]

/-- A feature with a trimmed description is read as a feature that is written in the same way. -/
theorem featureCell_featureFields {feature : Props}
    (h : IsTrimmed (describe feature).toList) :
    featureCell (featureFields (ofFeature feature)) = featureCell feature := by
  obtain ⟨read, hread, hsame, hback⟩ := exists_richText? h (feature.getD_text? _)
  let fields := [
    textField "title" (feature.text? ["title", "name"]),
    textField "icon" (feature.text? ["icon"]),
    textField "description" read]
  have hnames : fields.map Prod.fst = ["title", "icon", "description"] := rfl
  have hfields : featureFields (ofFeature feature) = fieldsOf fields := by
    rw [featureFields_ofFeature, ofFeature, hback]
  rw [hfields, featureCell_eq, featureCell_eq, describe,
    text?_fieldsOf hnames (v := feature.text? ["title", "name"]) rfl (by decide),
    text?_fieldsOf hnames (v := feature.text? ["icon"]) rfl (by decide),
    text?_fieldsOf hnames (v := read) rfl (by decide),
    nonblank?_text?, nonblank?_text?, hread, richElement, richElement, hsame]

/-- Features are read as a node with a record for each of them. -/
theorem result_toFeatures (blurbs : List Element) (columns limit : Nat) (made : List Kind) :
    (toFeatures blurbs columns).result limit made =
      ([((Node.next made .featureGrid).withProp "features"
        (.list ((blurbs.map featureFields).map Value.record))).withProp "columns"
        (.number (Binary64.ofNat columns))], .featureGrid :: made) := by
  rw [toFeatures, List.map_map]
  rfl

/-- Rows whose cells hold a feature each are read as a node with a record for each of them. -/
theorem result_toGrid_features {rows : List Element} {features : List Props} (hne : features ≠ [])
    (hcells : (rows.map cells).flatten = features.map fun feature => [ofFeature feature])
    (limit : Nat) (made : List Kind) :
    (toGrid rows).result limit made =
      ([((Node.next made .featureGrid).withProp "features"
        (.list (((features.map ofFeature).map featureFields).map Value.record))).withProp "columns"
        (.number (Binary64.ofNat (max (((rows.map cells).map List.length).foldl max 0) 1)))],
        .featureGrid :: made) := by
  have hcontents : (features.map fun feature => [ofFeature feature]).flatten =
      features.map ofFeature := by
    rw [← List.flatMap_def, ← List.map_eq_flatMap]
  have hsome : (features.map ofFeature).isEmpty = false := by
    simpa using hne
  have hblurb : (features.map ofFeature).all (·.name == "blurb") = true := by
    simp [ofFeature, Element.name]
  rw [toGrid]
  simp only [hcells, hcontents, hblurb, hsome, if_true, Bool.false_eq_true, if_false,
    result_toFeatures]

end Element

/-- Rows of features with trimmed descriptions are read as features that are written in the same
way. -/
theorem yields_features {features : List Props} {columns : Nat} (hne : features ≠ [])
    (hlow : 1 ≤ columns) (hhigh : columns ≤ 6) (hcolumns : columns ≤ features.length)
    (h : ∀ feature ∈ features, IsTrimmed (describe feature).toList) :
    Yields (Element.toGrid (gridRows columns (features.map featureCell)))
      [grid columns (features.map featureCell)] := by
  have hfew : columns ≤ 12 := by omega
  have hcells := Element.flatten_cells_single hfew Element.elements_featureCell features
  have hwidest := Element.widest_gridRows hlow hfew
    (hcolumns.trans_eq (List.length_map featureCell).symm)
  let read := (features.map Element.ofFeature).map Element.featureFields
  refine Yields.singleton .featureGrid rfl fun limit made =>
    ⟨((Node.next made .featureGrid).withProp "features"
      (.list (read.map Value.record))).withProp "columns" (.number (Binary64.ofNat columns)),
      ?_, rfl, ?_⟩
  · rw [Element.result_toGrid_features hne hcells, hwidest]
  · have hread : read ≠ [] := by
      simpa [read] using hne
    have hitems : featureItems (((Node.next made .featureGrid).withProp "features"
        (.list (read.map Value.record))).withProp "columns" (.number (Binary64.ofNat columns))) =
          read :=
      records_of_get? (by simp) hread
    have hperRow : columnsPerRow (((Node.next made .featureGrid).withProp "features"
        (.list (read.map Value.record))).withProp "columns"
          (.number (Binary64.ofNat columns))).props read.length = columns :=
      columnsPerRow_of_get? (by simp) hlow hhigh read.length
    have hwritten : read.map featureCell = features.map featureCell := by
      rw [List.map_map, List.map_map]
      exact List.map_congr_left fun feature hfeature =>
        Element.featureCell_featureFields (h feature hfeature)
    rw [Node.markup?]
    simp only [Node.kind_withProp, Node.kind_next, featureGridMarkup?, hitems, hperRow, hwritten]
    rw [if_neg (by simpa using hread), groupTitle_of_get? (by simp [titleNames])]
    rfl

/-! ### Statistics -/

namespace Template

/-- The attributes of a statistic. -/
def statisticEntries (number title : Option String) : List (String × Option String) :=
  [("number", number), ("title", title)]

theorem nodup_statisticEntries (number title : Option String) :
    ((statisticEntries number title).map Prod.fst).Nodup := by
  simp [statisticEntries]

/-- The cell of a statistic. -/
theorem statisticCell_eq (statistic : Props) :
    statisticCell statistic = [.element ⟨"counter", attributesOf (statisticEntries
      (statistic.text? ["value", "number"]) (statistic.text? ["label", "title"]))⟩ []] := by
  simp [statisticCell, attributesOf, statisticEntries]

end Template

namespace Element

/-- A statistic as an element. -/
def ofStatistic (statistic : Props) : Element :=
  ⟨⟨"counter", attributesOf (statisticEntries (statistic.text? ["value", "number"])
    (statistic.text? ["label", "title"]))⟩, []⟩

theorem elements_statisticCell (statistic : Props) :
    Forest.elements (statisticCell statistic) = [ofStatistic statistic] := by
  rw [statisticCell_eq]
  rfl

/-- The fields of the record that a statistic is read as. -/
def statisticFields (counter : Element) : Props :=
  fieldsOf [
    textField "value" (counter.attribute? "number"),
    textField "label" (counter.attribute? "title")]

/-- A statistic is read with its value and its label. -/
theorem statisticFields_ofStatistic (statistic : Props) :
    statisticFields (ofStatistic statistic) = fieldsOf [
      textField "value" (statistic.text? ["value", "number"]),
      textField "label" (statistic.text? ["label", "title"])] := by
  have hnodup := nodup_statisticEntries (statistic.text? ["value", "number"])
    (statistic.text? ["label", "title"])
  rw [statisticFields, ofStatistic, attribute?_eq hnodup rfl (nonblank?_text? _ statistic),
    attribute?_eq hnodup rfl (nonblank?_text? _ statistic)]

/-- A statistic is read as a statistic that is written in the same way. -/
theorem statisticCell_statisticFields (statistic : Props) :
    statisticCell (statisticFields (ofStatistic statistic)) = statisticCell statistic := by
  have hnames : [textField "value" (statistic.text? ["value", "number"]),
    textField "label" (statistic.text? ["label", "title"])].map Prod.fst = ["value", "label"] := rfl
  rw [statisticFields_ofStatistic, statisticCell_eq, statisticCell_eq,
    text?_fieldsOf hnames (v := statistic.text? ["value", "number"]) rfl (by decide),
    text?_fieldsOf hnames (v := statistic.text? ["label", "title"]) rfl (by decide),
    nonblank?_text?, nonblank?_text?]

/-- Statistics are read as a node with a record for each of them. -/
theorem result_toStatistics (counters : List Element) (limit : Nat) (made : List Kind) :
    (toStatistics counters).result limit made =
      ([(Node.next made .statsRow).withProp "stats"
        (.list ((counters.map statisticFields).map Value.record))], .statsRow :: made) := by
  rw [toStatistics, List.map_map]
  rfl

/-- Rows whose cells hold a statistic each are read as a node with a record for each of them. -/
theorem result_toGrid_statistics {rows : List Element} {statistics : List Props}
    (hne : statistics ≠ [])
    (hcells : (rows.map cells).flatten = statistics.map fun statistic => [ofStatistic statistic])
    (limit : Nat) (made : List Kind) :
    (toGrid rows).result limit made =
      ([(Node.next made .statsRow).withProp "stats"
        (.list (((statistics.map ofStatistic).map statisticFields).map Value.record))],
        .statsRow :: made) := by
  have hcontents : (statistics.map fun statistic => [ofStatistic statistic]).flatten =
      statistics.map ofStatistic := by
    rw [← List.flatMap_def, ← List.map_eq_flatMap]
  have hsome : (statistics.map ofStatistic).isEmpty = false := by
    simpa using hne
  have hblurb : (statistics.map ofStatistic).all (·.name == "blurb") = false := by
    obtain ⟨statistic, statistics, rfl⟩ := List.exists_cons_of_ne_nil hne
    rfl
  have hcounter : (statistics.map ofStatistic).all (·.name == "counter") = true := by
    simp [ofStatistic, Element.name]
  rw [toGrid]
  simp only [hcells, hcontents, hblurb, hcounter, hsome, if_true, Bool.false_eq_true, if_false,
    result_toStatistics]

end Element

/-- Rows of statistics are read as statistics that are written in the same way. -/
theorem yields_statistics {statistics : List Props} {columns : Nat} (hne : statistics ≠ [])
    (hcolumns : columns = min statistics.length mostColumns) :
    Yields (Element.toGrid (gridRows columns (statistics.map statisticCell)))
      [grid columns (statistics.map statisticCell)] := by
  have hhigh : columns ≤ 12 := by
    rw [hcolumns, mostColumns]
    omega
  have hcells := Element.flatten_cells_single hhigh Element.elements_statisticCell statistics
  let read := (statistics.map Element.ofStatistic).map Element.statisticFields
  refine Yields.singleton .statsRow rfl fun limit made =>
    ⟨(Node.next made .statsRow).withProp "stats" (.list (read.map Value.record)), ?_, rfl, ?_⟩
  · rw [Element.result_toGrid_statistics hne hcells]
  · have hread : read ≠ [] := by
      simpa [read] using hne
    have hitems : statisticItems ((Node.next made .statsRow).withProp "stats"
        (.list (read.map Value.record))) = read :=
      records_of_get? (by simp) hread
    have hlength : read.length = statistics.length := by simp [read]
    have hwritten : read.map statisticCell = statistics.map statisticCell := by
      rw [List.map_map, List.map_map]
      exact List.map_congr_left fun statistic _ =>
        Element.statisticCell_statisticFields statistic
    rw [Node.markup?]
    simp only [Node.kind_withProp, Node.kind_next, statsRowMarkup?, hitems, hlength, hwritten,
      ← hcolumns]
    rw [if_neg (by simpa using hread)]

/-! ### Columns -/

namespace Template

/-- The title of a column. -/
def columnTitle? (item : Props) : Option String :=
  item.text? titleNames

/-- The text of a column. -/
def columnText? (item : Props) : Option String :=
  item.text? ["content", "text"]

/-- A column with a title and a text, as far as they are there. -/
def columnOf (title body : Option String) : List Forest :=
  (title.map fun title => [heading "3" title]).toList
    ++ (body.map fun body => [textElement body]).toList

theorem columnCell_eq (item : Props) :
    columnCell item = Forest.lines (columnOf (columnTitle? item) (columnText? item)) := rfl

end Template

namespace Element

/-- The title and the text of a column as elements. -/
def ofColumn (item : Props) : List Element :=
  ((columnTitle? item).map fun title =>
    Element.mk ⟨"heading", [("level", "3")]⟩ (Markup.held (Escape.text title.toList))).toList
    ++ ((columnText? item).map fun body =>
      Element.mk ⟨"text", []⟩ (Markup.held (Escape.rich body.toList))).toList

theorem elements_columnCell (item : Props) :
    Forest.elements (columnCell item) = ofColumn item := by
  rw [columnCell_eq, Forest.elements_lines, columnOf, ofColumn]
  cases columnTitle? item <;> cases columnText? item <;> rfl

/-- A column that is not empty has an element. -/
theorem ofColumn_ne_nil {item : Props} (h : columnCell item ≠ []) : ofColumn item ≠ [] := by
  intro hnil
  rw [ofColumn] at hnil
  rw [columnCell_eq, columnOf] at h
  cases htitle : columnTitle? item <;> cases hbody : columnText? item <;>
    simp_all [Forest.lines]

/-- The elements of a column are headings and texts. -/
theorem name_of_mem_ofColumn {item : Props} {element : Element} (h : element ∈ ofColumn item) :
    element.name = "heading" ∨ element.name = "text" := by
  rcases List.mem_append.mp h with h | h
  · obtain ⟨title, -, rfl⟩ := Option.map_eq_some_iff.mp (Option.mem_toList.mp h)
    exact .inl rfl
  · obtain ⟨body, -, rfl⟩ := Option.map_eq_some_iff.mp (Option.mem_toList.mp h)
    exact .inr rfl

/-- The fields of the record that a column is read as. -/
def columnFields (cell : List Element) : Props :=
  fieldsOf [
    textField "title" ((cell.find? fun element => element.name == "heading").bind
      fun heading => nonempty? heading.plainText),
    textField "content" ((cell.find? fun element => element.name == "text").bind
      fun text => nonempty? text.richText)]

/-- The cells of columns are read as records. -/
theorem map_columnRecord (contents : List (List Element)) :
    contents.map columnRecord = (contents.map columnFields).map Value.record := by
  rw [List.map_map]
  rfl

/-- A column is read with what is read of its title and of its text. -/
theorem columnFields_ofColumn (item : Props) :
    columnFields (ofColumn item) = fieldsOf [
      textField "title" (((columnTitle? item).map fun title =>
        Element.mk ⟨"heading", [("level", "3")]⟩ (Markup.held (Escape.text title.toList))).bind
          fun heading => nonempty? heading.plainText),
      textField "content" (((columnText? item).map fun body =>
        Element.mk ⟨"text", []⟩ (Markup.held (Escape.rich body.toList))).bind
          fun text => nonempty? text.richText)] := by
  have hheading : (ofColumn item).find? (fun element => element.name == "heading") =
      (columnTitle? item).map fun title =>
        ⟨⟨"heading", [("level", "3")]⟩, Markup.held (Escape.text title.toList)⟩ := by
    rw [ofColumn]
    cases columnTitle? item <;> cases columnText? item <;> rfl
  have htext : (ofColumn item).find? (fun element => element.name == "text") =
      (columnText? item).map fun body =>
        ⟨⟨"text", []⟩, Markup.held (Escape.rich body.toList)⟩ := by
    rw [ofColumn]
    cases columnTitle? item <;> cases columnText? item <;> rfl
  rw [columnFields, hheading, htext]

/-- A column with trimmed texts is read as a column that is written in the same way. -/
theorem columnCell_columnFields {item : Props} (htitle : IsTrimmedText (columnTitle? item))
    (hbody : IsTrimmedText (columnText? item)) :
    columnCell (columnFields (ofColumn item)) = columnCell item := by
  obtain ⟨read, hread, hsame, hback⟩ :=
    exists_bind_richText_held hbody (nonblank?_text? _ item) ⟨"text", []⟩
  have hplain := bind_plainText_held htitle (nonblank?_text? _ item)
    ⟨"heading", [("level", "3")]⟩
  let fields := [textField "title" (columnTitle? item), textField "content" read]
  have hnames : fields.map Prod.fst = ["title", "content"] := rfl
  have hfields : columnFields (ofColumn item) = fieldsOf fields := by
    rw [columnFields_ofColumn, hplain, hback]
  have hfound : columnTitle? (fieldsOf fields) = columnTitle? item := by
    rw [columnTitle?, titleNames,
      text?_fieldsOf hnames (v := columnTitle? item) rfl (by decide), columnTitle?,
      nonblank?_text?]
  have hfoundText : columnText? (fieldsOf fields) = read := by
    rw [columnText?, text?_fieldsOf hnames (v := read) rfl (by decide), hread]
  have hwritten : (read.map fun body => [textElement body]) =
      (columnText? item).map fun body => [textElement body] := by
    have hlist := congrArg (Option.map fun item : Markup => [item]) hsame
    rw [Option.map_map, Option.map_map] at hlist
    exact hlist
  rw [hfields, columnCell_eq, columnCell_eq, columnOf, hfound, hfoundText, hwritten, columnOf]

/-- What a column does not keep is reported, and nothing else happens. -/
@[simp] theorem result_reportDropped (node : Node) (cells : List (List Element)) (limit : Nat)
    (made : List Kind) : (reportDropped node cells).result limit made = ((), made) := by
  induction cells with
  | nil => rfl
  | cons cell cells ih =>
    rw [reportDropped]
    dsimp only
    split
    · rw [Drafting.result_bind, Drafting.result_note, ih]
    · exact ih

/-- Rows whose cells hold neither features only nor statistics only are read as a node with a record
for each of them. -/
theorem result_toGrid_columns {rows : List Element} {contents : List (List Element)}
    (hcells : (rows.map cells).flatten = contents)
    (hblurb : contents.flatten.all (·.name == "blurb") = false)
    (hcounter : contents.flatten.all (·.name == "counter") = false) (limit : Nat)
    (made : List Kind) :
    (toGrid rows).result limit made =
      ([(Node.next made .columns).withProp "columns"
        (.list ((contents.map columnFields).map Value.record))], .columns :: made) := by
  have hsome : contents.flatten.isEmpty = false := by
    rw [Bool.eq_false_iff, Ne, List.isEmpty_iff]
    intro hnil
    rw [hnil] at hblurb
    exact absurd hblurb (by simp)
  rw [toGrid]
  simp only [hcells, hsome, hblurb, hcounter, Bool.false_eq_true, if_false, Drafting.result_bind,
    Drafting.result_pure, Drafting.result_node, result_reportDropped, map_columnRecord]
  rfl

end Element

/-- A column that is not empty holds a heading or a text, so not all that columns hold has another
name. -/
theorem all_name_ofColumn_eq_false {items : List Props} {item : Props} (hitem : item ∈ items)
    (hcell : columnCell item ≠ []) {name : String} (hname : "heading" ≠ name ∧ "text" ≠ name) :
    (items.map Element.ofColumn).flatten.all (·.name == name) = false := by
  obtain ⟨element, helement⟩ := List.exists_mem_of_ne_nil _ (Element.ofColumn_ne_nil hcell)
  have hmem : element ∈ (items.map Element.ofColumn).flatten :=
    List.mem_flatten.mpr ⟨_, List.mem_map_of_mem hitem, helement⟩
  rw [Bool.eq_false_iff]
  intro hall
  have hsame := beq_iff_eq.mp (List.all_eq_true.mp hall element hmem)
  rcases Element.name_of_mem_ofColumn helement with hkind | hkind
  · exact hname.1 (hkind ▸ hsame)
  · exact hname.2 (hkind ▸ hsame)

/-- Rows of columns, one of which is not empty, with trimmed texts are read as columns that are
written in the same way. -/
theorem yields_columns {items : List Props} {columns : Nat}
    (hcolumns : columns = min items.length mostColumns)
    (hne : ∃ item ∈ items, columnCell item ≠ [])
    (h : ∀ item ∈ items, IsTrimmedText (columnTitle? item) ∧ IsTrimmedText (columnText? item)) :
    Yields (Element.toGrid (gridRows columns (items.map columnCell)))
      [grid columns (items.map columnCell)] := by
  have hhigh : columns ≤ 12 := by
    rw [hcolumns, mostColumns]
    omega
  obtain ⟨shown, hshown, hcell⟩ := hne
  have hitemsne : items ≠ [] := List.ne_nil_of_mem hshown
  have hcells : ((gridRows columns (items.map columnCell)).map Element.cells).flatten =
      items.map Element.ofColumn := by
    rw [Element.flatten_cells_gridRows hhigh, List.map_map]
    exact List.map_congr_left fun item _ => Element.elements_columnCell item
  let read := (items.map Element.ofColumn).map Element.columnFields
  refine Yields.singleton .columns rfl fun limit made =>
    ⟨(Node.next made .columns).withProp "columns" (.list (read.map Value.record)), ?_, rfl, ?_⟩
  · have hother {name : String} (hname : "heading" ≠ name ∧ "text" ≠ name) :=
      all_name_ofColumn_eq_false hshown hcell hname
    rw [Element.result_toGrid_columns hcells (hother (by decide)) (hother (by decide))]
  · have hread : read ≠ [] := by
      simpa [read] using hitemsne
    have hitems : columnItems ((Node.next made .columns).withProp "columns"
        (.list (read.map Value.record))) = read :=
      records_of_get? (by simp) hread
    have hlength : read.length = items.length := by simp [read]
    have hwritten : read.map columnCell = items.map columnCell := by
      rw [List.map_map, List.map_map]
      exact List.map_congr_left fun item hitem =>
        Element.columnCell_columnFields (h item hitem).1 (h item hitem).2
    rw [Node.markup?]
    simp only [Node.kind_withProp, Node.kind_next, columnsMarkup?, hitems, hlength, hwritten,
      ← hcolumns]
    rw [if_neg (by simpa using hread)]

end PageMarkup
