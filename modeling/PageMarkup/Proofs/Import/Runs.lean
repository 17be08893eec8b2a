import Mathlib.Data.List.SplitBy
import PageMarkup.Proofs.Import.Content
import PageMarkup.Proofs.Import.Records

/-!
# Runs of grids

Features, statistics and columns are all written as rows of cells.  The rows of grids that stand
beside one another meet, up to the next grid of features with a title, whose heading keeps them
apart.  So the content of a section of grids is made of parts: for each such run its rows, after the
heading of its first grid.
-/

namespace PageMarkup

open Text Template

/-! ### The markup of grids -/

namespace Template

/-- The heading with the title of a grid. -/
def titleHeading (title : String) : Markup :=
  plainElement ⟨"heading", [("level", "2"), ("align", "center")]⟩ title

/-- A heading above a grid stands on a line before the rows. -/
theorem lines_heading_grid (title : Option String) {columns : Nat} {cells : List Forest}
    (hne : gridRows columns cells ≠ []) :
    Forest.lines ((title.map fun title => [titleHeading title]).toList ++ [grid columns cells]) =
      Forest.lines (((title.map titleHeading).toList ++ (gridRows columns cells).map fun row =>
        Markup.element row.tag row.children).map fun item => [item]) := by
  have hgrid : grid columns cells = Forest.lines (((gridRows columns cells).map fun row =>
      Markup.element row.tag row.children).map fun item => [item]) := by
    rw [grid_eq, List.map_map]
    rfl
  cases title with
  | none => exact hgrid
  | some title =>
    have hrows : ((gridRows columns cells).map fun row =>
        Markup.element row.tag row.children).map (fun item => [item]) ≠ [] := by
      simpa using hne
    calc Forest.lines [[titleHeading title], grid columns cells]
        = [titleHeading title] ++ [Markup.newline] ++ grid columns cells :=
          Forest.lines_cons (List.cons_ne_nil _ _) _
      _ = _ := by
          rw [hgrid]
          exact (Forest.lines_cons hrows [titleHeading title]).symm

end Template

namespace Node

/-- The records of a grid; a node of another kind has none. -/
def gridRecords (node : Node) : List Props :=
  match node.kind with
  | .featureGrid => featureItems node
  | .statsRow => statisticItems node
  | .columns => columnItems node
  | _ => []

/-- The title above a grid, which only a grid of features shows. -/
def gridTitle? (node : Node) : Option String :=
  match node.kind with
  | .featureGrid => node.props.text? titleNames
  | _ => none

/-- A grid has the records that are stored under the name for its kind. -/
theorem gridRecords_of_get? {node : Node} (name : String) (read : List Props)
    (hkind : (node.kind, name) ∈
      [(.featureGrid, "features"), (.statsRow, "stats"), (.columns, "columns")])
    (h : Dict.get? name node.props = some (.list (read.map Value.record))) (hne : read ≠ []) :
    node.gridRecords = read := by
  simp only [List.mem_cons, Prod.mk.injEq, List.not_mem_nil, or_false] at hkind
  rcases hkind with ⟨hkind, rfl⟩ | ⟨hkind, rfl⟩ | ⟨hkind, rfl⟩ <;>
  · rw [gridRecords, hkind]
    exact records_of_get? h hne

/-- The number of columns of a grid. -/
def gridColumns (node : Node) : Nat :=
  match node.kind with
  | .featureGrid => columnsPerRow node.props node.gridRecords.length
  | _ => min node.gridRecords.length mostColumns

/-- The rows of a grid. -/
def gridRows (node : Node) : List Element :=
  Template.gridRows node.gridColumns (node.gridRecords.map node.kind.cell)

/-- The heading and the rows of a grid. -/
def gridMarkup (node : Node) : List Markup :=
  (node.gridTitle?.map titleHeading).toList
    ++ node.gridRows.map fun row => .element row.tag row.children

/-- The node is a grid with a record, and each of its records has a text. -/
structure IsFilledGrid (node : Node) : Prop where
  ne_nil : node.gridRecords ≠ []
  shown : ∀ record ∈ node.gridRecords,
    ∃ names ∈ node.kind.recordTexts, (record.text? names).isSome = true

instance (node : Node) : Decidable node.IsFilledGrid :=
  decidable_of_iff (node.gridRecords ≠ [] ∧ ∀ record ∈ node.gridRecords,
      ∃ names ∈ node.kind.recordTexts, (record.text? names).isSome = true)
    ⟨fun ⟨hne, hshown⟩ => ⟨hne, hshown⟩, fun h => ⟨h.ne_nil, h.shown⟩⟩

variable {node : Node}

/-- There are grids of three kinds. -/
theorem kind_eq_of_gridRecords (h : node.gridRecords ≠ []) :
    node.kind = .featureGrid ∨ node.kind = .statsRow ∨ node.kind = .columns := by
  unfold gridRecords at h
  split at h
  · exact .inl ‹_›
  · exact .inr (.inl ‹_›)
  · exact .inr (.inr ‹_›)
  · exact absurd rfl h

theorem IsFilledGrid.kind_eq (h : node.IsFilledGrid) :
    node.kind = .featureGrid ∨ node.kind = .statsRow ∨ node.kind = .columns :=
  kind_eq_of_gridRecords h.ne_nil

/-- A row of a grid is not too long. -/
theorem gridColumns_le (node : Node) : node.gridColumns ≤ 12 := by
  unfold gridColumns
  split
  · have hfew := columnsPerRow_le node.props node.gridRecords.length
    omega
  · rw [mostColumns]
    omega

/-- A grid with a record has a row. -/
theorem gridRows_ne_nil (h : node.gridRecords ≠ []) : node.gridRows ≠ [] := by
  rw [gridRows, Template.gridRows, Ne, List.map_eq_nil_iff]
  exact chunks_ne_nil (by omega) (by simpa using h)

theorem IsFilledGrid.gridRows_ne_nil (h : node.IsFilledGrid) : node.gridRows ≠ [] :=
  Node.gridRows_ne_nil h.ne_nil

/-- The rows of a grid are rows. -/
theorem name_of_mem_gridRows {row : Element} (h : row ∈ node.gridRows) :
    row.name = "row_inner" := by
  obtain ⟨piece, -, rfl⟩ := List.mem_map.mp h
  rfl

/-- The cells of a grid hold the elements of its records. -/
theorem flatten_cells_gridRows (node : Node) :
    (node.gridRows.map Element.cells).flatten =
      node.gridRecords.map node.kind.cellElements := by
  rw [gridRows, Element.flatten_cells_gridRows node.gridColumns_le, List.map_map]
  exact List.map_congr_left fun record _ => node.kind.elements_cell record

/-- The markup of a grid is its heading and its rows, each on a line. -/
theorem markup?_eq_gridMarkup (h : node.gridRecords ≠ []) :
    node.markup? = some (Forest.lines (node.gridMarkup.map fun item => [item])) := by
  have hlines := lines_heading_grid node.gridTitle? (gridRows_ne_nil h)
  have hsome : node.gridRecords.isEmpty = false := by
    simpa using h
  rw [gridMarkup, gridRows, ← hlines, markup?]
  rcases kind_eq_of_gridRecords h with hkind | hkind | hkind
  · simp only [hkind, featureGridMarkup?, gridTitle?, gridColumns]
    simp only [gridRecords, hkind] at hsome ⊢
    rw [hsome, groupTitle]
    rfl
  · simp only [hkind, statsRowMarkup?, gridTitle?, gridColumns]
    simp only [gridRecords, hkind] at hsome ⊢
    rw [hsome]
    rfl
  · simp only [hkind, columnsMarkup?, gridTitle?, gridColumns]
    simp only [gridRecords, hkind] at hsome ⊢
    rw [hsome]
    rfl

end Node

/-- The content of a section of grids is the markup of the grids, each item on a line. -/
theorem Nodes.content_of_isFilledGrid {nodes : List Node} (h : ∀ node ∈ nodes, node.IsFilledGrid) :
    content nodes = Forest.lines ((nodes.flatMap Node.gridMarkup).map fun item => [item]) := by
  have hne : ∀ group ∈ nodes.map Node.gridMarkup, group ≠ [] := by
    refine List.forall_mem_map.mpr fun node hnode => ?_
    exact List.append_ne_nil_of_right_ne_nil _ (by simpa using (h node hnode).gridRows_ne_nil)
  have hbodies : bodies nodes =
      nodes.map fun node => Forest.lines (node.gridMarkup.map fun item => [item]) := by
    rw [bodies, List.filterMap_congr fun node hnode =>
      Node.markup?_eq_gridMarkup (h node hnode).ne_nil]
    exact congrFun List.filterMap_eq_map nodes
  rw [content, hbodies, List.flatMap_def, ← Forest.lines_lines_items hne, List.map_map]
  rfl

/-! ### Runs of grids -/

namespace Nodes

/-- Grids that stand beside one another, each time up to the next one with a title. -/
def runs (nodes : List Node) : List (List Node) :=
  nodes.splitBy fun _ next => next.gridTitle?.isNone

variable {nodes rest : List Node} {node other : Node}

/-- In a run only the first grid may have a title. -/
theorem gridTitle?_of_mem_runs (h : node :: rest ∈ runs nodes) (hother : other ∈ rest) :
    other.gridTitle? = none := by
  have hchain := List.isChain_of_mem_splitBy h
  have htrans : IsTrans Node fun _ next => next.gridTitle?.isNone = true := ⟨fun _ _ _ _ h => h⟩
  have huntitled := List.rel_of_pairwise_cons (List.isChain_iff_pairwise.mp hchain) hother
  exact Option.isNone_iff_eq_none.mp huntitled

/-- Each run but the first starts with a title. -/
theorem isChain_runs (nodes : List Node) :
    (runs nodes).IsChain fun _ next => ∀ node ∈ next.head?, node.gridTitle?.isSome = true := by
  refine (List.isChain_getLast_head_splitBy _ nodes).imp ?_
  intro _ next ⟨_, hnext, htitle⟩ node hnode
  obtain rfl : next.head hnext = node := by
    rw [List.head?_eq_some_head hnext] at hnode
    exact Option.some.inj hnode
  simpa using htitle

end Nodes

/-- A part of what is read from grids: the title above a run of them, or the one grid that the run
is read as. -/
inductive GridPart where
  | title (text : String)
  | grid (run : List Node)

namespace Nodes

/-- The parts of what is read from a run of grids. -/
def parts (run : List Node) : List GridPart :=
  ((run.head?.bind Node.gridTitle?).map .title).toList ++ [.grid run]

end Nodes

/-- The markup of a part. -/
def GridPart.portion : GridPart → Portion
  | title text => .single (titleHeading text)
  | grid run => .rows (run.flatMap Node.gridRows)

namespace Nodes

/-- The parts of a run have the markup of its grids. -/
theorem flatMap_items_parts {node : Node} {rest : List Node}
    (h : ∀ other ∈ rest, other.gridTitle? = none) :
    ((parts (node :: rest)).map GridPart.portion).flatMap Portion.items =
      (node :: rest).flatMap Node.gridMarkup := by
  have hrest : rest.flatMap Node.gridMarkup =
      (rest.flatMap Node.gridRows).map fun row => Markup.element row.tag row.children := by
    rw [List.map_flatMap]
    refine List.flatMap_congr fun other hother => ?_
    rw [Node.gridMarkup, h other hother]
    rfl
  rw [List.flatMap_cons, hrest, Node.gridMarkup, List.append_assoc, ← List.map_append,
    ← List.flatMap_cons]
  cases htitle : node.gridTitle? <;>
    simp [parts, htitle, GridPart.portion, Portion.items]

/-- The rows of different runs do not meet. -/
theorem areApart_parts (nodes : List Node) :
    Portion.AreApart (((runs nodes).flatMap parts).map GridPart.portion) := by
  have hnil : [] ∉ (runs nodes).map fun run => (parts run).map GridPart.portion := by
    simp [parts]
  have hnext := isChain_runs nodes
  rw [List.map_flatMap, List.flatMap_def, Portion.AreApart, List.isChain_flatten hnil,
    List.isChain_map]
  refine ⟨fun group hgroup => ?_, hnext.imp_of_mem_imp fun before after _ hafter htitled => ?_⟩
  · obtain ⟨run, -, rfl⟩ := List.mem_map.mp hgroup
    cases htitle : run.head?.bind Node.gridTitle? <;>
      simp [parts, htitle, GridPart.portion, Portion.isRows]
  · -- The run after starts with a title, so what stands at its border is no row.
    intro last _ first hfirst hrows
    obtain ⟨node, rest, rfl⟩ :=
      List.exists_cons_of_ne_nil (List.ne_nil_of_mem_splitBy hafter)
    obtain ⟨title, htitle⟩ := Option.isSome_iff_exists.mp (htitled node rfl)
    have hheading : first = .single (titleHeading title) := by
      simpa [parts, htitle, GridPart.portion, eq_comm] using hfirst
    rw [hheading] at hrows
    exact absurd hrows.2 (by simp [Portion.isRows])

end Nodes

end PageMarkup
