import PageMarkup.Proofs.Import.Page
import PageMarkup.Proofs.Import.Runs

/-!
# Grids beside one another are read back

Rows that follow one another are read as one grid.  So of a run of grids one grid is made, with a
record for each of their records, in order; it is of their kind if they all are of one kind, and
otherwise it is of columns.  Grids that are kept apart by titles are read back one by one.
-/

namespace PageMarkup

open Text Template

/-! ### Reading grids -/

namespace Nodes

/-- The records of grids, each with the kind of its grid. -/
def gridRecords (run : List Node) : List (Kind × Props) :=
  run.flatMap fun node => node.gridRecords.map (Prod.mk node.kind)

/-- The elements in the cells of grids. -/
def cellElements (run : List Node) : List (List Element) :=
  (gridRecords run).map fun source => source.1.cellElements source.2

/-- The kind of the grid that a run of grids is read as: theirs if they all are of features or all
of statistics, and otherwise columns. -/
def mergedKind (run : List Node) : Kind :=
  if run.all (·.kind == .featureGrid) then .featureGrid
  else if run.all (·.kind == .statsRow) then .statsRow
  else .columns

end Nodes

/-- The node is read from a part: a heading from a title, and one grid from a run of grids, with the
records of all of them. -/
def GridPart.IsReadAs : GridPart → Node → Prop
  | title text, node => node.kind = .heading ∧
      Dict.get? "title" node.props = some (.text (trimmed text))
  | grid run, node => node.kind = Nodes.mergedKind run ∧
      List.Forall₂ (IsReadBack node.kind) (Nodes.gridRecords run) node.gridRecords

/-- The kind of the node that is read from a part. -/
def GridPart.kind : GridPart → Kind
  | title _ => .heading
  | grid run => Nodes.mergedKind run

theorem GridPart.IsReadAs.kind_eq {part : GridPart} {node : Node} (h : part.IsReadAs node) :
    node.kind = part.kind := by
  cases part with
  | title text => exact h.1
  | grid run => exact h.1

/-- The nodes that are read from some parts are of their kinds. -/
theorem GridPart.map_kind_eq {parts : List GridPart} {read : List Node}
    (h : List.Forall₂ GridPart.IsReadAs parts read) :
    read.map Node.kind = parts.map GridPart.kind := by
  rw [eq_comm, ← List.forall₂_eq_eq_eq, List.forall₂_map_left_iff, List.forall₂_map_right_iff]
  exact h.imp fun part node hpart => hpart.kind_eq.symm

/-- The computation makes a node for each of some parts, in order. -/
def Gives (x : Drafting (List Node)) (parts : List GridPart) : Prop :=
  ∀ limit made, List.Forall₂ GridPart.IsReadAs parts (x.result limit made).1

/-- Computations one after another make the nodes for the parts of each. -/
theorem isSequential_gives : IsSequential Gives where
  nil _ _ := .nil
  append := by
    intro x y z before here after hbefore hhere hafter limit made
    simp only [Drafting.result_bind, Drafting.result_pure]
    exact List.rel_append (List.rel_append (hbefore _ _) (hhere _ _)) (hafter _ _)

/-- From a title a heading is read. -/
theorem gives_title {title : String} (h : allBlank title.toList = false) :
    Gives (titleHeading title).toNodes [.title title] := by
  intro limit made
  let element : Element := ⟨⟨"heading", [("level", "2"), ("align", "center")]⟩,
    Markup.held (Escape.text title.toList)⟩
  have hnodes : (titleHeading title).toNodes = element.toHeading := by
    rw [titleHeading, plainElement, Markup.holding, ← Markup.held,
      Markup.toNodes_element (by decide)]
    rfl
  have hread : Element.nonempty? element.plainText = some (trimmed title) := by
    rw [Element.plainText_held]
    exact Element.nonempty?_eq_some (by rw [trimmed, String.toList_ofList, allBlank_trim, h])
  rw [hnodes, Element.result_toHeading hread]
  exact .cons ⟨by simp, by simp⟩ .nil

namespace Nodes

variable {run : List Node}

/-- The cells of grids hold the elements of their records. -/
theorem flatten_cells_gridRows (run : List Node) :
    ((run.flatMap Node.gridRows).map Element.cells).flatten = cellElements run := by
  induction run with
  | nil => rfl
  | cons node run ih =>
    have hrecords : gridRecords (node :: run) =
        node.gridRecords.map (Prod.mk node.kind) ++ gridRecords run :=
      List.flatMap_cons
    rw [List.flatMap_cons, List.map_append, List.flatten_append, ih, node.flatten_cells_gridRows,
      cellElements, cellElements, hrecords, List.map_append, List.map_map]
    rfl

/-- The records of grids of one kind. -/
theorem gridRecords_of_kind {kind : Kind} (h : ∀ node ∈ run, node.kind = kind) :
    gridRecords run = (run.flatMap Node.gridRecords).map (Prod.mk kind) := by
  rw [gridRecords, List.map_flatMap]
  exact List.flatMap_congr fun node hnode => by rw [h node hnode]

/-- Where a record of a kind is one element, so is each cell of grids of that kind. -/
theorem flatten_cells_of_kind {kind : Kind} {written : Props → Element}
    (hkind : ∀ record, kind.cellElements record = [written record])
    (h : ∀ node ∈ run, node.kind = kind) :
    ((run.flatMap Node.gridRows).map Element.cells).flatten =
      (run.flatMap Node.gridRecords).map fun record => [written record] := by
  rw [flatten_cells_gridRows, cellElements, gridRecords_of_kind h, List.map_map]
  exact List.map_congr_left fun record _ => hkind record

/-- Grids are of one kind if all elements in their cells have a name that stands in cells of that
kind only. -/
theorem kind_of_name {kind : Kind} {name : String}
    (hname : ∀ {other record element}, element ∈ Kind.cellElements other record →
      element.name = name → other = kind)
    (h : ∀ node ∈ run, node.IsFilledGrid)
    (hall : (cellElements run).flatten.all (·.name == name) = true) :
    run.all (·.kind == kind) = true := by
  rw [List.all_eq_true]
  intro node hnode
  obtain ⟨record, hrecord⟩ := List.exists_mem_of_ne_nil _ (h node hnode).ne_nil
  obtain ⟨element, helement⟩ := List.exists_mem_of_ne_nil _
    (Kind.cellElements_ne_nil ((h node hnode).shown record hrecord))
  have hsource : (node.kind, record) ∈ gridRecords run :=
    List.mem_flatMap.mpr ⟨node, hnode, List.mem_map_of_mem hrecord⟩
  have hmem : element ∈ (cellElements run).flatten :=
    List.mem_flatten.mpr ⟨_, List.mem_map.mpr ⟨_, hsource, rfl⟩, helement⟩
  exact beq_iff_eq.mpr (hname helement (beq_iff_eq.mp (List.all_eq_true.mp hall element hmem)))

/-- A run of grids has a record. -/
theorem flatMap_gridRecords_ne_nil (hne : run ≠ []) (h : ∀ node ∈ run, node.IsFilledGrid) :
    run.flatMap Node.gridRecords ≠ [] := by
  obtain ⟨node, hnode⟩ := List.exists_mem_of_ne_nil run hne
  intro hnil
  exact (h node hnode).ne_nil (List.flatMap_eq_nil_iff.mp hnil node hnode)

/-- A run of features is read as features. -/
theorem gives_features (hne : run ≠ []) (h : ∀ node ∈ run, node.IsFilledGrid)
    (hall : run.all (·.kind == .featureGrid) = true) :
    Gives (Element.toGrid (run.flatMap Node.gridRows)) [.grid run] := by
  intro limit made
  have hkinds : ∀ node ∈ run, node.kind = .featureGrid := fun node hnode =>
    beq_iff_eq.mp (List.all_eq_true.mp hall node hnode)
  have hsome := flatMap_gridRecords_ne_nil hne h
  rw [Element.result_toGrid_features hsome (flatten_cells_of_kind (fun _ => rfl) hkinds)]
  refine .cons ⟨by simp [mergedKind, hall], ?_⟩ .nil
  rw [Node.gridRecords_of_get? "features" (((run.flatMap Node.gridRecords).map
    Element.ofFeature).map Element.featureFields) (by simp) (by simp) (by simpa using hsome),
    gridRecords_of_kind hkinds]
  simp only [Node.kind_withProp, Node.kind_next, List.forall₂_map_left_iff,
    List.forall₂_map_right_iff, List.forall₂_same]
  exact fun feature _ => Element.isReadBack_featureFields feature

/-- A run of statistics is read as statistics. -/
theorem gives_statistics (hne : run ≠ []) (h : ∀ node ∈ run, node.IsFilledGrid)
    (hall : run.all (·.kind == .statsRow) = true) :
    Gives (Element.toGrid (run.flatMap Node.gridRows)) [.grid run] := by
  intro limit made
  have hkinds : ∀ node ∈ run, node.kind = .statsRow := fun node hnode =>
    beq_iff_eq.mp (List.all_eq_true.mp hall node hnode)
  have hsome := flatMap_gridRecords_ne_nil hne h
  have hnone : run.all (·.kind == .featureGrid) = false := by
    obtain ⟨node, hnode⟩ := List.exists_mem_of_ne_nil run hne
    rw [List.all_eq_false]
    refine ⟨node, hnode, ?_⟩
    rw [hkinds node hnode]
    decide
  rw [Element.result_toGrid_statistics hsome (flatten_cells_of_kind (fun _ => rfl) hkinds)]
  refine .cons ⟨by simp [mergedKind, hall, hnone], ?_⟩ .nil
  rw [Node.gridRecords_of_get? "stats" (((run.flatMap Node.gridRecords).map
    Element.ofStatistic).map Element.statisticFields) (by simp) (by simp) (by simpa using hsome),
    gridRecords_of_kind hkinds]
  simp only [Node.kind_withProp, Node.kind_next, List.forall₂_map_left_iff,
    List.forall₂_map_right_iff, List.forall₂_same]
  exact fun statistic _ => Element.isReadBack_statisticFields statistic

/-- A run that is not of features only or of statistics only is read as columns. -/
theorem gives_columns (hne : run ≠ []) (h : ∀ node ∈ run, node.IsFilledGrid)
    (hfeatures : run.all (·.kind == .featureGrid) = false)
    (hstatistics : run.all (·.kind == .statsRow) = false) :
    Gives (Element.toGrid (run.flatMap Node.gridRows)) [.grid run] := by
  intro limit made
  have hblurb : (cellElements run).flatten.all (·.name == "blurb") = false := by
    rw [Bool.eq_false_iff]
    intro hall
    exact absurd (kind_of_name Kind.eq_featureGrid_of_name h hall) (by simp [hfeatures])
  have hcounter : (cellElements run).flatten.all (·.name == "counter") = false := by
    rw [Bool.eq_false_iff]
    intro hall
    exact absurd (kind_of_name Kind.eq_statsRow_of_name h hall) (by simp [hstatistics])
  have hsome : gridRecords run ≠ [] := by
    obtain ⟨node, hnode⟩ := List.exists_mem_of_ne_nil run hne
    intro hnil
    have hnothing := List.flatMap_eq_nil_iff.mp hnil node hnode
    exact (h node hnode).ne_nil (List.map_eq_nil_iff.mp hnothing)
  rw [Element.result_toGrid_columns (flatten_cells_gridRows run) hblurb hcounter]
  refine .cons ⟨by simp [mergedKind, hfeatures, hstatistics], ?_⟩ .nil
  rw [Node.gridRecords_of_get? "columns" ((cellElements run).map Element.columnFields) (by simp)
    (by simp) (by simpa [cellElements] using hsome)]
  simp only [Node.kind_withProp, Node.kind_next, cellElements, List.forall₂_map_right_iff,
    List.forall₂_same]
  exact fun source _ => Element.isReadBack_columnFields source.1 source.2

/-- Whatever grids a run is made of, it is read as one grid. -/
theorem gives_grid (hne : run ≠ []) (h : ∀ node ∈ run, node.IsFilledGrid) :
    Gives (Element.toGrid (run.flatMap Node.gridRows)) [.grid run] := by
  cases hfeatures : run.all (·.kind == .featureGrid) with
  | true => exact gives_features hne h hfeatures
  | false =>
    cases hstatistics : run.all (·.kind == .statsRow) with
    | true => exact gives_statistics hne h hstatistics
    | false => exact gives_columns hne h hfeatures hstatistics

/-- A title is not blank. -/
theorem allBlank_of_gridTitle? {node : Node} {title : String}
    (h : node.gridTitle? = some title) : allBlank title.toList = false := by
  unfold Node.gridTitle? at h
  split at h
  · exact Props.allBlank_of_text? h
  · exact absurd h (by simp)

/-- Each part of a run has its shape and is read. -/
theorem gives_of_mem_parts (hne : run ≠ []) (h : ∀ node ∈ run, node.IsFilledGrid)
    {part : GridPart} (hpart : part ∈ parts run) :
    part.portion.IsShaped ∧ Gives part.portion.toNodes [part] := by
  rcases List.mem_append.mp hpart with htitle | hgrid
  · obtain ⟨title, hfound, rfl⟩ := Option.map_eq_some_iff.mp (Option.mem_toList.mp htitle)
    obtain ⟨node, -, hnode⟩ := Option.bind_eq_some_iff.mp hfound
    rw [GridPart.portion, Portion.toNodes]
    exact ⟨⟨rfl, rfl⟩, gives_title (allBlank_of_gridTitle? hnode)⟩
  · obtain rfl := List.mem_singleton.mp hgrid
    obtain ⟨node, hnode⟩ := List.exists_mem_of_ne_nil run hne
    refine ⟨⟨?_, fun row hrow => ?_⟩, gives_grid hne h⟩
    · intro hnil
      exact (h node hnode).gridRows_ne_nil (List.flatMap_eq_nil_iff.mp hnil node hnode)
    · obtain ⟨other, -, hother⟩ := List.mem_flatMap.mp hrow
      exact Node.name_of_mem_gridRows hother

/-- The inside of a section of grids is read part by part. -/
theorem gives_skeleton {nodes : List Node} (h : ∀ node ∈ nodes, node.IsFilledGrid) :
    Gives (Forest.toNodes [.element fullRow [.block fullColumn (content nodes)]])
      ((runs nodes).flatMap parts) := by
  have hrun : ∀ run ∈ runs nodes, ∀ node ∈ run, node.IsFilledGrid := fun run hrun node hnode =>
    h node (List.flatten_splitBy _ nodes ▸ List.mem_flatten.mpr ⟨run, hrun, hnode⟩)
  have hparts : List.Forall₂ (fun portion part => portion.IsShaped ∧ Gives portion.toNodes [part])
      (((runs nodes).flatMap parts).map GridPart.portion) ((runs nodes).flatMap parts) := by
    rw [List.forall₂_map_left_iff, List.forall₂_same]
    intro part hpart
    obtain ⟨run, hmem, hpart⟩ := List.mem_flatMap.mp hpart
    exact gives_of_mem_parts (List.ne_nil_of_mem_splitBy hmem) (hrun run hmem) hpart
  have hitems : (((runs nodes).flatMap parts).map GridPart.portion).flatMap Portion.items =
      nodes.flatMap Node.gridMarkup := by
    have hone : ∀ run ∈ runs nodes, ((parts run).map GridPart.portion).flatMap Portion.items =
        run.flatMap Node.gridMarkup := by
      intro run hmem
      obtain ⟨node, rest, rfl⟩ := List.exists_cons_of_ne_nil (List.ne_nil_of_mem_splitBy hmem)
      exact flatMap_items_parts fun other hother => gridTitle?_of_mem_runs hmem hother
    -- the runs are the grids again, so nothing is lost between two of them
    have hflatten : (runs nodes).flatMap id = nodes :=
      List.flatten_eq_flatMap.symm.trans (List.flatten_splitBy _ nodes)
    conv_rhs => rw [← hflatten, List.flatMap_assoc]
    rw [List.map_flatMap, List.flatMap_assoc, List.flatMap_congr hone]
    rfl
  have hall := isSequential_gives.skeleton hparts (areApart_parts nodes)
  rw [hitems] at hall
  rw [content_of_isFilledGrid h]
  exact hall

/-! ### Grids that are kept apart -/

/-- Grids that all have a title but the first are runs of their own. -/
theorem runs_of_titled {nodes : List Node}
    (h : ∀ node ∈ nodes.tail, node.gridTitle?.isSome = true) :
    runs nodes = nodes.map fun node => [node] := by
  have hchain : nodes.IsChain fun _ next => next.gridTitle?.isSome = true := by
    cases nodes with
    | nil => exact .nil
    | cons node nodes =>
      induction nodes generalizing node with
      | nil => exact .singleton node
      | cons next nodes ih =>
        exact .cons_cons (h next List.mem_cons_self)
          (ih next fun other hother => h other (List.mem_cons_of_mem next hother))
  rw [runs, List.splitBy_eq_iff, List.isChain_map]
  refine ⟨?_, by simp, ?_, hchain.imp fun _ next htitle => ?_⟩
  · rw [← List.flatMap_def, ← List.map_eq_flatMap, List.map_id']
  · exact List.forall_mem_map.mpr fun node _ => .singleton node
  · exact ⟨List.cons_ne_nil _ _, List.cons_ne_nil _ _, by simpa using htitle⟩

/-- A grid on its own is read as one of its kind. -/
theorem mergedKind_singleton {node : Node} (h : node.IsFilledGrid) :
    mergedKind [node] = node.kind := by
  rcases h.kind_eq with hkind | hkind | hkind <;> simp [mergedKind, hkind]

/-- Grids that are kept apart are read as grids of their kinds, each after a heading if it has a
title. -/
theorem map_kind_of_titled {nodes read : List Node} (h : ∀ node ∈ nodes, node.IsFilledGrid)
    (htitled : ∀ node ∈ nodes.tail, node.gridTitle?.isSome = true)
    (hread : List.Forall₂ GridPart.IsReadAs ((runs nodes).flatMap parts) read) :
    read.map Node.kind =
      nodes.flatMap fun node => (node.gridTitle?.map fun _ => .heading).toList ++ [node.kind] := by
  have hpart : ∀ node ∈ nodes, (parts [node]).map GridPart.kind =
      (node.gridTitle?.map fun _ => .heading).toList ++ [node.kind] := by
    intro node hnode
    rw [← mergedKind_singleton (h node hnode)]
    cases htitle : node.gridTitle? <;> simp [parts, htitle, GridPart.kind]
  rw [GridPart.map_kind_eq hread, runs_of_titled htitled, List.flatMap_map, List.map_flatMap]
  exact List.flatMap_congr hpart

end Nodes

/-! ### Sections of grids -/

namespace Import

/-- A page of one section is read as one section, which holds what is read inside it. -/
theorem exists_page_of_render {part : Outline} (h : part.IsProper) {content : String}
    (hcontent : content.toList = (Outline.page [part]).render)
    (hread : Forest.read content.toList = Outline.page [part]) (limit : Nat) :
    ∃ node made, ((page content).result limit).topLevel = [node] ∧ node.kind = .section ∧
      ((page content).result limit).children node Zone.content =
        ((Forest.toNodes [.element fullRow [.block fullColumn
          (Nodes.content part.nodes)]]).result limit made).1 := by
  have hproper : ∀ other ∈ [part], other.IsProper := by simpa using h
  let style := (Background.harvest content.toList).result limit
  obtain ⟨color, image, padding, -, -, -, -, hstep⟩ :=
    exists_result_placeForest_element style limit h
  let node := sectionDraft [] color image padding
  refine ⟨node, [.section], ?_, by simp [node, sectionDraft], ?_⟩
  all_goals
    rw [result_page_of_render hproper hcontent hread,
      result_placeForest_page_cons style limit part [] fun items => hstep items .empty []]
  · exact Document.topLevel_pushAll _ _ _
  · exact Document.zone?_pushAll_self _ _ _

/-- The section of a document that has nothing but a section of grids. -/
theorem outline_of_topLevel {doc : Document} {node : Node} (htop : doc.topLevel = [node])
    (hkind : node.kind = .section)
    (h : ∀ grid ∈ doc.children node Zone.content, grid.IsFilledGrid) :
    doc.outline = [⟨some node, doc.children node Zone.content⟩] := by
  have hsection : ∀ other ∈ doc.topLevel, other.kind.isStructural = true := by
    simpa [htop] using Kind.isStructural_iff.mpr hkind
  have hcontent : ∀ grid ∈ (doc.zone? node.contentKey).getD [],
      grid.kind.isStructural = false := by
    intro grid hgrid
    rcases (h grid hgrid).kind_eq with hgridKind | hgridKind | hgridKind <;> rw [hgridKind] <;> rfl
  rw [Document.outline, doc.outlineFrom_of_isStructural hsection, htop, List.map_singleton,
    doc.reached_of_isContent hcontent]
  rfl

/-- The markup of a section of grids is read as a section with the parts of the runs of grids. -/
theorem exists_topLevel_of_grids (doc : Document) {node : Node} (htop : doc.topLevel = [node])
    (hkind : node.kind = .section)
    (hgrids : ∀ grid ∈ doc.children node Zone.content, grid.IsFilledGrid)
    (published imported : Nat) :
    let read := (page (doc.compile.result published)).result imported
    ∃ top, read.topLevel = [top] ∧ top.kind = .section ∧
      List.Forall₂ GridPart.IsReadAs
        ((Nodes.runs (doc.children node Zone.content)).flatMap Nodes.parts)
        (read.children top Zone.content) := by
  intro read
  have houtline := outline_of_topLevel htop hkind hgrids
  have hproper : Outline.IsProper ⟨some node, doc.children node Zone.content⟩ :=
    doc.isProper_of_mem_outline (by rw [houtline]; exact List.mem_singleton_self _)
  have htext := doc.toList_compile published
  have hback := doc.read_compile published
  rw [houtline] at htext hback
  obtain ⟨top, made, htopRead, hsection, hinside⟩ :=
    exists_page_of_render hproper htext hback imported
  refine ⟨top, htopRead, hsection, ?_⟩
  rw [hinside]
  exact Nodes.gives_skeleton hgrids imported made

/-- The markup of a section of grids is read as a section that holds for each run of them, in order,
the heading of its title and one grid with the records of them all.  If every grid but the first has
a title, the kinds of the grids are kept. -/
theorem page_compile_neighbours (doc : Document) {node : Node} (htop : doc.topLevel = [node])
    (hkind : node.kind = .section)
    (hgrids : ∀ grid ∈ doc.children node Zone.content, grid.IsFilledGrid)
    (published imported : Nat) :
    let grids := doc.children node Zone.content
    let read := (page (doc.compile.result published)).result imported
    ∃ top, read.topLevel = [top] ∧ top.kind = .section ∧
      List.Forall₂ GridPart.IsReadAs ((Nodes.runs grids).flatMap Nodes.parts)
        (read.children top Zone.content) ∧
      ((∀ grid ∈ grids.tail, grid.gridTitle?.isSome = true) →
        (read.children top Zone.content).map Node.kind =
          grids.flatMap fun grid =>
            (grid.gridTitle?.map fun _ => .heading).toList ++ [grid.kind]) := by
  intro grids read
  obtain ⟨top, htopRead, hsection, hread⟩ :=
    exists_topLevel_of_grids doc htop hkind hgrids published imported
  exact ⟨top, htopRead, hsection, hread, fun htitled =>
    Nodes.map_kind_of_titled hgrids htitled hread⟩

/-- A section with a row of one statistic and the grids in `others`. -/
def besideStatistic (others : List Node) : Document :=
  ⟨[], [⟨.section, "s1", []⟩],
    [("s1:content",
      ⟨.statsRow, "a", [("stats", .list [.record [("value", .text "0")]])]⟩ :: others)]⟩

/-- Features with a title. -/
def titledFeatures : Node :=
  ⟨.featureGrid, "b", [("features", .list [.record [("title", .text "Fast")],
    .record [("icon", .text "lock"), ("name", .text "Safe")]]), ("title", .text " Why ")]⟩

/-- A row of two statistics. -/
def twoStatistics : Node :=
  ⟨.statsRow, "b", [("stats", .list [.record [("value", .text "0")],
    .record [("value", .text "1")]])]⟩

/-- Features with a title are kept apart from the statistic before them. -/
theorem page_compile_besideFeatures :
    let doc := besideStatistic [titledFeatures]
    let read := (page (doc.compile.result 512)).result 512
    (∀ grid ∈ doc.children ⟨.section, "s1", []⟩ Zone.content, grid.IsFilledGrid) ∧
      ∃ top, read.topLevel = [top] ∧
        (read.children top Zone.content).map Node.kind = [.statsRow, .heading, .featureGrid] := by
  have hgrids : ∀ grid ∈ (besideStatistic [titledFeatures]).children ⟨.section, "s1", []⟩
      Zone.content, grid.IsFilledGrid := by
    decide +kernel
  obtain ⟨top, htop, -, -, hkinds⟩ :=
    page_compile_neighbours (besideStatistic [titledFeatures]) rfl rfl hgrids 512 512
  exact ⟨hgrids, top, htop, (hkinds (by decide +kernel)).trans (by decide +kernel)⟩

/-- A row of statistics is not kept apart from the one before it. -/
theorem page_compile_besideStatistics :
    let doc := besideStatistic [twoStatistics]
    let read := (page (doc.compile.result 512)).result 512
    (∀ grid ∈ doc.children ⟨.section, "s1", []⟩ Zone.content, grid.IsFilledGrid) ∧
      ¬ ∃ top ∈ read.topLevel, (read.children top Zone.content).map Node.kind =
        (doc.children ⟨.section, "s1", []⟩ Zone.content).map Node.kind := by
  have hgrids : ∀ grid ∈ (besideStatistic [twoStatistics]).children ⟨.section, "s1", []⟩
      Zone.content, grid.IsFilledGrid := by
    decide +kernel
  refine ⟨hgrids, fun ⟨top, htop, hkinds⟩ => ?_⟩
  obtain ⟨only, honly, -, hread⟩ :=
    exists_topLevel_of_grids (besideStatistic [twoStatistics]) rfl rfl hgrids 512 512
  rw [honly] at htop
  obtain rfl := List.mem_singleton.mp htop
  rw [GridPart.map_kind_eq hread] at hkinds
  exact absurd hkinds (by decide +kernel)

end Import

end PageMarkup
