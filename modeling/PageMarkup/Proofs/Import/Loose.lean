import PageMarkup.Proofs.Import.LineEnds
import PageMarkup.Proofs.Import.Placing
import PageMarkup.Proofs.Import.Steps

/-!
# Markup outside of sections

What stands outside of sections is read item by item, and what stands in a section as a whole, where
rows that follow one another are one grid.  Both give the same nodes, with the same ids, as long as
no two rows follow one another: the section takes no number from other nodes, its row and its column
only arrange, and the line ends around what it holds are passed over.  Where two rows with something
in their cells follow one another, there is a node more outside of sections.
-/

namespace PageMarkup

open Text

/-! ### Items of a forest -/

namespace Markup

/-- The item is a blank text, which is layout. -/
def isBlankText : Markup → Bool
  | text content => allBlank content.toList
  | element _ _ => false

/-- The item is a row with an element in one of its cells. -/
def isFilledRow : Markup → Bool
  | text _ => false
  | element tag children =>
    tag.name == "row_inner" && !(Element.cells ⟨tag, children⟩).flatten.isEmpty

variable {item : Markup} (rows : List Element) (items : List Markup)

/-- At the end of a forest its last rows are read. -/
theorem toNodesAll_nil : toNodesAll rows [] = Element.flush rows := by
  rw [toNodesAll]

/-- A blank text is passed over. -/
theorem toNodesAll_cons_of_isBlankText (h : item.isBlankText = true) :
    toNodesAll rows (item :: items) = toNodesAll rows items := by
  cases item with
  | text content => exact if_pos h
  | element tag children => exact absurd h (by simp [isBlankText])

/-- A row is kept until something else follows. -/
theorem toNodesAll_cons_of_isRow (h : item.isRow = true) :
    ∃ row, (item.isFilledRow = !row.cells.flatten.isEmpty) ∧
      ∀ rows items, toNodesAll rows (item :: items) = toNodesAll (rows ++ [row]) items := by
  cases item with
  | text content => exact absurd h (by simp [isRow])
  | element tag children =>
    refine ⟨⟨tag, children⟩, ?_, fun rows items => if_pos h⟩
    rw [isFilledRow, show (tag.name == "row_inner") = true from h, Bool.true_and]

/-- Everything else is read after the rows that stand before it. -/
theorem toNodesAll_cons (hblank : item.isBlankText = false) (hrow : item.isRow = false) :
    toNodesAll rows (item :: items) = do
      let before ← Element.flush rows
      let here ← toNodes item
      return before ++ here ++ (← toNodesAll [] items) := by
  cases item with
  | text content => exact if_neg (by simpa [isBlankText] using hblank)
  | element tag children => exact if_neg (by simpa [isRow] using hrow)

theorem isRow_of_isFilledRow (h : item.isFilledRow = true) : item.isRow = true := by
  cases item with
  | text content => exact absurd h (by simp [isFilledRow])
  | element tag children => exact (Bool.and_eq_true_iff.mp h).1

end Markup

namespace Forest

/-- The items of a forest that are no blank texts. -/
def shown (forest : Forest) : List Markup :=
  forest.filter fun item => !item.isBlankText

theorem shown_cons_of_isBlankText {item : Markup} (h : item.isBlankText = true)
    (items : List Markup) : shown (item :: items) = shown items :=
  List.filter_cons_of_neg (by simp [h])

theorem shown_cons {item : Markup} (h : item.isBlankText = false) (items : List Markup) :
    shown (item :: items) = item :: shown items :=
  List.filter_cons_of_pos (by simp [h])

/-- No two items of a sort follow one another, blank texts apart. -/
def Apart (sort : Markup → Bool) (forest : Forest) : Prop :=
  forest.shown.IsChain fun before after => ¬ (sort before = true ∧ sort after = true)

instance (sort : Markup → Bool) (forest : Forest) : Decidable (forest.Apart sort) :=
  inferInstanceAs (Decidable (List.IsChain _ _))

/-! ### Items one by one -/

/-- The nodes of a forest whose items are read one by one. -/
def toLooseNodes : Forest → Drafting (List Node)
  | [] => return []
  | item :: items => do
    let here ← toNodes [item]
    return here ++ (← toLooseNodes items)

/-- Items are read one by one in fixed steps. -/
theorem isStepwise_toLooseNodes (forest : Forest) : Drafting.IsStepwise forest.toLooseNodes := by
  induction forest with
  | nil => exact Drafting.isStepwise_nil
  | cons item items ih => exact (isStepwise_toNodes [item]).andThen ih

section Results

variable (limit : Nat) (made : List Kind)

/-- Rows that no row follows are a grid of their own. -/
theorem result_toNodesAll_of_head? {items : List Markup} (rows : List Element)
    (h : ∀ item ∈ (shown items).head?, item.isRow = false) :
    (Markup.toNodesAll rows items).result limit made = Drafting.result limit made (do
      let before ← Element.flush rows
      return before ++ (← Markup.toNodesAll [] items)) := by
  induction items with
  | nil => simp [Markup.toNodesAll_nil, Element.flush_nil]
  | cons item items ih =>
    cases hblank : item.isBlankText with
    | true =>
      rw [shown_cons_of_isBlankText hblank] at h
      rw [Markup.toNodesAll_cons_of_isBlankText rows items hblank,
        Markup.toNodesAll_cons_of_isBlankText [] items hblank]
      exact ih h
    | false =>
      rw [shown_cons hblank] at h
      have hrow : item.isRow = false := h item rfl
      simp [Markup.toNodesAll_cons _ items hblank hrow, Element.flush_nil]

/-- A forest in which no two rows follow one another is read as its items are one by one. -/
theorem result_toLooseNodes {forest : Forest} (h : forest.Apart Markup.isRow) :
    forest.toLooseNodes.result limit made = forest.toNodes.result limit made := by
  rw [toNodes]
  induction forest generalizing made with
  | nil => rfl
  | cons item items ih =>
    rw [Apart] at h
    rw [toLooseNodes, Drafting.result_bind, Drafting.result_bind, toNodes]
    cases hblank : item.isBlankText with
    | true =>
      rw [shown_cons_of_isBlankText hblank] at h
      rw [Markup.toNodesAll_cons_of_isBlankText [] items hblank,
        Markup.toNodesAll_cons_of_isBlankText [] [] hblank, Markup.toNodesAll_nil, Element.flush_nil,
        ← ih _ h]
      simp
    | false =>
      rw [shown_cons hblank, List.isChain_cons] at h
      cases hrow : item.isRow with
      | true =>
        obtain ⟨row, -, hkept⟩ := Markup.toNodesAll_cons_of_isRow hrow
        have hnext : ∀ next ∈ (shown items).head?, next.isRow = false := by
          intro next hnext
          simpa [hrow] using h.1 next hnext
        rw [hkept, hkept, Markup.toNodesAll_nil, result_toNodesAll_of_head? limit made _ hnext]
        simp [ih _ h.2]
      | false =>
        rw [Markup.toNodesAll_cons [] items hblank hrow, Markup.toNodesAll_cons [] [] hblank hrow]
        simp [ih _ h.2, Element.flush_nil, Markup.toNodesAll_nil]

end Results

/-! ### Rows that follow one another -/

section Amounts

open Drafting

variable {item : Markup} (rows : List Element) (items : List Markup)

/-- Rows together are at most as many grids as they are apart. -/
theorem amount_flush_append_le (row : Element) :
    amount (Element.flush (rows ++ [row])) ≤
      amount (Element.flush rows) + amount (Element.flush [row]) := by
  rw [Element.amount_flush, Element.amount_flush, Element.amount_flush, List.all_append]
  cases rows.all fun row => row.cells.flatten.isEmpty <;>
    cases [row].all fun row => row.cells.flatten.isEmpty <;> decide

/-- Rows before another one are no grid less. -/
theorem amount_flush_le_append (row : Element) :
    amount (Element.flush [row]) ≤ amount (Element.flush (rows ++ [row])) := by
  rw [Element.amount_flush, Element.amount_flush, List.all_append]
  cases rows.all fun row => row.cells.flatten.isEmpty <;>
    cases [row].all fun row => row.cells.flatten.isEmpty <;> decide

/-- Rows are at most one grid. -/
theorem amount_flush_le : amount (Element.flush rows) ≤ 1 := by
  rw [Element.amount_flush]
  split <;> decide

theorem amount_toLooseNodes_cons (item : Markup) :
    amount (toLooseNodes (item :: items)) =
      amount (toNodes [item]) + amount (toLooseNodes items) :=
  amount_andThen _ (isStepwise_toLooseNodes items)

/-- A row on its own is a grid if it is filled. -/
theorem exists_row_of_isRow (h : item.isRow = true) :
    ∃ row, (item.isFilledRow = true → amount (Element.flush [row]) = 1) ∧
      amount (toNodes [item]) = amount (Element.flush [row]) ∧
      ∀ rows items, Markup.toNodesAll rows (item :: items) =
        Markup.toNodesAll (rows ++ [row]) items := by
  obtain ⟨row, hfilled, hkept⟩ := Markup.toNodesAll_cons_of_isRow h
  refine ⟨row, fun hitem => ?_, ?_, hkept⟩
  · have hcells : row.cells.flatten.isEmpty = false := by
      rw [hfilled] at hitem
      simpa using hitem
    rw [Element.amount_flush, List.all_cons, hcells]
    rfl
  · rw [toNodes, hkept, List.nil_append, Markup.toNodesAll_nil]

/-- Every other item is read alone, after the rows that stand before it. -/
theorem amount_toNodesAll_cons (hblank : item.isBlankText = false) (hrow : item.isRow = false) :
    amount (Markup.toNodesAll rows (item :: items)) = amount (Element.flush rows) +
      amount (toNodes [item]) + amount (Markup.toNodesAll [] items) := by
  have hitem : IsStepwise (Markup.toNodes item) :=
    isCompositional_isStepwise.toNodes item trivial fun content hcontent => by
      rw [hcontent] at hblank
      exact hblank
  have hsplit (rows : List Element) (items : List Markup) :
      amount (Markup.toNodesAll rows (item :: items)) = amount (Element.flush rows) +
        amount (Markup.toNodes item) + amount (Markup.toNodesAll [] items) := by
    rw [Markup.toNodesAll_cons rows items hblank hrow]
    exact amount_append _ hitem (isStepwise_toNodes items)
  have hone := hsplit [] []
  rw [Markup.toNodesAll_nil, Element.flush_nil, amount_nil, Nat.zero_add, Nat.add_zero] at hone
  rw [hsplit, toNodes, hone]

/-- Items as a whole are at most as many nodes as one by one. -/
theorem amount_toNodesAll_le : amount (Markup.toNodesAll rows items) ≤
    amount (Element.flush rows) + amount (toLooseNodes items) := by
  induction items generalizing rows with
  | nil =>
    rw [Markup.toNodesAll_nil]
    exact Nat.le_add_right _ _
  | cons item items ih =>
    rw [amount_toLooseNodes_cons]
    cases hblank : item.isBlankText with
    | true =>
      rw [Markup.toNodesAll_cons_of_isBlankText rows items hblank]
      exact Nat.le_trans (ih rows) (by omega)
    | false =>
      cases hrow : item.isRow with
      | true =>
        obtain ⟨row, -, hone, hkept⟩ := exists_row_of_isRow hrow
        have hrows := amount_flush_append_le rows row
        have hrest := ih (rows ++ [row])
        rw [hkept, hone]
        omega
      | false =>
        have hrest := ih []
        rw [Element.flush_nil, amount_nil] at hrest
        rw [amount_toNodesAll_cons rows items hblank hrow]
        omega

/-- A filled row that follows another one is a node more on its own. -/
theorem amount_toNodesAll_lt_of_head? (hrows : amount (Element.flush rows) = 1)
    (h : ∃ next ∈ (shown items).head?, next.isFilledRow = true) :
    amount (Markup.toNodesAll rows items) <
      amount (Element.flush rows) + amount (toLooseNodes items) := by
  induction items with
  | nil => exact absurd h (by simp [shown])
  | cons item items ih =>
    rw [amount_toLooseNodes_cons]
    cases hblank : item.isBlankText with
    | true =>
      rw [shown_cons_of_isBlankText hblank] at h
      rw [Markup.toNodesAll_cons_of_isBlankText rows items hblank]
      exact Nat.lt_of_lt_of_le (ih h) (by omega)
    | false =>
      rw [shown_cons hblank] at h
      obtain ⟨next, hnext, hfilled⟩ := h
      obtain rfl : item = next := Option.some.inj hnext
      obtain ⟨row, hrow, hone, hkept⟩ :=
        exists_row_of_isRow (Markup.isRow_of_isFilledRow hfilled)
      have htogether := amount_toNodesAll_le (rows ++ [row]) items
      have hmost := amount_flush_le (rows ++ [row])
      have hfirst := hrow hfilled
      rw [hkept, hone]
      omega

/-- Where two filled rows follow one another, the items are more nodes one by one. -/
theorem amount_toNodesAll_lt (h : ¬ Apart Markup.isFilledRow items) :
    amount (Markup.toNodesAll rows items) <
      amount (Element.flush rows) + amount (toLooseNodes items) := by
  induction items generalizing rows with
  | nil => exact absurd .nil h
  | cons item items ih =>
    rw [amount_toLooseNodes_cons]
    rw [Apart] at h
    cases hblank : item.isBlankText with
    | true =>
      rw [shown_cons_of_isBlankText hblank] at h
      rw [Markup.toNodesAll_cons_of_isBlankText rows items hblank]
      exact Nat.lt_of_lt_of_le (ih rows h) (by omega)
    | false =>
      rw [shown_cons hblank, List.isChain_cons, not_and_or] at h
      cases hrow : item.isRow with
      | true =>
        obtain ⟨row, hfilled, hone, hkept⟩ := exists_row_of_isRow hrow
        have hrows := amount_flush_append_le rows row
        have hrest : amount (Markup.toNodesAll (rows ++ [row]) items) <
            amount (Element.flush (rows ++ [row])) + amount (toLooseNodes items) := by
          rcases h with hhere | hlater
          · -- the next one is a filled row as well: here the two are counted as one
            simp only [not_forall, not_not] at hhere
            obtain ⟨next, hnext, hitem, hnextFilled⟩ := hhere
            have hatLeast := amount_flush_le_append rows row
            have hatMost := amount_flush_le (rows ++ [row])
            rw [hfilled hitem] at hatLeast
            exact amount_toNodesAll_lt_of_head? _ items (by omega) ⟨next, hnext, hnextFilled⟩
          · exact ih _ hlater
        rw [hkept, hone]
        omega
      | false =>
        have hunfilled : ¬ item.isFilledRow = true := fun hitem => by
          rw [Markup.isRow_of_isFilledRow hitem] at hrow
          exact absurd hrow (by decide)
        have hlater := h.resolve_left fun hnone =>
          hnone fun next _ hboth => hunfilled hboth.1
        have hrest := ih [] hlater
        rw [Element.flush_nil, amount_nil] at hrest
        rw [amount_toNodesAll_cons rows items hblank hrow]
        omega

/-- Items that are the same nodes as a whole and one by one have no two filled rows that follow one
another. -/
theorem apart_of_result_eq {forest : Forest} {limit : Nat} {made : List Kind}
    (h : (forest.toLooseNodes.result limit made).1 = (forest.toNodes.result limit made).1) :
    forest.Apart Markup.isFilledRow := by
  by_contra hmeet
  have hless := amount_toNodesAll_lt [] forest hmeet
  rw [Element.flush_nil, amount_nil, Nat.zero_add] at hless
  have hlength := congrArg List.length h
  rw [(isStepwise_toLooseNodes forest).length_eq, (isStepwise_toNodes forest).length_eq] at hlength
  rw [toNodes] at hlength
  omega

end Amounts

end Forest

/-! ### Pages -/

namespace Import

variable (style : Background.PageStyle) (limit : Nat)

/-- The items of a forest without sections are placed on the top level. -/
theorem result_placeForest_loose {forest : Forest}
    (h : ∀ item ∈ forest, ∀ element ∈ item.element?, element.tag.name ≠ "section")
    (doc : Document) (made : List Kind) :
    (placeForest style forest doc).result limit made =
      ({ doc with topLevel := doc.topLevel ++ (forest.toLooseNodes.result limit made).1 },
        (forest.toLooseNodes.result limit made).2) := by
  induction forest generalizing doc made with
  | nil => simp [placeForest, Forest.toLooseNodes]
  | cons item items ih =>
    obtain ⟨hitem, hitems⟩ := List.forall_mem_cons.mp h
    obtain ⟨step, hplaces, hstep⟩ := exists_placesItem style item
    cases hplaces with
    | «section» hname => exact absurd hname (hitem _ rfl)
    | loose _ => simp [hstep, ih hitems, Forest.toLooseNodes]

/-- What a section without attributes holds is placed in its zone. -/
theorem result_placeForest_section (children : Forest) :
    let node := Node.next [] .section
    let inner := children.toNodes.result limit [.section]
    (placeForest style [.element ⟨"section", []⟩ children] .empty).result limit [] =
      (({ Document.empty with topLevel := [node] } : Document).pushAll node.contentKey inner.1,
        inner.2) := by
  have hnode := @result_sectionNode style none none none rfl rfl rfl children limit []
  have hattributes : Template.attributesOf (Template.sectionEntries none none none) = [] := rfl
  rw [hattributes] at hnode
  simp only [placeForest, Markup.element?, Element.name, beq_self_eq_true, if_true,
    Drafting.result_bind, hnode, result_placeSection, Drafting.result_pure]
  rfl

/-- What stands in front of a page in a section. -/
def sectionFront : String := "[section][row width=\"full\"][column span=\"12\"]\n"

/-- What stands behind a page in a section. -/
def sectionBack : String := "\n[/column][/row][/section]"

/-- The page in a section, on lines of its own. -/
def inSection (content : String) : String :=
  sectionFront ++ content ++ sectionBack

/-- Unless it is empty, the page stands in the skeleton that every section has. -/
theorem toList_inSection {content : String} (hne : content.toList ≠ []) :
    (inSection content).toList = sectionAround [] content.toList := by
  have hlines : ownLines content.toList = ['\n'] ++ content.toList ++ ['\n'] :=
    if_neg (by simpa using hne)
  have hfront : sectionFront.toList =
      Tag.opening ⟨"section", []⟩ ++ fullRow.opening ++ fullColumn.opening ++ ['\n'] := by
    decide
  have hback : sectionBack.toList =
      ['\n'] ++ fullColumn.closing ++ fullRow.closing ++ Tag.closing ⟨"section", []⟩ := by
    decide
  rw [inSection, String.toList_append, String.toList_append, hfront, hback, sectionAround,
    Tag.around, Tag.around, Tag.around, hlines]
  simp only [List.append_assoc]

/-- Markup has a tag, so it is not empty. -/
theorem ne_nil_of_isSpokenIn {cs : List Char} (h : Markup.isSpokenIn cs = true) : cs ≠ [] := by
  rintro rfl
  exact absurd h (by decide)

/-- A page in a section is markup. -/
theorem isSpokenIn_sectionAround {cs : List Char} (hne : cs ≠ []) :
    Markup.isSpokenIn (sectionAround [] cs) = true := by
  have hname : "section" ∈ (Markup.tokens (sectionAround [] cs)).filterMap Markup.Token.name? := by
    rw [Markup.tokens_sectionAround hne]
    exact List.mem_cons_self
  rw [Markup.filterMap_name?_tokens] at hname
  obtain ⟨token, htoken, hsection⟩ := List.mem_map.mp hname
  rw [Markup.isSpokenIn, List.any_eq_true]
  exact ⟨token, htoken, by rw [hsection]; decide⟩

/-- Markup without sections is placed on the top level, item by item. -/
theorem topLevel_page {content : String} (hspoken : Markup.isSpokenIn content.toList = true)
    (hfree : Forest.IsFrameless content.toList) :
    ((page content).result limit).topLevel =
      ((Forest.read content.toList).toLooseNodes.result limit []).1 := by
  have hroots : ∀ item ∈ Forest.read content.toList, ∀ element ∈ item.element?,
      element.tag.name ≠ "section" := by
    have hnone : Markup.Growth.HasTags (fun tag => tag.name ∉ Markup.frameNames) .empty := .empty
    have htags := hnone.extend fun tag htag => hfree.notMem htag rfl
    intro item hitem element helement hname
    exact htags.finish item hitem element helement (by rw [hname]; decide)
  rw [page, hspoken, result_pageAs, drafted, if_pos rfl, Drafting.result_bind,
    Drafting.result_note, result_placeForest_loose _ _ hroots]
  rfl

/-- Markup in a section is placed in its zone, as a whole. -/
theorem topLevel_page_inSection {content : String}
    (hspoken : Markup.isSpokenIn content.toList = true)
    (hfree : Forest.IsFrameless content.toList) :
    ((page (inSection content)).result limit).topLevel = [Node.next [] .section] ∧
      ((page (inSection content)).result limit).inside (Node.next [] .section) =
        ((Forest.read content.toList).toNodes.result limit []).1 := by
  have hne := ne_nil_of_isSpokenIn hspoken
  have hinside := (Forest.isStepwise_toNodes (Forest.read content.toList)).result_section limit
  have hframe : (Forest.toNodes [.element fullRow [.element fullColumn
      (Forest.read ('\n' :: content.toList ++ ['\n']))]]).result limit [.section] =
        (Forest.read content.toList).toNodes.result limit [.section] := by
    rw [Forest.toNodes_layout (by decide), Forest.toNodes_layout (by decide),
      Forest.toNodes_read_lines]
    simp
  rw [page, result_pageAs, toList_inSection hne, isSpokenIn_sectionAround hne, drafted, if_pos rfl,
    Drafting.result_bind, Drafting.result_note, Forest.read_sectionAround hne hfree,
    result_placeForest_section, hframe]
  refine ⟨Document.topLevel_pushAll _ _ _, ?_⟩
  rw [Document.inside, Document.zone?_pushAll_self, hinside]
  rfl

/-- Markup without sections, rows and columns is placed on the top level as its items are read one
by one, and in a section as it is read as a whole.  Both are the same if no two rows of cells follow
one another, and only if no two with an element in their cells do. -/
theorem loose_agrees_with_section {content : String}
    (hspoken : Markup.isSpokenIn content.toList = true)
    (hfree : Forest.IsFrameless content.toList) (limit : Nat) :
    let forest := Forest.read content.toList
    let loose := (page content).result limit
    let framed := (page (inSection content)).result limit
    ∃ part : Node, framed.topLevel = [part] ∧ part.kind = .section ∧
      loose.topLevel = (forest.toLooseNodes.result limit []).1 ∧
      framed.inside part = (forest.toNodes.result limit []).1 ∧
      (forest.Apart Markup.isRow → loose.topLevel = framed.inside part) ∧
      (loose.topLevel = framed.inside part → forest.Apart Markup.isFilledRow) := by
  intro forest loose framed
  have hloose := topLevel_page limit hspoken hfree
  obtain ⟨htop, hinside⟩ := topLevel_page_inSection limit hspoken hfree
  refine ⟨_, htop, rfl, hloose, hinside, fun hapart => ?_, fun hsame => ?_⟩
  · rw [hloose, hinside, Forest.result_toLooseNodes limit [] hapart]
  · rw [hloose, hinside] at hsame
    exact Forest.apart_of_result_eq hsame

/-- A page with two rows that a heading keeps apart. -/
def partedRows : String :=
  "[row_inner][counter number=\"1\"][/row_inner]\n[heading]And[/heading]\n" ++
    "[row_inner][counter number=\"2\"][/row_inner]"

/-- Rows that are kept apart are read alike. -/
theorem loose_agrees_with_section_partedRows :
    ∃ part : Node, ((page (inSection partedRows)).result 0).topLevel = [part] ∧
      part.kind = .section ∧
      ((page partedRows).result 0).topLevel =
        ((page (inSection partedRows)).result 0).inside part := by
  have hspoken : Markup.isSpokenIn partedRows.toList = true := by decide +kernel
  have hfree : Forest.IsFrameless partedRows.toList := by decide +kernel
  obtain ⟨part, htop, hkind, -, -, hsame, -⟩ := loose_agrees_with_section hspoken hfree 0
  exact ⟨part, htop, hkind, hsame (by decide +kernel)⟩

/-- A page with two rows that follow one another. -/
def metRows : String :=
  "[row_inner][counter number=\"1\"][/row_inner]\n[row_inner][counter number=\"2\"][/row_inner]"

/-- Rows that follow one another are two nodes outside of sections, and one node in a section. -/
theorem not_loose_agrees_with_section :
    ¬ ∀ content : String, Markup.isSpokenIn content.toList = true →
      Forest.IsFrameless content.toList → ∀ limit, ∃ part : Node,
        ((page (inSection content)).result limit).topLevel = [part] ∧
        ((page content).result limit).topLevel =
          ((page (inSection content)).result limit).inside part := by
  intro h
  have hspoken : Markup.isSpokenIn metRows.toList = true := by decide +kernel
  have hfree : Forest.IsFrameless metRows.toList := by decide +kernel
  obtain ⟨part, htop, hsame⟩ := h metRows hspoken hfree 0
  obtain ⟨htop', hinside⟩ := topLevel_page_inSection 0 hspoken hfree
  obtain rfl : part = Node.next [] .section := List.singleton_inj.mp (htop.symm.trans htop')
  rw [topLevel_page 0 hspoken hfree, hinside] at hsame
  exact absurd (Forest.apart_of_result_eq hsame) (by decide +kernel)

end Import

end PageMarkup
