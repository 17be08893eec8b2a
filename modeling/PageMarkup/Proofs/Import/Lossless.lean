import PageMarkup.Proofs.Import.Keeping
import PageMarkup.Proofs.Import.Placing

/-!
# Imports that keep the text of a page

A run of text in the markup of a page stands inside some elements.  Sections and what only arranges
pass it on; the first other element reads it, or passes it over.  An import without a warning keeps
every run that is read: some text in the document contains it.
-/

namespace PageMarkup

open Text

namespace Import

/-! ### Runs that are read -/

/-- The element only passes on what is inside it. -/
def PassesOn (element : Element) : Prop :=
  element.name = "section" ∨ Element.isLayout element.name = true

theorem PassesOn.ne_row_inner {element : Element} (h : PassesOn element) :
    element.name ≠ "row_inner" := by
  intro hname
  rw [PassesOn, hname] at h
  exact absurd h (by decide)

/-- A run that stands inside the elements, the outermost first, is read in this way. -/
inductive IsRead : List Element → Reading → Prop
  | loose : IsRead [] .loose
  | inside {element : Element} {below : List Element} {reading : Reading}
      (h : PassesOn element) (hbelow : IsRead below reading) : IsRead (element :: below) reading
  | cell {row : Element} {cell below : List Element} {reading : Reading}
      (hrow : row.name = "row_inner") (hcell : cell ∈ Element.cells row)
      (h : Element.ReadsCell cell below reading) : IsRead (row :: below) reading
  | element {element : Element} {below : List Element} {reading : Reading}
      (h : element.Reads below reading) : IsRead (element :: below) reading

/-- In a section the run is read as if the section were not there. -/
theorem IsRead.of_section {element : Element} {below : List Element} {reading : Reading}
    (h : IsRead (element :: below) reading) (hname : element.name = "section") :
    IsRead below reading := by
  cases h with
  | inside _ hbelow => exact hbelow
  | cell hrow => exact absurd (hname.symm.trans hrow) (by decide)
  | element h => exact absurd (by simp [hname]) h.name_not_mem

/-- A run that stands inside the elements, the outermost first, is passed over. -/
inductive IsPassedOver : List Element → Prop
  | inside {element : Element} {below : List Element} (h : PassesOn element)
      (hbelow : IsPassedOver below) : IsPassedOver (element :: below)
  /-- In a row it stands beside the elements of the cells, or in a heading or a text of a cell which
  is not the first one. -/
  | row {row : Element} {below : List Element} (hrow : row.name = "row_inner")
      (h : ∀ cell ∈ Element.cells row, ∀ inner ∈ cell, inner ∈ below →
        inner.name ∈ ["heading", "text"] ∧ cell.find? (·.name == inner.name) ≠ some inner) :
      IsPassedOver (row :: below)
  /-- In a box it stands beside the first heading, the first text and the first button. -/
  | box {box : Element} {below : List Element} (hbox : box.name = "box")
      (h : ∀ name ∈ ["heading", "text", "button"], ∀ inner ∈ below, box.find? name ≠ some inner) :
      IsPassedOver (box :: below)
  /-- In a group of plans it stands in no plan. -/
  | plans {plans : Element} {below : List Element} (hplans : plans.name = "pricing_tables")
      (h : ∀ inner ∈ below, inner.name ≠ "pricing_table") : IsPassedOver (plans :: below)
  /-- In a group of questions it stands in none that has a title. -/
  | questions {questions : Element} {below : List Element}
      (hquestions : questions.name = "accordion")
      (h : ∀ toggle, below.find? (·.name == "toggle") = some toggle →
        toggle.attribute? "title" = none) : IsPassedOver (questions :: below)

/-- What is in no cell of a row that reads it is passed over. -/
theorem isRead_or_isPassedOver_row {row : Element} (hrow : row.name = "row_inner")
    (below : List Element) :
    (∃ reading, IsRead (row :: below) reading) ∨ IsPassedOver (row :: below) := by
  by_cases hcell : ∃ cell ∈ Element.cells row, ∃ reading, Element.ReadsCell cell below reading
  · obtain ⟨cell, hcell, reading, h⟩ := hcell
    exact .inl ⟨reading, .cell hrow hcell h⟩
  · refine .inr (.row hrow fun cell hmem inner hinner hbelow => ?_)
    have hnone : ∀ reading, ¬ Element.ReadsCell cell below reading :=
      fun reading h => hcell ⟨cell, hmem, reading, h⟩
    by_cases hname : inner.name ∈ ["heading", "text"]
    · refine ⟨hname, fun hfind => ?_⟩
      simp only [List.mem_cons, List.not_mem_nil, or_false] at hname
      rcases hname with hname | hname
      · rw [hname] at hfind
        exact hnone .plain (.heading hfind hbelow)
      · rw [hname] at hfind
        exact hnone .rich (.text hfind hbelow)
    · exact absurd (.other hinner hname hbelow) (hnone .rich)

/-- What is in no part of a box that is read is passed over. -/
theorem isRead_or_isPassedOver_box {box : Element} (hbox : box.name = "box")
    (below : List Element) :
    (∃ reading, IsRead (box :: below) reading) ∨ IsPassedOver (box :: below) := by
  by_cases hfound : ∃ name ∈ ["heading", "text", "button"], ∃ inner ∈ below,
      box.find? name = some inner
  · obtain ⟨name, hname, inner, hbelow, hfind⟩ := hfound
    simp only [List.mem_cons, List.not_mem_nil, or_false] at hname
    rcases hname with rfl | rfl | rfl
    · exact .inl ⟨.plain, .element (.label hbox (by simp) hfind hbelow)⟩
    · exact .inl ⟨.rich, .element (.body hbox hfind hbelow)⟩
    · exact .inl ⟨.plain, .element (.label hbox (by simp) hfind hbelow)⟩
  · exact .inr (.box hbox fun name hname inner hbelow hfind =>
      hfound ⟨name, hname, inner, hbelow, hfind⟩)

/-- What is in no plan of a group is passed over. -/
theorem isRead_or_isPassedOver_plans {plans : Element} (hplans : plans.name = "pricing_tables")
    (below : List Element) :
    (∃ reading, IsRead (plans :: below) reading) ∨ IsPassedOver (plans :: below) := by
  cases htable : below.find? (·.name == "pricing_table") with
  | some table => exact .inl ⟨.lines, .element (.plans hplans htable)⟩
  | none =>
    refine .inr (.plans hplans fun inner hinner => ?_)
    simpa using List.find?_eq_none.mp htable inner hinner

/-- What is in no question of a group that has a title is passed over. -/
theorem isRead_or_isPassedOver_questions {questions : Element}
    (hquestions : questions.name = "accordion") (below : List Element) :
    (∃ reading, IsRead (questions :: below) reading) ∨ IsPassedOver (questions :: below) := by
  by_cases hread : ∃ toggle question, below.find? (·.name == "toggle") = some toggle ∧
      toggle.attribute? "title" = some question
  · obtain ⟨toggle, question, htoggle, htitle⟩ := hread
    exact .inl ⟨.rich, .element (.questions hquestions htoggle htitle)⟩
  · refine .inr (.questions hquestions fun toggle htoggle => ?_)
    cases htitle : toggle.attribute? "title" with
    | none => rfl
    | some question => exact absurd ⟨toggle, question, htoggle, htitle⟩ hread

/-- The elements of the vocabulary, told apart by what they do with a run inside them. -/
theorem cases_vocabulary : ∀ name ∈ Markup.vocabulary,
    Markup.isVoid name = true ∨ (name = "section" ∨ Element.isLayout name = true) ∨
      name ∈ ["heading", "button", "testimonial"] ∨ name ∈ ["text", "blurb", "toggle"] ∨
      name = "pricing_table" ∨ name = "row_inner" ∨ name = "box" ∨ name = "pricing_tables" ∨
      name = "accordion" := by
  decide

/-- Wherever a run stands that is in no element that never holds anything, it is read or passed
over. -/
theorem isRead_or_isPassedOver {path : List Element}
    (hvoid : ∀ element ∈ path, Markup.isVoid element.name = false) :
    (∃ reading, IsRead path reading) ∨ IsPassedOver path := by
  induction path with
  | nil => exact .inl ⟨.loose, .loose⟩
  | cons element below ih =>
    obtain ⟨hholds, hbelow⟩ := List.forall_mem_cons.mp hvoid
    have hpass (h : PassesOn element) :
        (∃ reading, IsRead (element :: below) reading) ∨ IsPassedOver (element :: below) := by
      rcases ih hbelow with ⟨reading, hread⟩ | hover
      · exact .inl ⟨reading, .inside h hread⟩
      · exact .inr (.inside h hover)
    by_cases hknown : element.name ∈ Markup.vocabulary
    · rcases cases_vocabulary element.name hknown with
        hname | hname | hname | hname | hname | hname | hname | hname | hname
      · rw [hholds] at hname
        cases hname
      · exact hpass hname
      · exact .inl ⟨.plain, .element (.plain hname)⟩
      · exact .inl ⟨.rich, .element (.rich hname)⟩
      · exact .inl ⟨.lines, .element (.plan hname)⟩
      · exact isRead_or_isPassedOver_row hname below
      · exact isRead_or_isPassedOver_box hname below
      · exact isRead_or_isPassedOver_plans hname below
      · exact isRead_or_isPassedOver_questions hname below
    · exact .inl ⟨.rich, .element (.unknown hknown)⟩

/-! ### Forests that are read -/

/-- What every grid keeps that has a row among its rows is kept of the rows before some items. -/
theorem keeps_toNodesAll_of_mem {P : Node → Prop} {row : Element}
    (h : ∀ rows, row ∈ rows → (Element.toGrid rows).Keeps P) (items : Forest) {rows : List Element}
    (hrow : row ∈ rows) : (Markup.toNodesAll rows items).Keeps P := by
  have hflush {rows : List Element} (hrow : row ∈ rows) : (Element.flush rows).Keeps P := by
    rw [Element.flush, if_neg (by simpa using List.ne_nil_of_mem hrow)]
    exact h rows hrow
  induction items generalizing rows with
  | nil =>
    rw [Markup.toNodesAll]
    exact hflush hrow
  | cons item items ih =>
    cases item with
    | text content =>
      rw [Markup.toNodesAll]
      split
      · exact ih hrow
      · exact (hflush hrow).before
    | element tag children =>
      rw [Markup.toNodesAll]
      split
      · exact ih (List.mem_append_left _ hrow)
      · exact (hflush hrow).before

/-- What the items behind one keep is kept, whatever the item is. -/
theorem keeps_toNodesAll_cons {P : Node → Prop} {items : Forest}
    (h : ∀ rows, (Markup.toNodesAll rows items).Keeps P) (item : Markup) (rows : List Element) :
    (Markup.toNodesAll rows (item :: items)).Keeps P := by
  cases item with
  | text content =>
    rw [Markup.toNodesAll]
    split
    · exact h rows
    · exact (h []).after
  | element tag children =>
    rw [Markup.toNodesAll]
    split
    · exact h _
    · exact (h []).after

section Run

variable {path : List Element} {reading : Reading} {front run back part : List Char}

/-- A run between elements is kept in a text of its own. -/
theorem keeps_looseText {content : String} (hpart : part ∈ Reading.loose.kept content.toList) :
    (Markup.looseText content).Keeps (Node.Holds part) := by
  have hshown : part <:+: (Element.rich content).toList := by
    rw [Element.toList_rich, List.mem_singleton.mp hpart]
  let node (made : List Kind) : Node :=
    (Node.next made .text).withProp "text" (.text (Element.rich content))
  have hnode (made : List Kind) : (node made).Holds part :=
    Node.holds_of_get? "text" (by simp [node]) (Value.shows_text hshown)
  exact Drafting.Ensures.keeps fun limit made => ⟨node made, List.mem_cons_self, hnode made⟩

/-- Reading a forest without a warning keeps every run that is read, whatever rows stand before. -/
theorem keeps_toNodesAll {items : Forest} (h : Markup.Stands items path front run back)
    (hrun : allBlank run = false) (hpart : part ∈ reading.kept run)
    (hvoid : ∀ element ∈ path, Markup.isVoid element.name = false) (hread : IsRead path reading)
    (huncut : reading.IsUncut front run back) (rows : List Element) :
    (Markup.toNodesAll rows items).Keeps (Node.Holds part) := by
  induction h generalizing rows with
  | here content items =>
    cases hread
    rw [Markup.toNodesAll, if_neg (by simpa using hrun)]
    exact (keeps_looseText hpart).here
  | @later item items path front run back _ ih =>
    have hinner := huncut.mono (List.suffix_append _ _) (List.prefix_refl back)
    exact keeps_toNodesAll_cons (ih hrun hpart hvoid hread hinner) item rows
  | @inside tag children below front run back items hstands ih =>
    have hinner := huncut.mono (List.suffix_refl front) (List.prefix_append back _)
    obtain ⟨-, hbelow⟩ := List.forall_mem_cons.mp hvoid
    have hothers (hname : tag.name ≠ "row_inner")
        (h : (Markup.toNodes (.element tag children)).Keeps (Node.Holds part)) :
        (Markup.toNodesAll rows (.element tag children :: items)).Keeps (Node.Holds part) := by
      rw [Markup.toNodesAll, if_neg (by simpa using hname)]
      exact h.here
    cases hread with
    | inside hpass hread =>
      have hname : tag.name ≠ "row_inner" := hpass.ne_row_inner
      refine hothers hname ?_
      rw [Markup.toNodes]
      split
      -- a section inside of something else is warned of
      · exact Drafting.keeps_warn _ _
      · rename_i hsection
        have hlayout : Element.isLayout tag.name = true :=
          hpass.resolve_left (by simpa [Element.name] using hsection)
        rw [if_pos hlayout]
        exact ih hrun hpart hbelow hread hinner []
    | @cell _ cell _ _ hrow hcell hcellread =>
      have hrow' : tag.name = "row_inner" := hrow
      rw [Markup.toNodesAll, if_pos (by simpa using hrow')]
      -- the row becomes part of some grid, whatever rows stand before it and behind it
      refine keeps_toNodesAll_of_mem (fun rows hmem => ?_) items
        (List.mem_append_right rows (List.mem_singleton_self _))
      refine Element.keeps_toGrid hrun (fun inner hmem => ?_) hpart hbelow hmem hcell hcellread
      obtain ⟨before, after, hbefore, hafter, htext⟩ := hstands.toList_text hmem
      exact (hinner.mono hbefore hafter).isWholeIn htext
    | element hreads =>
      have hname : tag.name ∉ ["section", "row", "column", "column_inner", "row_inner"] :=
        hreads.name_not_mem
      refine hothers (fun hrow => hname (by simp [hrow])) ?_
      rw [Markup.toNodes_element (fun hmem => hname (List.mem_append_left ["row_inner"] hmem))]
      exact hreads.keeps_toNodes hrun hstands hinner hpart

end Run

/-! ### Pages -/

/-- What an item on the top level of a page is read as: a section is what stands inside it. -/
def inside (item : Markup) : Forest :=
  match item.element? with
  | some element => if element.name == "section" then element.children else [item]
  | none => [item]

/-- The step adds the nodes of some computation to the document, and is quiet only if that is. -/
def Adds (nodes : Drafting (List Node)) (step : Document → Drafting Document) : Prop :=
  ∀ limit made doc, doc.IsPlaced made → ∃ start,
    doc.nodes ++ (nodes.result limit start).1 ⊆ ((step doc).result limit made).1.nodes ∧
      ((step doc).IsQuiet limit made → nodes.IsQuiet limit start)

/-- Nodes that are placed on the top level are added. -/
theorem adds_place (nodes : Drafting (List Node)) :
    Adds nodes (fun doc => do place none (← nodes) doc) := by
  intro limit made doc _
  refine ⟨made, ?_, fun hquiet => (Drafting.isQuiet_bind_iff.mp hquiet).1⟩
  rw [Drafting.result_bind, result_place_none]
  exact (doc.nodes_push_perm _).symm.subset

/-- Nodes that are placed in a section are added. -/
theorem adds_placeSection {head : Drafting Node} (hhead : DraftsSection head)
    (nodes : Drafting (List Node)) :
    Adds nodes (fun doc => do placeSection (← head) nodes doc) := by
  intro limit made doc hdoc
  obtain ⟨node, hresult, -, hid, -⟩ := hhead limit made
  refine ⟨.section :: made, ?_, fun hquiet => ?_⟩
  · rw [Drafting.result_bind, hresult, result_placeSection]
    have hadded := (hdoc.nodes_placeSection_perm hid (nodes.result limit (.section :: made)).1).symm
    intro other hother
    refine hadded.subset ?_
    rcases List.mem_append.mp hother with hother | hother
    · exact List.mem_append_left _ hother
    · exact List.mem_append_right _ (List.mem_cons_of_mem node hother)
  · have hinside := (Drafting.isQuiet_bind_iff.mp hquiet).2
    rw [hresult] at hinside
    have hnodes := (Drafting.isQuiet_bind_iff.mp hinside).2
    rw [result_place_none] at hnodes
    exact (Drafting.isQuiet_bind_iff.mp hnodes).1

section Placing

variable {style : Background.PageStyle} {limit : Nat} {made : List Kind} {doc : Document}

/-- An item is placed in a step that adds the nodes it is read as. -/
theorem PlacesItem.adds {item : Markup} {step : Document → Drafting Document}
    (h : PlacesItem style item step) : Adds (inside item).toNodes step := by
  cases h with
  | @«section» tag children hname =>
    have hinside : inside (.element tag children) = children := if_pos (beq_iff_eq.mpr hname)
    rw [hinside]
    exact adds_placeSection (draftsSection_sectionNode style _) _
  | loose hname =>
    have hinside : inside item = [item] := by
      cases item with
      | text content => rfl
      | element tag children => exact if_neg fun h => hname _ rfl (beq_iff_eq.mp h)
    rw [hinside]
    exact adds_place _

/-- What is in a document stays there. -/
theorem subset_placeForest (forest : Forest) (hdoc : doc.IsPlaced made) :
    doc.nodes ⊆ ((placeForest style forest doc).result limit made).1.nodes := by
  induction forest generalizing doc made with
  | nil => exact List.Subset.refl _
  | cons item items ih =>
    obtain ⟨step, hitem, hstep⟩ := exists_placesItem style item
    obtain ⟨start, hsubset, -⟩ := hitem.adds limit made doc hdoc
    rw [hstep, Drafting.result_bind]
    intro node hnode
    exact ih (hitem.places style limit made doc hdoc) (hsubset (List.mem_append_left _ hnode))

/-- What the nodes of the first item keep is kept in the document. -/
theorem exists_mem_placeForest_cons {P : Node → Prop} {item : Markup} {items : Forest}
    (h : (inside item).toNodes.Keeps P) (hdoc : doc.IsPlaced made)
    (hquiet : (placeForest style (item :: items) doc).IsQuiet limit made) :
    ∃ node ∈ ((placeForest style (item :: items) doc).result limit made).1.nodes, P node := by
  obtain ⟨step, hitem, hstep⟩ := exists_placesItem style item
  obtain ⟨start, hsubset, hinside⟩ := hitem.adds limit made doc hdoc
  rw [hstep] at hquiet ⊢
  obtain ⟨node, hnode, hP⟩ := h limit start (hinside (Drafting.isQuiet_bind_iff.mp hquiet).1)
  refine ⟨node, ?_, hP⟩
  rw [Drafting.result_bind]
  exact subset_placeForest items (hitem.places style limit made doc hdoc)
    (hsubset (List.mem_append_right _ hnode))

/-- Placing a forest without a warning keeps every run that is read. -/
theorem exists_mem_placeForest {forest : Forest} {path : List Element} {reading : Reading}
    {front run back part : List Char} (h : Markup.Stands forest path front run back)
    (hrun : allBlank run = false) (hpart : part ∈ reading.kept run)
    (hvoid : ∀ element ∈ path, Markup.isVoid element.name = false) (hread : IsRead path reading)
    (huncut : reading.IsUncut front run back) (hdoc : doc.IsPlaced made)
    (hquiet : (placeForest style forest doc).IsQuiet limit made) :
    ∃ node ∈ ((placeForest style forest doc).result limit made).1.nodes, node.Holds part := by
  induction h generalizing doc made with
  | here content items =>
    have hstands := Markup.Stands.here content []
    have hinner := huncut.mono (List.suffix_refl _) List.nil_prefix
    exact @exists_mem_placeForest_cons style limit _ _ _ (.text content) items
      (keeps_toNodesAll hstands hrun hpart hvoid hread hinner []) hdoc hquiet
  | @later item items path front run back _ ih =>
    have hinner := huncut.mono (List.suffix_append _ _) (List.prefix_refl back)
    obtain ⟨step, hitem, hstep⟩ := exists_placesItem style item
    rw [hstep] at hquiet ⊢
    rw [Drafting.result_bind]
    exact ih hrun hpart hvoid hread hinner (hitem.places style limit made doc hdoc)
      (Drafting.isQuiet_bind_iff.mp hquiet).2
  | @inside tag children below front run back items hstands =>
    have hinner := huncut.mono (List.suffix_refl front) (List.prefix_append back _)
    refine exists_mem_placeForest_cons ?_ hdoc hquiet
    by_cases hsection : (Element.mk tag children).name == "section"
    · -- only what a section holds is imported, and not its own tags
      have hinside : inside (.element tag children) = children := if_pos hsection
      rw [hinside]
      exact keeps_toNodesAll hstands hrun hpart (List.forall_mem_cons.mp hvoid).2
        (hread.of_section (beq_iff_eq.mp hsection)) hinner []
    · have hinside : inside (.element tag children) = [.element tag children] := if_neg hsection
      rw [hinside]
      refine keeps_toNodesAll (.inside [] hstands) hrun hpart hvoid hread ?_ []
      exact huncut.mono (List.suffix_refl front) (by simp [Markup.textOfAll])

end Placing

/-- The markup of a page that is imported without a warning loses no text in silence: every run of
text that is not blank is read or passed over, and some text in the document contains what is to be
found of a run that is read, unless a tag cuts a reference where the run begins or ends. -/
theorem exists_holds_pageAs {content : String} {limit : Nat}
    (hquiet : ∀ entry ∈ (pageAs true content).entries limit, entry.phase ≠ .warn)
    {path : List Element} {front run back : List Char}
    (hstands : Markup.Stands (Forest.read content.toList) path front run back)
    (hrun : allBlank run = false) :
    ((∃ reading, IsRead path reading) ∨ IsPassedOver path) ∧
      ∀ reading, IsRead path reading → reading.IsUncut front run back →
        ∀ part ∈ reading.kept run,
          ∃ node ∈ ((pageAs true content).result limit).nodes, node.Holds part := by
  have hvoid := hstands.isVoid_eq_false (Markup.keepVoids_read content.toList)
  refine ⟨isRead_or_isPassedOver hvoid, fun reading hread huncut part hpart => ?_⟩
  let style := (Background.harvest content.toList).result limit
  have hdrafted : (drafted true style content.toList).IsQuiet limit [] := by
    intro entry hentry
    refine hquiet entry ?_
    simp only [pageAs, Traced.entries_bind, List.mem_append]
    exact .inr (.inr (.inl hentry))
  rw [drafted, if_pos rfl, Drafting.isQuiet_bind_iff, Drafting.result_note] at hdrafted
  rw [result_pageAs, drafted, if_pos rfl, Drafting.result_bind, Drafting.result_note]
  exact exists_mem_placeForest hstands hrun hpart hvoid hread huncut Document.isPlaced_empty
    hdrafted.2

/-- A heading is kept with its reference decoded. -/
theorem exists_holds_pageAs_heading :
    (∀ entry ∈ (pageAs true "[heading] Fish &amp; chips[/heading]").entries 512,
      entry.phase ≠ .warn) ∧
    ∃ node ∈ ((pageAs true "[heading] Fish &amp; chips[/heading]").result 512).nodes,
      node.Holds "Fish & chips".toList := by
  have hquiet : ∀ entry ∈ (pageAs true "[heading] Fish &amp; chips[/heading]").entries 512,
      entry.phase ≠ .warn := by decide +kernel
  have hread : Forest.read "[heading] Fish &amp; chips[/heading]".toList =
      [.element ⟨"heading", []⟩ [.text " Fish &amp; chips"]] := by rfl
  have hstands : Markup.Stands (Forest.read "[heading] Fish &amp; chips[/heading]".toList)
      [⟨⟨"heading", []⟩, [.text " Fish &amp; chips"]⟩] [] " Fish &amp; chips".toList [] := by
    rw [hread]
    exact .inside [] (.here " Fish &amp; chips" [])
  have hkept := (exists_holds_pageAs hquiet hstands (by decide)).2 .plain
    (.element (.plain (by decide))) ⟨cutsNo_nil_left _, cutsNo_nil_right _⟩
  exact ⟨hquiet, hkept _ (by decide +kernel)⟩

/-- The run of text on the page is lost in silence: nothing that it may be read as is in the
document, and there is no warning. -/
def LosesInSilence (content run : String) : Prop :=
  (∀ entry ∈ (pageAs true content).entries Journal.defaultLimit, entry.phase ≠ .warn) ∧
    run ∈ Markup.textsAll (Forest.read content.toList) ∧ allBlank run.toList = false ∧
    ∀ part ∈ [Entity.decode (trim run.toList), Escape.unbracket (trim run.toList)],
      ∀ node ∈ ((pageAs true content).result Journal.defaultLimit).nodes, ¬ node.Holds part

instance (content run : String) : Decidable (LosesInSilence content run) :=
  inferInstanceAs (Decidable (_ ∧ _))

/-- Text beside the parts that are read, the marks of a list and a run that begins inside a reference
are lost in silence. -/
theorem losesInSilence_pages :
    LosesInSilence "[box]lost[heading]title[/heading][/box]" "lost" ∧
    LosesInSilence "[row_inner][heading]title[/heading]lost[/row_inner]" "lost" ∧
    LosesInSilence
      "[row_inner][column_inner][text]kept[/text][text]lost[/text][/column_inner][/row_inner]"
      "lost" ∧
    LosesInSilence
      "[pricing_tables]lost[pricing_table title=\"plan\"][/pricing_table][/pricing_tables]"
      "lost" ∧
    LosesInSilence "[accordion]lost[toggle title=\"question\"][/toggle][/accordion]" "lost" ∧
    LosesInSilence
      "[accordion][toggle]lost[/toggle][toggle title=\"question\"][/toggle][/accordion]" "lost" ∧
    LosesInSilence "[pricing_table title=\"plan\"]\n+ one\n+ two\n[/pricing_table]"
      "\n+ one\n+ two\n" ∧
    LosesInSilence "[heading]fish &am[text]p; chips[/text][/heading]" "p; chips" := by
  exact ⟨by decide +kernel, by decide +kernel, by decide +kernel, by decide +kernel,
    by decide +kernel, by decide +kernel, by decide +kernel, by decide +kernel⟩

end Import

end PageMarkup
