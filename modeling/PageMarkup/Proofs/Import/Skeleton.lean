import PageMarkup.Proofs.Import.Journal
import PageMarkup.Proofs.Import.Page

/-!
# The sections of a page are read back

The markup of any document can be read again, in canonical form or not.  What stands inside a
section may be read differently, but the sections themselves come back one by one, in order, each
with the backgrounds and the padding of its tag.  All values in the markup are in normal form, so
none of them is reported.
-/

namespace PageMarkup

open Text Template

/-! ### The opening tags of a text -/

namespace Markup

/-- The tag that a token opens. -/
def TagToken.opened? (token : TagToken) : Option Tag :=
  if token.closing then none else some token.tag

/-- The tags that are opened in a text, in order. -/
def openingTags (cs : List Char) : List Tag :=
  (findAll readTag cs).filterMap TagToken.opened?

/-- The tags of the sections that are opened in a text, in order. -/
def sectionTags (cs : List Char) : List Tag :=
  (openingTags cs).filter (·.name == "section")

mutual

/-- The parts of the markup of an item open its tags, in order. -/
theorem filterMap_opened?_pieces : (item : Markup) → IsWellFormed item →
    (pieces item).filterMap (fun piece => piece.value?.bind TagToken.opened?) = tags item
  | text content, _ => by simp [pieces, tags, Piece.value?]
  | element tag children, ⟨_, hvoid, hchildren⟩ => by
    rw [pieces, tags]
    split
    · rename_i hname
      rw [hvoid hname]
      rfl
    · have hinner := filterMap_opened?_piecesAll children hchildren
      rw [List.filterMap_cons, List.filterMap_append, hinner]
      simp [Piece.value?, TagToken.opened?]

/-- The parts of the markup of some items open their tags, in order. -/
theorem filterMap_opened?_piecesAll : (items : List Markup) → AreWellFormed items →
    (piecesAll items).filterMap (fun piece => piece.value?.bind TagToken.opened?) = tagsAll items
  | [], _ => rfl
  | item :: items, ⟨hitem, _, hitems⟩ => by
    rw [piecesAll, tagsAll, List.filterMap_append, filterMap_opened?_pieces item hitem,
      filterMap_opened?_piecesAll items hitems]

end

/-- The tags that are opened in the markup of well-formed items are their tags. -/
theorem openingTags_renderAll {items : List Markup} (h : AreWellFormed items) :
    openingTags (renderAll items) = tagsAll items := by
  rw [openingTags, findAll, scan_renderAll_eq h, List.filterMap_filterMap]
  exact filterMap_opened?_piecesAll items h

end Markup

namespace Outline

/-- Of the tags of a section only the first is one of a section. -/
theorem filter_tags_element (part : Outline) :
    (Markup.tags part.element).filter (·.name == "section") = [⟨"section", part.attributes⟩] := by
  have hinner : (Markup.tagsAll (Nodes.content part.nodes).ownLines).filter
      (·.name == "section") = [] := by
    rw [List.filter_eq_nil_iff]
    intro tag htag hname
    have hframe := (part.isContent_inside.tags tag htag).notFrame
    rw [beq_iff_eq.mp hname] at hframe
    exact hframe (by decide)
  simp only [element, Markup.skeleton, Markup.block, Markup.tags, Markup.tagsAll, List.append_nil,
    List.filter_cons, hinner]
  rfl

/-- The sections that are opened in the markup of a page are its sections. -/
theorem sectionTags_render_page {parts : List Outline} (h : ∀ part ∈ parts, part.IsProper) :
    Markup.sectionTags (page parts).render =
      parts.map fun part => ⟨"section", part.attributes⟩ := by
  rw [Markup.sectionTags, Forest.render, Markup.openingTags_renderAll (isWellFormed_page h), page,
    Forest.readsItems_tagsAll.lines, List.flatMap_map, List.filter_flatMap, List.map_eq_flatMap]
  refine List.flatMap_congr fun part _ => ?_
  rw [Markup.tagsAll, Markup.tagsAll, List.append_nil, filter_tags_element]

end Outline

/-! ### Sections with the attributes of their tags -/

/-- The node is a section that says of its backgrounds and its padding what the tag says. -/
structure Node.IsReadFrom (node : Node) (tag : Tag) : Prop where
  kind : node.kind = .section
  color : Dict.get? "backgroundColor" node.props =
    (tag.attributes.lookup "bg_color").map Value.text
  image : Dict.get? "backgroundImage" node.props =
    (tag.attributes.lookup "bg_image").map Value.text
  padding : Dict.get? "padding" node.props = (tag.attributes.lookup "padding").map Value.text

namespace Import

/-- The node that a section is read as says what the tag of the section says. -/
theorem isReadFrom_sectionDraft (made : List Kind) (color image padding : Option String) :
    (sectionDraft made color image padding).IsReadFrom
      ⟨"section", attributesOf (sectionEntries color image padding)⟩ where
  kind := by simp [sectionDraft]
  color := by cases color <;> cases image <;> cases padding <;> rfl
  image := by cases color <;> cases image <;> cases padding <;> rfl
  padding := by cases color <;> cases image <;> cases padding <;> rfl

variable (style : Background.PageStyle) (limit : Nat)

/-- The sections of a page are placed one after another on the top level. -/
theorem exists_topLevel_placeForest {parts : List Outline} (h : ∀ part ∈ parts, part.IsProper)
    (doc : Document) (made : List Kind) :
    ∃ nodes, ((placeForest style (Outline.page parts) doc).result limit made).1.topLevel =
        doc.topLevel ++ nodes ∧
      List.Forall₂ Node.IsReadFrom nodes (parts.map fun part => ⟨"section", part.attributes⟩) := by
  induction parts generalizing doc made with
  | nil => exact ⟨[], (List.append_nil doc.topLevel).symm, .nil⟩
  | cons part parts ih =>
    obtain ⟨color, image, padding, hattributes, -, -, -, hstep⟩ :=
      exists_result_placeForest_element style limit (h part List.mem_cons_self)
    have hfirst := isReadFrom_sectionDraft made color image padding
    rw [← hattributes] at hfirst
    rw [result_placeForest_page_cons style limit part parts fun items => hstep items doc made]
    obtain ⟨nodes, htop, hnodes⟩ :=
      ih (fun other hother => h other (List.mem_cons_of_mem part hother)) _ _
    refine ⟨_ :: nodes, ?_, .cons hfirst hnodes⟩
    rw [htop, Document.topLevel_pushAll, List.append_assoc, List.singleton_append]

/-! ### Values that are kept -/

/-- No phase of reading is that of reports about values. -/
theorem keepsValues_of_reading {phase : Phase} (h : phase ∈ Phase.reading) (message : String)
    (data : Option Json) : Entry.KeepsValues ⟨phase, message, data⟩ := by
  rintro (rfl : phase = .filter)
  exact absurd h (by decide)

/-- A value in normal form is stored without a report. -/
theorem keepsValues_filterText {target : Restricted} {raw : Option String}
    (h : IsNormal target raw) : ∀ value ∈ raw, ∀ node,
      (target.filterText value node).Every Entry.KeepsValues :=
  fun value hvalue node => Restricted.every_filterText (h.allow_of_mem value hvalue) node

/-- The background that attributes name is stored without a report. -/
theorem keepsValues_withBackground {color : Option String} (h : IsNormal .bgColor color)
    (node : Node) :
    (node.withBackground (color.map fun value => ⟨value, .attributes⟩)).Every
      Entry.KeepsValues := by
  have hsplit {background : Background.Found}
      (hfound : background ∈ color.map fun value => Background.Found.mk value .attributes) :
      Background.split background.value = (color, none) := by
    obtain ⟨value, rfl, rfl⟩ := Option.map_eq_some_iff.mp hfound
    exact Background.split_of_allow h
  refine node.every_withBackground keepsValues_of_reading (fun background hfound => ?_)
    fun background hfound => ?_
  · rw [hsplit hfound]
    exact keepsValues_filterText h
  · rw [hsplit hfound]
    exact fun _ hvalue => absurd hvalue (by simp)

variable {style}

/-- A section of a page is read without a report about a value. -/
theorem keepsValues_placeForest_element {part : Outline} (h : part.IsProper) {items : Forest}
    (hitems : ∀ doc, (placeForest style items doc).Every Entry.KeepsValues) (doc : Document) :
    (placeForest style (part.element :: items) doc).Every Entry.KeepsValues := by
  obtain ⟨color, image, padding, hattributes, hcolor, himage, hpadding⟩ := h.exists_attributes
  let children : Forest := [.element fullRow [.block fullColumn (Nodes.content part.nodes)]]
  have hinside : (Forest.toNodes children).Every Entry.KeepsValues :=
    Forest.every_toNodes (fun _ => keepsValues_of_reading (by decide) _ _) fun tag htag =>
      Tag.stores_of_areClean (h.isSound_of_mem_tags (List.mem_cons_of_mem _ htag)).clean
  have hhead : (sectionNode style ⟨⟨"section", part.attributes⟩, children⟩).Every
      Entry.KeepsValues := by
    rw [hattributes, sectionNode_eq style hcolor himage hpadding]
    refine Drafting.Every.bind (Drafting.every_node _) fun node => ?_
    refine Drafting.Every.bind (keepsValues_withBackground hcolor node) fun node => ?_
    have hstored := node.every_withBackgroundImage keepsValues_of_reading
      (keepsValues_filterText himage)
    refine Drafting.Every.bind hstored fun node => ?_
    exact Node.every_styled_of_allow hpadding.allow_of_mem node "padding"
  rw [Outline.element, Markup.skeleton, placeForest]
  simp only [Markup.element?, Element.name, beq_self_eq_true, if_true]
  refine Drafting.Every.bind hhead fun node => Drafting.Every.bind ?_ hitems
  exact every_placeSection keepsValues_of_reading hinside node doc

/-- A line end between sections is passed over. -/
theorem keepsValues_placeForest_newline {items : Forest}
    (hitems : ∀ doc, (placeForest style items doc).Every Entry.KeepsValues) (doc : Document) :
    (placeForest style (Markup.newline :: items) doc).Every Entry.KeepsValues := by
  have hloose : (Forest.toNodes [Markup.newline]).Every Entry.KeepsValues :=
    Forest.every_toNodes (fun _ => keepsValues_of_reading (by decide) _ _) fun tag htag =>
      absurd htag List.not_mem_nil
  have hitem : Markup.newline.element? = none := rfl
  rw [placeForest, hitem]
  have hplace (nodes : List Node) := every_place keepsValues_of_reading none nodes doc
  exact Drafting.Every.bind (hloose.bind hplace) hitems

/-- The sections of a page are read without a report about a value. -/
theorem keepsValues_placeForest_page {parts : List Outline} (h : ∀ part ∈ parts, part.IsProper)
    (doc : Document) : (placeForest style (Outline.page parts) doc).Every Entry.KeepsValues := by
  induction parts generalizing doc with
  | nil => exact Drafting.every_pure doc
  | cons part parts ih =>
    have hpart := h part List.mem_cons_self
    have hrest := ih fun other hother => h other (List.mem_cons_of_mem part hother)
    by_cases hlast : parts = []
    · subst hlast
      exact keepsValues_placeForest_element hpart hrest doc
    · have hpage : Outline.page (part :: parts) =
          part.element :: Markup.newline :: Outline.page parts := by
        rw [Outline.page, List.map_cons, Forest.lines_cons (by simpa using hlast)]
        rfl
      rw [hpage]
      exact keepsValues_placeForest_element hpart (keepsValues_placeForest_newline hrest) doc

/-! ### The page of a document -/

/-- Whatever a document holds, its markup is read as one section for each section tag in it, in
order, with the backgrounds and the padding that the tag names and no others; all of these sections
stand on the top level, nothing else does, and no value of the markup is reported. -/
theorem page_compile_skeleton (doc : Document) (published imported : Nat) :
    let text := doc.compile.result published
    List.Forall₂ Node.IsReadFrom ((page text).result imported).topLevel
        (Markup.sectionTags text.toList) ∧
      ∀ limit, ∀ entry ∈ (page text).entries limit, entry.phase ≠ .filter := by
  intro text
  have hproper : ∀ part ∈ doc.outline, part.IsProper := fun part => doc.isProper_of_mem_outline
  have htext : text.toList = (Outline.page doc.outline).render := doc.toList_compile published
  have hread : Forest.read text.toList = Outline.page doc.outline := doc.read_compile published
  refine ⟨?_, ?_⟩
  · obtain ⟨nodes, htop, hnodes⟩ := exists_topLevel_placeForest
      ((Background.harvest text.toList).result imported) imported hproper .empty []
    rw [result_page_of_render hproper htext hread, htop, htext,
      Outline.sectionTags_render_page hproper]
    exact hnodes
  · refine every_pageAs keepsValues_of_reading fun style => ?_
    obtain ⟨message, hdrafted⟩ := exists_drafted_page hproper htext hread style
    rw [hdrafted]
    refine Drafting.Every.bind (Drafting.every_note ?_) fun _ => ?_
    · exact show Phase.parse ≠ .filter by decide
    · exact keepsValues_placeForest_page hproper .empty

end Import

end PageMarkup
