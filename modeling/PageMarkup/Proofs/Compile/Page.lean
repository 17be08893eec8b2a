import PageMarkup.Proofs.Compile.Outline
import PageMarkup.Proofs.Restricted.Links

/-!
# What every page looks like

The page of a document is a sequence of sections with the full skeleton, one on each line, whatever
the document holds.  Nothing in a property can add a tag or an attribute: the reader finds in the
page the tags that the templates wrote, and each restricted attribute has a value that its
restriction allows as it is.
-/

namespace PageMarkup

open Text

/-! ### Rendering -/

namespace Forest

@[simp] theorem render_append (forest other : Forest) :
    (forest ++ other).render = forest.render ++ other.render :=
  Markup.renderAll_append forest other

@[simp] theorem render_newline : render [Markup.newline] = ['\n'] := by
  decide

/-- The markup of lines is the markup of each with line ends between neighbours. -/
theorem render_lines (forests : List Forest) :
    (lines forests).render = joinWith ['\n'] (forests.map render) := by
  induction forests with
  | nil => rfl
  | cons forest forests ih =>
    cases forests with
    | nil => rfl
    | cons next forests =>
      rw [lines_cons (List.cons_ne_nil next forests), render_append, render_append, ih,
        render_newline]
      rfl

/-- A solid forest has markup. -/
theorem IsSolid.render_ne_nil {forest : Forest} (h : forest.IsSolid) : forest.render ≠ [] := by
  obtain ⟨item, items, rfl⟩ := List.exists_cons_of_ne_nil h.ne_nil
  cases item with
  | text content => exact absurd h.begins (by simp [Markup.beginsWithText, Markup.isText])
  | element tag children =>
    rw [render, Markup.renderAll, Markup.render]
    split
    · simp [Tag.opening]
    · simp [Tag.around, Tag.opening]

/-- The markup of lines of their own. -/
theorem IsLines.render_ownLines {forest : Forest} (h : forest.IsLines) :
    forest.ownLines.render = PageMarkup.ownLines forest.render := by
  rcases h with rfl | h
  · rfl
  · rw [ownLines, if_neg (by simp [h.ne_nil]), PageMarkup.ownLines,
      if_neg (by simp [h.render_ne_nil])]
    rw [render_append, render_append, render_newline]

/-- The texts of lines are line ends and the texts of each. -/
theorem mem_textsAll_lines {content : String} {forests : List Forest}
    (h : content ∈ Markup.textsAll (lines forests)) :
    content = "\n" ∨ ∃ forest ∈ forests, content ∈ Markup.textsAll forest := by
  let others (forest : Forest) : List String := (Markup.textsAll forest).filter (· != "\n")
  have hreads : ReadsItems others :=
    ⟨rfl, fun items more => by simp only [others, Markup.textsAll_append, List.filter_append], rfl⟩
  refine or_iff_not_imp_left.mpr fun hother => ?_
  have hmem : content ∈ others (lines forests) := List.mem_filter.mpr ⟨h, by simpa using hother⟩
  rw [hreads.lines] at hmem
  obtain ⟨forest, hforest, hcontent⟩ := List.mem_flatMap.mp hmem
  exact ⟨forest, hforest, (List.mem_filter.mp hcontent).1⟩

/-- Elements on lines of their own are well formed if each of them is. -/
theorem isWellFormed_lines_elements (elements : List Markup)
    (h : ∀ item ∈ elements, item.IsWellFormed ∧ item.isText = false) :
    (lines (elements.map fun item => [item])).IsWellFormed := by
  induction elements with
  | nil => trivial
  | cons item items ih =>
    have hitem := h item List.mem_cons_self
    have hrest := ih fun other hother => h other (List.mem_cons_of_mem item hother)
    have hone : Markup.AreWellFormed [item] := ⟨hitem.1, by simp [hitem.2], trivial⟩
    cases items with
    | nil => exact hone
    | cons next items =>
      have hnext := h next (List.mem_cons_of_mem item List.mem_cons_self)
      have hfront : Markup.AreWellFormed ([item] ++ [Markup.newline]) :=
        Markup.areWellFormed_append hone isContent_newline.isWellFormed
          (by simp [Markup.endsWithText, hitem.2])
      refine Markup.areWellFormed_append hfront hrest fun hseam => ?_
      have hbegins : Markup.beginsWithText (lines ((next :: items).map fun item => [item])) =
          false := by
        cases items <;> simp [lines, Markup.beginsWithText, hnext.2]
      rw [hbegins] at hseam
      exact absurd hseam.2 (by decide)

end Forest

/-! ### Sections -/

/-- The tag of the full row is a tag of generated markup. -/
theorem isSound_fullRow : fullRow.IsSound :=
  Template.AreListed.isSound
    (Template.areListed_of_clean (Restricted.areClean_of_none (by decide) "full"))
    (by decide) (by decide)

/-- The tag of the full column is a tag of generated markup. -/
theorem isSound_fullColumn : fullColumn.IsSound :=
  Template.AreListed.isSound
    (Template.areListed_of_clean (Restricted.areClean_of_none (by decide) "12"))
    (by decide) (by decide)

namespace Markup

/-- The markup of a section with lines inside. -/
theorem render_skeleton (attributes : List (String × String)) {content : Forest}
    (h : content.IsLines) :
    (skeleton attributes content).render = sectionAround attributes content.render := by
  have hlines := h.render_ownLines
  rw [Forest.render] at hlines
  simp [skeleton, block, render, renderAll, isVoid, voidNames, fullRow, fullColumn, sectionAround,
    hlines]

end Markup

namespace Outline

/-- A section that comes from a node comes from one of the kind of sections. -/
def IsProper (part : Outline) : Prop :=
  ∀ node ∈ part.head, node.kind = .section

variable {part : Outline} {parts : List Outline}

/-- The tag of a section is a tag of generated markup. -/
theorem IsProper.isSound (h : part.IsProper) : (Tag.mk "section" part.attributes).IsSound := by
  rw [attributes]
  cases hhead : part.head with
  | none => exact Template.areListed_nil.isSound (by decide) (by decide)
  | some node => exact (Template.areListed_node (h node hhead)).isSound (by decide) (by decide)

/-- The lines inside a section may stand there. -/
theorem isContent_inside (part : Outline) :
    (Nodes.content part.nodes).ownLines.IsContent :=
  (Nodes.isLines_content part.nodes).isContent_ownLines

/-- A section is well formed. -/
theorem IsProper.isWellFormed_element (h : part.IsProper) : part.element.IsWellFormed := by
  have hrow (item : Markup) (hitem : item.IsWellFormed) (htext : item.isText = false) :
      Markup.AreWellFormed [item] := ⟨hitem, by simp [htext], trivial⟩
  have hcolumn : (Markup.block fullColumn (Nodes.content part.nodes)).IsWellFormed :=
    ⟨isSound_fullColumn.isProper, fun hvoid => absurd hvoid (by decide),
      part.isContent_inside.isWellFormed⟩
  have hfull : (Markup.element fullRow
      [Markup.block fullColumn (Nodes.content part.nodes)]).IsWellFormed :=
    ⟨isSound_fullRow.isProper, fun hvoid => absurd hvoid (by decide), hrow _ hcolumn rfl⟩
  have hvoid : Markup.isVoid "section" ≠ true := by decide
  exact ⟨h.isSound.isProper, fun h => absurd h hvoid, hrow _ hfull rfl⟩

/-- The tags of a section are tags of generated markup. -/
theorem IsProper.isSound_of_mem_tags (h : part.IsProper) {tag : Tag}
    (htag : tag ∈ Markup.tags part.element) : tag.IsSound := by
  simp only [element, Markup.skeleton, Markup.block, Markup.tags, Markup.tagsAll,
    List.append_nil, List.mem_cons] at htag
  rcases htag with rfl | rfl | rfl | htag
  · exact h.isSound
  · exact isSound_fullRow
  · exact isSound_fullColumn
  · exact (part.isContent_inside.tags tag htag).toIsSound

/-- The texts of a section hold no bracket. -/
theorem not_bracket_of_mem_texts {content : String}
    (hcontent : content ∈ Markup.texts part.element) : ']' ∉ content.toList := by
  simp only [element, Markup.skeleton, Markup.block, Markup.texts, Markup.textsAll,
    List.append_nil] at hcontent
  exact part.isContent_inside.texts content hcontent

/-! ### Pages -/

/-- A page is well formed. -/
theorem isWellFormed_page (h : ∀ part ∈ parts, part.IsProper) : (page parts).IsWellFormed := by
  have hlines := Forest.isWellFormed_lines_elements (parts.map element) fun item hitem => by
    obtain ⟨part, hpart, rfl⟩ := List.mem_map.mp hitem
    exact ⟨(h part hpart).isWellFormed_element, rfl⟩
  rwa [List.map_map] at hlines

/-- The tags of a page are tags of generated markup. -/
theorem isSound_of_mem_tags_page (h : ∀ part ∈ parts, part.IsProper) {tag : Tag}
    (htag : tag ∈ Markup.tagsAll (page parts)) : tag.IsSound := by
  rw [page, Forest.readsItems_tagsAll.lines] at htag
  obtain ⟨forest, hforest, htag⟩ := List.mem_flatMap.mp htag
  obtain ⟨part, hpart, rfl⟩ := List.mem_map.mp hforest
  refine (h part hpart).isSound_of_mem_tags ?_
  simpa [Markup.tagsAll] using htag

/-- The texts of a page hold no bracket. -/
theorem not_bracket_of_mem_texts_page {content : String}
    (hcontent : content ∈ Markup.textsAll (page parts)) : ']' ∉ content.toList := by
  rcases Forest.mem_textsAll_lines hcontent with rfl | ⟨forest, hforest, hcontent⟩
  · decide
  · obtain ⟨part, -, rfl⟩ := List.mem_map.mp hforest
    exact part.not_bracket_of_mem_texts (by simpa [Markup.textsAll] using hcontent)

/-- The markup of a page is that of its sections, one on each line. -/
theorem render_page (parts : List Outline) :
    (page parts).render = joinWith ['\n'] (parts.map fun part =>
      sectionAround part.attributes (Nodes.content part.nodes).render) := by
  rw [page, Forest.render_lines, List.map_map]
  congr 1
  refine List.map_congr_left fun part _ => ?_
  have hone : Forest.render [part.element] = part.element.render :=
    List.append_nil part.element.render
  exact hone.trans (Markup.render_skeleton part.attributes (Nodes.isLines_content part.nodes))

end Outline

namespace Document

variable (doc : Document)

/-- The sections of a document that come from nodes come from sections. -/
theorem isProper_of_mem_outlineFrom {loose nodes : List Node} {part : Outline}
    (h : part ∈ doc.outlineFrom loose nodes) : part.IsProper := by
  have hloose {loose : List Node} (h : part ∈ Outline.ofLoose loose) : part.IsProper := by
    rw [Outline.ofLoose] at h
    split at h
    · simp at h
    · obtain rfl := List.mem_singleton.mp h
      simp [Outline.IsProper]
  induction nodes generalizing loose with
  | nil => exact hloose h
  | cons node nodes ih =>
    rw [outlineFrom] at h
    split at h
    · rename_i hstructural
      rw [List.mem_append, List.mem_append, List.mem_singleton] at h
      rcases h with (h | rfl) | h
      · exact hloose h
      · rintro other ⟨⟩
        exact Kind.isStructural_iff.mp hstructural
      · exact ih h
    · exact ih h

/-- The sections of a document that come from nodes come from sections. -/
theorem isProper_of_mem_outline {part : Outline} (h : part ∈ doc.outline) : part.IsProper :=
  doc.isProper_of_mem_outlineFrom h

/-- The markup of a document is the markup of the page of its outline. -/
theorem toList_compile (limit : Nat) :
    (doc.compile.result limit).toList = (Outline.page doc.outline).render := by
  have hresult : doc.compile.result limit =
      String.ofList (doc.compileForest.result limit).render := rfl
  rw [hresult, result_compileForest, String.toList_ofList]

/-- The reader finds in the markup of a document the page of its outline. -/
theorem read_compile (limit : Nat) :
    Forest.read (doc.compile.result limit).toList = Outline.page doc.outline := by
  have hpage := Outline.isWellFormed_page fun part hpart => doc.isProper_of_mem_outline hpart
  rw [toList_compile, Forest.read, Forest.render, Markup.tokens_renderAll hpage,
    Markup.Growth.finish_extend_tokensOfAll hpage]

/-! ### Values that reach the page -/

/-- Whatever the properties of a document hold, each restricted attribute of each tag that is found
in its markup has a value that its restriction maps to itself, and if it names an address that is a
safe link. -/
theorem compile_clean (doc : Document) (limit : Nat) :
    ∀ token ∈ findAll Markup.readTag (doc.compile.result limit).toList,
      ∀ entry ∈ token.tag.attributes, ∀ target, Restricted.ofAttribute? entry.1 = some target →
        target.allow entry.2 = some entry.2 ∧
          (target.isLink = true → Restricted.IsSafeLink entry.2.toList) := by
  intro token htoken entry hentry target htarget
  have hproper : ∀ part ∈ doc.outline, part.IsProper := fun part => doc.isProper_of_mem_outline
  rw [findAll, toList_compile, Forest.render,
    Markup.scan_renderAll_eq (Outline.isWellFormed_page hproper)] at htoken
  obtain ⟨piece, hpiece, hvalue⟩ := List.mem_filterMap.mp htoken
  have hallow : target.allow entry.2 = some entry.2 := by
    cases piece with
    | char c => simp [Piece.value?] at hvalue
    | found found source =>
      obtain rfl := Option.some.inj hvalue
      rcases Markup.mem_tagsAll_of_mem_piecesAll _ hpiece with htag | hnone
      · exact (Outline.isSound_of_mem_tags_page hproper htag).clean entry hentry target htarget
      · simp [hnone] at hentry
  exact ⟨hallow, fun hlink => Restricted.isSafeLink_of_allow hlink hallow⟩

/-- A page with one button whose address has blanks around it. -/
def oneButton : Document :=
  ⟨[], [⟨.button, "b-1", [("href", .text " https://a.example/x "), ("label", .text "[Go]")]⟩], []⟩

/-- The link of the button is found in its markup, as it is allowed. -/
theorem compile_clean_oneButton :
    (⟨false, ⟨"button", [("href", "https://a.example/x")]⟩⟩ : Markup.TagToken) ∈
        findAll Markup.readTag (oneButton.compile.result 512).toList ∧
      Restricted.href.allow "https://a.example/x" = some "https://a.example/x" ∧
      Restricted.IsSafeLink "https://a.example/x".toList := by
  have htoken : (⟨false, ⟨"button", [("href", "https://a.example/x")]⟩⟩ : Markup.TagToken) ∈
      findAll Markup.readTag (oneButton.compile.result 512).toList := by
    rw [toList_compile]
    decide +kernel
  have hclean := compile_clean oneButton 512 _ htoken ("href", "https://a.example/x")
    List.mem_cons_self .href (by decide)
  exact ⟨htoken, hclean.1, hclean.2 rfl⟩

/-! ### The grammar of a page -/

/-- Some sections, as they are counted from the nodes of the top level: each node that is a section
makes one, and so does each run of other nodes between them of which any is shown. -/
theorem length_outlineFrom {loose : List Node}
    (hloose : ∀ node ∈ loose, node.kind.isStructural = false) (nodes : List Node) :
    (doc.outlineFrom loose nodes).length =
      nodes.countP (fun node => node.kind.isStructural) +
        ((loose ++ nodes).splitOnP fun node => node.kind.isStructural).countP fun run =>
          run.any fun node => node.markup?.isSome := by
  have hrun (run : List Node) : (Outline.ofLoose run).length =
      if run.any (fun node => node.markup?.isSome) then 1 else 0 := by
    have hempty : (Nodes.bodies run).isEmpty = !run.any fun node => node.markup?.isSome := by
      rw [Bool.eq_iff_iff, List.isEmpty_iff, Nodes.bodies, List.filterMap_eq_nil_iff]
      simp
    rw [Outline.ofLoose, hempty]
    cases run.any fun node => node.markup?.isSome <;> rfl
  -- `loose` is the run that the next section ends
  induction nodes generalizing loose with
  | nil =>
    rw [outlineFrom, hrun, List.append_nil, List.splitOnP_eq_singleton hloose]
    simp
  | cons node nodes ih =>
    rw [outlineFrom]
    split
    · rename_i hstructural
      have hnone : ∀ other ∈ ([] : List Node), other.kind.isStructural = false := by simp
      have hrest := ih hnone
      rw [List.splitOnP_append_cons_of_forall_mem hloose node hstructural, List.length_append,
        List.length_append, hrest, hrun, List.countP_cons, List.countP_cons, if_pos hstructural]
      simp only [List.length_cons, List.length_nil, List.nil_append]
      omega
    · rename_i hstructural
      have hstructural : node.kind.isStructural = false := by simpa using hstructural
      have hall : ∀ other ∈ loose ++ [node], other.kind.isStructural = false := by
        intro other hother
        rcases List.mem_append.mp hother with hother | hother
        · exact hloose other hother
        · exact List.mem_singleton.mp hother ▸ hstructural
      have hrest := ih hall
      rw [hrest, List.countP_cons, if_neg (by simp [hstructural]), List.append_assoc,
        List.singleton_append, Nat.add_zero]

end Document

/-- A section as it stands in a page: the attributes of its tag, and what stands on lines of its own
in its column. -/
structure PageSection where
  attributes : List (String × String)
  content : Forest

/-- The text is a page with these sections. -/
structure IsPage (text : List Char) (sections : List PageSection) : Prop where
  /-- The text is the sections, one on each line; each holds one full row, and that one full
  column. -/
  text_eq : text = joinWith ['\n']
    (sections.map fun part => sectionAround part.attributes part.content.render)
  /-- No attribute occurs twice in the tag of a section. -/
  isProper : ∀ part ∈ sections, (Tag.mk "section" part.attributes).IsProper
  /-- What a column holds is well formed; in particular void elements hold nothing. -/
  isWellFormed : ∀ part ∈ sections, part.content.IsWellFormed
  /-- Inside a column every tag is in the vocabulary, none is of the skeleton, and no attribute
  occurs twice in a tag. -/
  inner : ∀ part ∈ sections, ∀ tag ∈ Markup.tagsAll part.content,
    tag.IsProper ∧ tag.name ∈ Markup.vocabulary ∧ tag.name ∉ Markup.frameNames
  /-- The tags that a reader finds in the text are those of the sections. -/
  read_eq : Forest.read text =
    Forest.lines (sections.map fun part => [Markup.skeleton part.attributes part.content])
  /-- Every bracket of the text is a delimiter of a tag. -/
  isDelimited : ∀ piece ∈ scan Markup.readTag text, piece.IsDelimited

/-- The section of a page that a section of an outline becomes. -/
def Outline.pageSection (part : Outline) : PageSection :=
  ⟨part.attributes, Nodes.content part.nodes⟩

/-- The markup of every document is a page.  It has a section for each section on the top level, and
one for each run of other nodes on the top level of which any is shown. -/
theorem Document.compile_isPage (doc : Document) (limit : Nat) :
    ∃ sections, IsPage (doc.compile.result limit).toList sections ∧
      sections.length =
        doc.topLevel.countP (fun node => node.kind.isStructural) +
          (doc.topLevel.splitOnP fun node => node.kind.isStructural).countP fun run =>
            run.any fun node => (node.template.result limit).isSome := by
  have hproper : ∀ part ∈ doc.outline, part.IsProper := fun part => doc.isProper_of_mem_outline
  have hscan : scan Markup.readTag (Outline.page doc.outline).render =
      Markup.piecesAll (Outline.page doc.outline) :=
    Markup.scan_renderAll_eq (Outline.isWellFormed_page hproper)
  -- of a part of which nothing is shown the content is empty
  have hcontent (part : Outline) : (Nodes.content part.nodes).IsContent := by
    rcases Nodes.isLines_content part.nodes with hnil | hsolid
    · rw [hnil]
      exact Forest.isContent_nil
    · exact hsolid.toIsContent
  refine ⟨doc.outline.map Outline.pageSection, ⟨?_, ?_, ?_, ?_, ?_, ?_⟩, ?_⟩
  · rw [toList_compile, Outline.render_page, List.map_map]
    rfl
  · rintro _ hmem
    obtain ⟨part, hpart, rfl⟩ := List.mem_map.mp hmem
    exact (hproper part hpart).isSound.isProper
  · rintro _ hmem
    obtain ⟨part, -, rfl⟩ := List.mem_map.mp hmem
    exact (hcontent part).isWellFormed
  · rintro _ hmem tag htag
    obtain ⟨part, -, rfl⟩ := List.mem_map.mp hmem
    have hinner := (hcontent part).tags tag htag
    exact ⟨hinner.isProper, hinner.vocabulary, hinner.notFrame⟩
  · rw [read_compile, Outline.page, List.map_map]
    rfl
  · rw [toList_compile, hscan]
    exact Markup.isDelimited_piecesAll _ (Outline.isWellFormed_page hproper)
      fun content => Outline.not_bracket_of_mem_texts_page
  · simp only [Node.result_template]
    rw [List.length_map, outline, doc.length_outlineFrom (by simp), List.nil_append]

end PageMarkup
