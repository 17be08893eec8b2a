import PageMarkup.Proofs.Compile.Page

/-!
# Angle brackets on a page

Tags, plain texts and the values of attributes are written without a `<`.  Rich text keeps each `<`
that it holds, so that inline HTML can be written in it.  On the page of a document a `<` therefore
comes from a node that is shown, and of headings, texts, images, buttons and dividers only a text
has one.
-/

namespace PageMarkup

open Text Template

/-! ### Escapes -/

namespace Escape

/-- Rich text keeps each `<`. -/
theorem angle_mem_rich_iff {cs : List Char} : '<' ∈ rich cs ↔ '<' ∈ cs :=
  mem_rich_iff (by decide)

/-- No `<` is left in plain text. -/
theorem angle_not_mem_text (cs : List Char) : '<' ∉ text cs :=
  fun h => (not_angle_of_mem_text h).1 rfl

/-- No `<` is left in an attribute value. -/
theorem angle_not_mem_value (cs : List Char) : '<' ∉ value cs :=
  fun h => (not_angle_of_mem_value h).1 rfl

end Escape

/-! ### Tags -/

namespace Markup

/-- A name of an attribute in small letters holds no `<`. -/
theorem angle_not_mem_of_isAttributeName {name : String} (h : isAttributeName name = true) :
    '<' ∉ name.toList :=
  fun hmem => absurd (isSmallAttributeChar_of_mem h hmem) (by decide)

/-- A name of an element in small letters holds no `<`. -/
theorem angle_not_mem_of_isElementName {name : String} (h : isElementName name = true) :
    '<' ∉ name.toList :=
  angle_not_mem_of_isAttributeName (isAttributeName_of_isElementName h)

end Markup

namespace Tag

variable {tag : Tag}

/-- The tag in front of an element holds no `<`, whatever the values of its attributes are. -/
theorem IsProper.angle_not_mem_opening (h : tag.IsProper) : '<' ∉ tag.opening := by
  have hattributes : '<' ∉ tag.attributes.flatMap attributeChars := by
    rw [List.mem_flatMap]
    rintro ⟨⟨name, value⟩, hentry, hmem⟩
    have hname := Markup.angle_not_mem_of_isAttributeName (h.isAttributeName _ hentry)
    simp [attributeChars, hname, Escape.angle_not_mem_value] at hmem
  have hname := Markup.angle_not_mem_of_isElementName h.isElementName
  simp [opening, hname, hattributes]

/-- Around some markup only the markup holds a `<`. -/
theorem IsProper.angle_mem_around_iff (h : tag.IsProper) {content : List Char} :
    '<' ∈ tag.around content ↔ '<' ∈ content := by
  have hname := Markup.angle_not_mem_of_isElementName h.isElementName
  simp [around, closing, h.angle_not_mem_opening, hname]

end Tag

theorem angle_mem_ownLines_iff {content : List Char} :
    '<' ∈ ownLines content ↔ '<' ∈ content := by
  rw [ownLines]
  split
  · rename_i hempty
    rw [List.isEmpty_iff.mp hempty]
  · simp

/-- In a section only what stands in its column holds a `<`. -/
theorem angle_mem_sectionAround_iff {attributes : List (String × String)}
    (h : (Tag.mk "section" attributes).IsProper) {content : List Char} :
    '<' ∈ sectionAround attributes content ↔ '<' ∈ content := by
  rw [sectionAround, h.angle_mem_around_iff, isSound_fullRow.isProper.angle_mem_around_iff,
    isSound_fullColumn.isProper.angle_mem_around_iff, angle_mem_ownLines_iff]

/-! ### Nodes -/

namespace Node

variable {node : Node}

/-- The node is shown, and its markup holds a `<`. -/
def HasAngle (node : Node) : Prop :=
  ∃ body, node.markup? = some body ∧ '<' ∈ body.render

instance : Decidable node.HasAngle :=
  decidable_of_iff (node.markup?.any (fun body => body.render.contains '<') = true) <| by
    simp [HasAngle, Option.any_eq_true]

/-- A node that is shown as one element holds a `<` if the text inside the element does. -/
theorem hasAngle_iff_of_holding {tag : Tag} {content : List Char}
    (h : node.markup? = some [Markup.holding tag content])
    (hvoid : Markup.isVoid tag.name = true → content = []) : node.HasAngle ↔ '<' ∈ content := by
  have hproper : tag.IsProper :=
    ((isSolid_of_markup? h).toIsContent.tags tag (by simp [Markup.holding, Markup.tagsAll,
      Markup.tags])).isProper
  have hinside : Markup.renderAll (if content.isEmpty then [] else
      [Markup.text (String.ofList content)]) = content := by
    split
    · rename_i hempty
      exact (List.isEmpty_iff.mp hempty).symm
    · simp [Markup.renderAll, Markup.render]
  have hrender : '<' ∈ Forest.render [Markup.holding tag content] ↔ '<' ∈ content := by
    rw [Forest.render, Markup.renderAll, Markup.renderAll, List.append_nil, Markup.holding,
      Markup.render, hinside]
    split
    · rename_i hname
      simp [hvoid hname, hproper.angle_not_mem_opening]
    · exact hproper.angle_mem_around_iff
  constructor
  · rintro ⟨body, hbody, hangle⟩
    obtain rfl := Option.some.inj (h.symm.trans hbody)
    exact hrender.mp hangle
  · exact fun hangle => ⟨_, h, hrender.mpr hangle⟩

/-- A node that is shown as one element around a property, if it has that property, holds a `<` if
the property holds one as it is written. -/
theorem hasAngle_iff_of_map {tag : Tag} {names : List String} {write : List Char → List Char}
    (h : node.markup? = (node.props.text? names).map fun text =>
      [Markup.holding tag (write text.toList)])
    (hvoid : Markup.isVoid tag.name = false) :
    node.HasAngle ↔ ∃ text ∈ node.props.text? names, '<' ∈ write text.toList := by
  cases htext : node.props.text? names with
  | none => simp [HasAngle, h, htext]
  | some text =>
    rw [htext] at h
    rw [hasAngle_iff_of_holding h fun hname => absurd hname (by simp [hvoid])]
    simp

/-- A text holds a `<` if its property does. -/
theorem hasAngle_iff_of_text (hkind : node.kind = .text) :
    node.HasAngle ↔ ∃ body ∈ node.props.text? textNames, '<' ∈ body.toList := by
  have hmarkup : node.markup? = (node.props.text? textNames).map fun body =>
      [Markup.holding ⟨"text", named node.kept⟩ (Escape.rich body.toList)] := by
    rw [markup?, hkind]
    rfl
  rw [hasAngle_iff_of_map hmarkup (show Markup.isVoid "text" = false by decide)]
  simp only [Escape.angle_mem_rich_iff]

/-- A heading holds no `<`. -/
theorem not_hasAngle_of_heading (hkind : node.kind = .heading) : ¬ node.HasAngle := by
  have hmarkup : node.markup? = (node.props.text? headingNames).map fun title =>
      [Markup.holding (headingTag node.kept) (Escape.text title.toList)] := by
    rw [markup?, hkind]
    rfl
  rw [hasAngle_iff_of_map hmarkup (show Markup.isVoid "heading" = false by decide)]
  rintro ⟨title, -, hangle⟩
  exact Escape.angle_not_mem_text _ hangle

/-- A button holds no `<`. -/
theorem not_hasAngle_of_button (hkind : node.kind = .button) : ¬ node.HasAngle := by
  have hmarkup : node.markup? = (node.props.text? labelNames).map fun label =>
      [Markup.holding ⟨"button", named node.kept⟩ (Escape.text label.toList)] := by
    rw [markup?, hkind]
    rfl
  rw [hasAngle_iff_of_map hmarkup (show Markup.isVoid "button" = false by decide)]
  rintro ⟨label, -, hangle⟩
  exact Escape.angle_not_mem_text _ hangle

/-- A node that is shown as an element without content holds no `<`. -/
theorem not_hasAngle_of_empty {tag : Tag} (h : node.markup? = some [.element tag []]) :
    ¬ node.HasAngle := by
  have hholding : node.markup? = some [Markup.holding tag []] := h
  rw [hasAngle_iff_of_holding hholding fun _ => rfl]
  exact List.not_mem_nil

/-- An image holds no `<`. -/
theorem not_hasAngle_of_image (hkind : node.kind = .image) : ¬ node.HasAngle := by
  have hmarkup : node.markup? = imageMarkup? node := by rw [markup?, hkind]
  cases hsource : valueOf? .src node.kept with
  | none => simp [HasAngle, hmarkup, imageMarkup?, hsource]
  | some source =>
    rw [imageMarkup?, hsource] at hmarkup
    exact not_hasAngle_of_empty hmarkup

/-- A divider holds no `<`. -/
theorem not_hasAngle_of_divider (hkind : node.kind = .divider) : ¬ node.HasAngle :=
  not_hasAngle_of_empty (by rw [markup?, hkind]; rfl)

/-- A section is not shown by itself. -/
theorem not_hasAngle_of_section (hkind : node.kind = .section) : ¬ node.HasAngle := by
  rintro ⟨body, hbody, -⟩
  simp [markup?, hkind] at hbody

end Node

/-! ### Pages -/

/-- The markup of some nodes holds a `<` if that of one of them does. -/
theorem Nodes.angle_mem_render_content_iff {nodes : List Node} :
    '<' ∈ (content nodes).render ↔ ∃ node ∈ nodes, node.HasAngle := by
  rw [content, Forest.render_lines, mem_joinWith_iff (by decide)]
  constructor
  · rintro ⟨piece, hpiece, hangle⟩
    obtain ⟨body, hbody, rfl⟩ := List.mem_map.mp hpiece
    obtain ⟨node, hnode, hmarkup⟩ := List.mem_filterMap.mp hbody
    exact ⟨node, hnode, body, hmarkup, hangle⟩
  · rintro ⟨node, hnode, body, hmarkup, hangle⟩
    have hbody : body ∈ bodies nodes := List.mem_filterMap.mpr ⟨node, hnode, hmarkup⟩
    exact ⟨body.render, List.mem_map_of_mem hbody, hangle⟩

namespace Document

variable (doc : Document)

/-- The nodes in the outline of which the markup has a property are those that are reached from the
top level. -/
theorem exists_mem_outlineFrom_iff {P : Node → Prop}
    (hP : ∀ node, P node → ∃ body, node.markup? = some body) (loose nodes : List Node) :
    (∃ part ∈ doc.outlineFrom loose nodes, ∃ node ∈ part.nodes, P node) ↔
      ∃ node ∈ loose ++ nodes.flatMap (Node.reached doc.reached), P node := by
  have hloose (loose : List Node) : (∃ part ∈ Outline.ofLoose loose, ∃ node ∈ part.nodes, P node) ↔
      ∃ node ∈ loose, P node := by
    rw [Outline.ofLoose]
    split
    · -- No section is put around a run of which nothing is shown, but none of its nodes counts.
      rename_i hempty
      constructor
      · rintro ⟨part, hpart, -⟩
        exact absurd hpart List.not_mem_nil
      · rintro ⟨node, hnode, hmarked⟩
        obtain ⟨body, hbody⟩ := hP node hmarked
        have hmem : body ∈ Nodes.bodies loose := List.mem_filterMap.mpr ⟨node, hnode, hbody⟩
        rw [List.isEmpty_iff.mp hempty] at hmem
        exact absurd hmem List.not_mem_nil
    · simp
  induction nodes generalizing loose with
  | nil => rw [outlineFrom, hloose, List.flatMap_nil, List.append_nil]
  | cons node nodes ih =>
    rw [outlineFrom, List.flatMap_cons, Node.reached]
    split
    · simp only [List.mem_append, or_and_right, exists_or, ih [], hloose, List.nil_append, or_assoc]
      simp
    · rw [← List.append_assoc]
      exact ih (loose ++ [node])

/-- The page of a document holds a `<` if the markup of a node does that is reached from the top
level. -/
theorem angle_mem_compile_iff (limit : Nat) : '<' ∈ (doc.compile.result limit).toList ↔
    ∃ node ∈ doc.topLevel.flatMap (Node.reached doc.reached), node.HasAngle := by
  have hshown : ∀ node : Node, node.HasAngle → ∃ body, node.markup? = some body :=
    fun node ⟨body, hbody, _⟩ => ⟨body, hbody⟩
  have houtline := doc.exists_mem_outlineFrom_iff hshown [] doc.topLevel
  rw [List.nil_append] at houtline
  rw [toList_compile, Outline.render_page, mem_joinWith_iff (by decide), ← houtline]
  constructor
  · rintro ⟨piece, hpiece, hangle⟩
    obtain ⟨part, hpart, rfl⟩ := List.mem_map.mp hpiece
    have hproper := (doc.isProper_of_mem_outline hpart).isSound.isProper
    rw [angle_mem_sectionAround_iff hproper, Nodes.angle_mem_render_content_iff] at hangle
    exact ⟨part, hpart, hangle⟩
  · rintro ⟨part, hpart, hangle⟩
    have hproper := (doc.isProper_of_mem_outline hpart).isSound.isProper
    refine ⟨_, List.mem_map_of_mem hpart, ?_⟩
    rwa [angle_mem_sectionAround_iff hproper, Nodes.angle_mem_render_content_iff]

end Document

end PageMarkup
