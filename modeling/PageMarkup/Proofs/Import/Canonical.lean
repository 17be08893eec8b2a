import PageMarkup.Proofs.Import.Content
import PageMarkup.Proofs.Import.Grid

/-!
# Nodes in canonical form

A node is in canonical form when its markup says what its properties show: the texts are trimmed, a
hero has a title, questions are there, features can be told from their lines, some column is not
empty, and a row of features is no longer than their number.  The markup of such a node is made of
stable portions.
-/

namespace PageMarkup

open Text Template

/-! ### Canonical form -/

namespace Node

/-- The texts that become content of tags when the node is rendered. -/
def texts (node : Node) : List String :=
  let props := node.props
  match node.kind with
  | .section | .image | .divider | .spacer | .statsRow => []
  | .heading => (props.text? headingNames).toList
  | .text => (props.text? textNames).toList
  | .button => (props.text? labelNames).toList
  | .columns => (columnItems node).flatMap fun item =>
    (columnTitle? item).toList ++ (columnText? item).toList
  | .card => (props.text? titleNames).toList
    ++ (props.text? ["text", "description", "body"]).toList
    ++ (props.text? ["buttonLabel", "ctaLabel", "linkLabel"]).toList
  | .featureGrid => (props.text? titleNames).toList ++ (featureItems node).map describe
  | .pricingCards => (props.text? titleNames).toList
  | .testimonial => (props.text? ["quote", "text", "content"]).toList
  | .faq => (props.text? titleNames).toList ++ (askedOf (questionItems node)).map Prod.snd
  | .hero => (props.text? titleNames).toList
    ++ (props.text? ["subtitle", "description", "text"]).toList
    ++ (props.text? ["ctaLabel", "buttonLabel"]).toList
  | .unknown _ => (props.text? ["content"]).toList

/-- The node is in canonical form. -/
structure IsCanonical (node : Node) : Prop where
  /-- Every rendered text that becomes content of a tag is trimmed. -/
  texts : ∀ text ∈ node.texts, IsTrimmed text.toList
  /-- A hero has a title. -/
  hero : node.kind = .hero → (node.props.text? titleNames).isSome
  /-- Some record of questions has a question. -/
  faq : node.kind = .faq → askedOf (questionItems node) ≠ []
  /-- Every feature of a plan is a trimmed text on one line that is not blank. -/
  pricing : node.kind = .pricingCards →
    ∀ plan ∈ planItems node, ∀ feature ∈ planFeatures plan, IsFeature feature
  /-- Some column is not empty. -/
  columns : node.kind = .columns → ∃ item ∈ columnItems node, columnCell item ≠ []
  /-- A row of features has no more columns than there are features. -/
  featureGrid : node.kind = .featureGrid →
    columnsPerRow node.props (featureItems node).length ≤ (featureItems node).length

instance (node : Node) : Decidable node.IsCanonical :=
  decidable_of_iff
    ((∀ text ∈ node.texts, IsTrimmed text.toList) ∧
      (node.kind = .hero → (node.props.text? titleNames).isSome) ∧
      (node.kind = .faq → askedOf (questionItems node) ≠ []) ∧
      (node.kind = .pricingCards →
        ∀ plan ∈ planItems node, ∀ feature ∈ planFeatures plan, IsFeature feature) ∧
      (node.kind = .columns → ∃ item ∈ columnItems node, columnCell item ≠ []) ∧
      (node.kind = .featureGrid →
        columnsPerRow node.props (featureItems node).length ≤ (featureItems node).length))
    ⟨fun ⟨htexts, hhero, hfaq, hpricing, hcolumns, hgrid⟩ =>
      ⟨htexts, hhero, hfaq, hpricing, hcolumns, hgrid⟩,
      fun h => ⟨h.texts, h.hero, h.faq, h.pricing, h.columns, h.featureGrid⟩⟩

/-- A text that is rendered is trimmed. -/
theorem IsCanonical.isTrimmedText {node : Node} (h : node.IsCanonical) {text : Option String}
    (htext : ∀ content ∈ text, content ∈ node.texts) : IsTrimmedText text :=
  fun content hcontent => h.texts content (htext content hcontent)

end Node

/-! ### Portions of a node -/

namespace Forest

/-- A stable element is a portion. -/
theorem isPortioned_single {tag : Tag} {children : Forest}
    (hrow : (tag.name == "row_inner") = false) (h : (Markup.element tag children).IsStable) :
    IsPortioned [.element tag children] [.single (.element tag children)] := by
  refine ⟨rfl, by simp, fun portion hportion => ?_, List.isChain_singleton _⟩
  obtain rfl := List.mem_singleton.mp hportion
  exact ⟨⟨rfl, hrow⟩, h⟩

/-- The rows of a grid with at least one cell are a portion. -/
theorem isPortioned_grid {columns : Nat} {cells : List Forest} (hne : cells ≠ [])
    (h : Yields (Element.toGrid (gridRows columns cells)) [grid columns cells]) :
    IsPortioned (grid columns cells) [.rows (gridRows columns cells)] := by
  have hforest : (Portion.rows (gridRows columns cells)).forest = grid columns cells := by
    rw [Portion.forest, Portion.items, List.map_map, grid_eq]
    rfl
  refine ⟨hforest.symm, by simp, fun portion hportion => ?_, List.isChain_singleton _⟩
  obtain rfl := List.mem_singleton.mp hportion
  refine ⟨⟨?_, fun row hrow => ?_⟩, hforest ▸ h⟩
  · rw [gridRows, Ne, List.map_eq_nil_iff]
    exact chunks_ne_nil (by omega) hne
  · obtain ⟨piece, -, rfl⟩ := List.mem_map.mp hrow
    rfl

/-- Under the heading of a group a portion stays a portion. -/
theorem exists_isPortioned_grouped {props : Props} {body : Forest} {portion : Portion}
    (h : IsPortioned body [portion]) (htitle : IsTrimmedText (props.text? titleNames)) :
    ∃ portions, IsPortioned (lines (groupTitle props ++ [body])) portions := by
  rw [groupTitle]
  cases hfound : props.text? titleNames with
  | none => exact ⟨[portion], h⟩
  | some title =>
    obtain ⟨rfl, -, hstable, -⟩ := h
    have hlevel : Restricted.level.allow "2" = some "2" := allow_level (by decide)
    have halign : Restricted.align.allow "center" = some "center" := by decide
    have hheading := isStable_heading (htitle title hfound) (Props.allBlank_of_text? hfound)
      (isNormal_some hlevel) (isNormal_some halign) (isNormal_none .color)
    let above : Portion := .single (plainElement ⟨"heading", [("level", "2"), ("align", "center")]⟩
      title)
    refine ⟨[above, portion], rfl, by simp, fun other hother => ?_, ?_⟩
    · rcases List.mem_cons.mp hother with rfl | hother
      · exact ⟨⟨rfl, rfl⟩, hheading⟩
      · exact hstable other hother
    · rw [Portion.AreApart, List.isChain_pair]
      exact fun hrows => absurd hrows.1 (by simp [above, Portion.isRows])

end Forest

/-! ### Single elements -/

namespace Node

open Forest

variable {node : Node} {body : Forest}

/-- The markup of a heading in canonical form is made of stable portions. -/
theorem exists_isPortioned_heading (hkind : node.kind = .heading) (h : node.IsCanonical)
    (hbody : node.markup? = some body) : ∃ portions, IsPortioned body portions := by
  have hsome : headingMarkup? node = some body := by simpa [markup?, hkind] using hbody
  obtain ⟨title, htitle, -⟩ := Option.map_eq_some_iff.mp hsome
  rw [markup?_heading hkind htitle] at hbody
  obtain rfl := Option.some.inj hbody
  have hlevel : IsNormal .level
      (some ((node.props.kept? ⟨["level", "size"], .level⟩).getD defaultLevel)) := by
    cases hvalue : node.props.kept? ⟨["level", "size"], .level⟩ with
    | none => exact isNormal_some (allow_level (by decide))
    | some level => exact hvalue ▸ node.props.isNormal_kept? ⟨["level", "size"], .level⟩
  exact ⟨_, isPortioned_single rfl (isStable_heading
    (h.texts title (by simp [texts, hkind, htitle])) (Props.allBlank_of_text? htitle) hlevel
    (node.props.isNormal_kept? _) (node.props.isNormal_kept? _))⟩

/-- The markup of a text in canonical form is made of stable portions. -/
theorem exists_isPortioned_text (hkind : node.kind = .text) (h : node.IsCanonical)
    (hbody : node.markup? = some body) : ∃ portions, IsPortioned body portions := by
  have hsome : textMarkup? node = some body := by simpa [markup?, hkind] using hbody
  obtain ⟨content, hcontent, -⟩ := Option.map_eq_some_iff.mp hsome
  rw [markup?_text hkind hcontent] at hbody
  obtain rfl := Option.some.inj hbody
  exact ⟨_, isPortioned_single rfl (isStable_text
    (h.texts content (by simp [texts, hkind, hcontent])) (Props.allBlank_of_text? hcontent)
    (node.props.isNormal_kept? _) (node.props.isNormal_kept? _))⟩

/-- The markup of an image is made of stable portions. -/
theorem exists_isPortioned_image (hkind : node.kind = .image)
    (hbody : node.markup? = some body) : ∃ portions, IsPortioned body portions := by
  have hsome : imageMarkup? node = some body := by simpa [markup?, hkind] using hbody
  obtain ⟨src, hsrc, -⟩ := Option.map_eq_some_iff.mp hsome
  rw [valueOf?_src hkind] at hsrc
  rw [markup?_image hkind hsrc] at hbody
  obtain rfl := Option.some.inj hbody
  have hnormal : IsNormal .src (some src) := hsrc ▸ node.props.isNormal_kept? _
  exact ⟨_, isPortioned_single rfl (isStable_image hnormal (node.props.isNormal_kept? _)
    (nonblank?_text? _ _))⟩

/-- The markup of a button in canonical form is made of stable portions. -/
theorem exists_isPortioned_button (hkind : node.kind = .button) (h : node.IsCanonical)
    (hbody : node.markup? = some body) : ∃ portions, IsPortioned body portions := by
  have hsome : buttonMarkup? node = some body := by simpa [markup?, hkind] using hbody
  obtain ⟨label, hlabel, -⟩ := Option.map_eq_some_iff.mp hsome
  rw [markup?_button hkind hlabel] at hbody
  obtain rfl := Option.some.inj hbody
  exact ⟨_, isPortioned_single rfl (isStable_button
    (h.texts label (by simp [texts, hkind, hlabel])) (Props.allBlank_of_text? hlabel)
    (node.props.isNormal_kept? _) (node.props.isNormal_kept? _) (node.props.isNormal_kept? _))⟩

/-- The text that stands for a node of an unknown kind in canonical form is made of stable
portions. -/
theorem exists_isPortioned_unknown {name : String} (hkind : node.kind = .unknown name)
    (h : node.IsCanonical) (hbody : node.markup? = some body) :
    ∃ portions, IsPortioned body portions := by
  have hsome : unknownMarkup? node = some body := by simpa [markup?, hkind] using hbody
  obtain ⟨content, hcontent, rfl⟩ := Option.map_eq_some_iff.mp hsome
  have hstable := isStable_text (h.texts content (by simp [texts, hkind, hcontent]))
    (Props.allBlank_of_text? hcontent) (isNormal_none .align)
    (isNormal_none .color)
  exact ⟨_, isPortioned_single rfl hstable⟩

/-! ### Boxes -/

/-- The markup of a card or a hero in canonical form is made of stable portions. -/
theorem exists_isPortioned_box (isHero : Bool)
    (hkind : node.kind = if isHero then .hero else .card) (h : node.IsCanonical)
    (hbody : node.markup? = some body) : ∃ portions, IsPortioned body portions := by
  let box := BoxContent.ofProps isHero node.props
  have hread : box.IsReadable := by
    refine ⟨h.isTrimmedText fun content hcontent => ?_, h.isTrimmedText fun content hcontent => ?_,
      h.isTrimmedText fun content hcontent => ?_, fun hhero => h.hero (hkind.trans (if_pos hhero))⟩
    all_goals cases isHero <;> simp_all [texts, box, BoxContent.ofProps]
  rw [BoxContent.markup?_box hkind] at hbody
  split at hbody
  · exact absurd hbody (by simp)
  · rename_i hne
    obtain rfl := Option.some.inj hbody
    exact ⟨_, isPortioned_single rfl
      (BoxContent.isStable (BoxContent.isShown_ofProps isHero node.props) hread
        (by simpa using hne))⟩

/-! ### Groups and grids -/

/-- The markup of columns in canonical form is made of stable portions. -/
theorem exists_isPortioned_columns (hkind : node.kind = .columns) (h : node.IsCanonical)
    (hbody : node.markup? = some body) : ∃ portions, IsPortioned body portions := by
  have hsome : columnsMarkup? node = some body := by simpa [markup?, hkind] using hbody
  rw [columnsMarkup?] at hsome
  split at hsome
  · exact absurd hsome (by simp)
  · rename_i hne
    obtain rfl := Option.some.inj hsome
    refine ⟨_, isPortioned_grid (by simpa using hne)
      (yields_columns rfl (h.columns hkind) fun item hitem => ⟨?_, ?_⟩)⟩
    · exact h.isTrimmedText fun content hcontent => by
        simp only [texts, hkind, List.mem_flatMap, List.mem_append, Option.mem_toList]
        exact ⟨item, hitem, .inl hcontent⟩
    · exact h.isTrimmedText fun content hcontent => by
        simp only [texts, hkind, List.mem_flatMap, List.mem_append, Option.mem_toList]
        exact ⟨item, hitem, .inr hcontent⟩

/-- The markup of features in canonical form is made of stable portions. -/
theorem exists_isPortioned_featureGrid (hkind : node.kind = .featureGrid) (h : node.IsCanonical)
    (hbody : node.markup? = some body) : ∃ portions, IsPortioned body portions := by
  have hsome : featureGridMarkup? node = some body := by simpa [markup?, hkind] using hbody
  rw [featureGridMarkup?] at hsome
  split at hsome
  · exact absurd hsome (by simp)
  · rename_i hempty
    obtain rfl := Option.some.inj hsome
    have hne : featureItems node ≠ [] := by simpa using hempty
    have hfew := h.featureGrid hkind
    have hhigh := columnsPerRow_le node.props (featureItems node).length
    have hlength := List.length_pos_of_ne_nil hne
    let columns := max (columnsPerRow node.props (featureItems node).length) 1
    let cells := (featureItems node).map featureCell
    have hgrid : IsPortioned (grid columns cells) [.rows (gridRows columns cells)] := by
      refine isPortioned_grid (by simpa [cells] using hne) (yields_features hne
        (Nat.le_max_right _ 1) (by omega) (by omega) fun feature hfeature => ?_)
      refine h.texts (describe feature) ?_
      simp only [texts, hkind, List.mem_append]
      exact .inr (List.mem_map_of_mem hfeature)
    rw [grid_max] at hgrid
    exact exists_isPortioned_grouped hgrid
      (h.isTrimmedText fun _ hcontent => by simp_all [texts])

/-- The markup of statistics is made of stable portions. -/
theorem exists_isPortioned_statsRow (hkind : node.kind = .statsRow)
    (hbody : node.markup? = some body) : ∃ portions, IsPortioned body portions := by
  have hsome : statsRowMarkup? node = some body := by simpa [markup?, hkind] using hbody
  rw [statsRowMarkup?] at hsome
  split at hsome
  · exact absurd hsome (by simp)
  · rename_i hempty
    obtain rfl := Option.some.inj hsome
    have hne : statisticItems node ≠ [] := by simpa using hempty
    exact ⟨_, isPortioned_grid (by simpa using hne) (yields_statistics hne rfl)⟩

/-- The markup of plans in canonical form is made of stable portions. -/
theorem exists_isPortioned_pricing (hkind : node.kind = .pricingCards) (h : node.IsCanonical)
    (hbody : node.markup? = some body) : ∃ portions, IsPortioned body portions := by
  have hsome : pricingMarkup? node = some body := by simpa [markup?, hkind] using hbody
  rw [pricingMarkup?] at hsome
  split at hsome
  · exact absurd hsome (by simp)
  · rename_i hempty
    obtain rfl := Option.some.inj hsome
    have hplans := isStable_plans (by simpa using hempty) (h.pricing hkind)
    exact exists_isPortioned_grouped (isPortioned_single rfl hplans)
      (h.isTrimmedText fun _ hcontent => by simp_all [texts])

/-- The markup of a testimonial in canonical form is made of stable portions. -/
theorem exists_isPortioned_testimonial (hkind : node.kind = .testimonial) (h : node.IsCanonical)
    (hbody : node.markup? = some body) : ∃ portions, IsPortioned body portions := by
  have hsome : testimonialMarkup? node = some body := by simpa [markup?, hkind] using hbody
  obtain ⟨quote, hquote, -⟩ := Option.map_eq_some_iff.mp hsome
  rw [markup?_testimonial hkind hquote] at hbody
  obtain rfl := Option.some.inj hbody
  exact ⟨_, isPortioned_single rfl (isStable_testimonial
    (h.texts quote (by simp [texts, hkind, hquote])) (Props.allBlank_of_text? hquote)
    (nonblank?_text? _ _) (nonblank?_text? _ _) (isNormal_allowed? _ _ _))⟩

/-- The markup of questions in canonical form is made of stable portions. -/
theorem exists_isPortioned_faq (hkind : node.kind = .faq) (h : node.IsCanonical)
    (hbody : node.markup? = some body) : ∃ portions, IsPortioned body portions := by
  have hsome : faqMarkup? node = some body := by simpa [markup?, hkind] using hbody
  rw [faqMarkup?] at hsome
  split at hsome
  · exact absurd hsome (by simp)
  · obtain rfl := Option.some.inj hsome
    have hquestions := isStable_questions (h.faq hkind) fun asked hasked =>
      h.texts asked.2 (by
        simp only [texts, hkind, List.mem_append]
        exact .inr (List.mem_map_of_mem hasked))
    exact exists_isPortioned_grouped (isPortioned_single rfl hquestions)
      (h.isTrimmedText fun _ hcontent => by simp_all [texts])

/-! ### All kinds -/

/-- The markup of a node in canonical form is made of stable portions. -/
theorem exists_isPortioned (h : node.IsCanonical) (hbody : node.markup? = some body) :
    ∃ portions, IsPortioned body portions := by
  cases hkind : node.kind with
  | «section» => simp [markup?, hkind] at hbody
  | heading => exact exists_isPortioned_heading hkind h hbody
  | text => exact exists_isPortioned_text hkind h hbody
  | image => exact exists_isPortioned_image hkind hbody
  | button => exact exists_isPortioned_button hkind h hbody
  | divider =>
    rw [markup?_divider hkind] at hbody
    obtain rfl := Option.some.inj hbody
    exact ⟨_, isPortioned_single rfl (isStable_divider (node.props.isNormal_kept? _)
      (node.props.isNormal_kept? _))⟩
  | spacer =>
    rw [markup?_spacer hkind] at hbody
    obtain rfl := Option.some.inj hbody
    exact ⟨_, isPortioned_single rfl (isStable_spacer (node.props.isNormal_kept? _))⟩
  | columns => exact exists_isPortioned_columns hkind h hbody
  | card => exact exists_isPortioned_box false hkind h hbody
  | featureGrid => exact exists_isPortioned_featureGrid hkind h hbody
  | pricingCards => exact exists_isPortioned_pricing hkind h hbody
  | testimonial => exact exists_isPortioned_testimonial hkind h hbody
  | statsRow => exact exists_isPortioned_statsRow hkind hbody
  | faq => exact exists_isPortioned_faq hkind h hbody
  | hero => exact exists_isPortioned_box true hkind h hbody
  | unknown name => exact exists_isPortioned_unknown hkind h hbody

end Node

end PageMarkup
