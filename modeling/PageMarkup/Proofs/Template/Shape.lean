import PageMarkup.Proofs.Markup.Shape
import PageMarkup.Proofs.Template.Results

/-!
# The shape of what templates give

Whatever the properties of a node hold, its markup is solid: tags of the vocabulary outside the
skeleton, with clean attributes, around escaped texts.  The attributes of a tag are followed through
the list of the names that they can have.
-/

namespace PageMarkup

open Text

namespace Template

/-! ### Attributes -/

/-- The attributes have names of a list, in its order and none twice, and they are clean. -/
structure AreListed (names : List String) (attributes : List (String × String)) : Prop where
  sublist : (attributes.map Prod.fst).Sublist names
  clean : Restricted.AreClean attributes

theorem areListed_nil : AreListed [] [] :=
  ⟨List.Sublist.refl [], Restricted.areClean_nil⟩

theorem AreListed.append {names others : List String} {attributes more : List (String × String)}
    (h : AreListed names attributes) (hmore : AreListed others more) :
    AreListed (names ++ others) (attributes ++ more) := by
  refine ⟨?_, h.clean.append hmore.clean⟩
  rw [List.map_append]
  exact h.sublist.append hmore.sublist

/-- A tag with attributes of a list of names is a tag of generated markup. -/
theorem AreListed.isSound {name : String} {names : List String}
    {attributes : List (String × String)} (h : AreListed names attributes)
    (hname : name ∈ Markup.vocabulary)
    (hnames : names.Nodup ∧ ∀ name ∈ names, Markup.isAttributeName name = true) :
    (Tag.mk name attributes).IsSound where
  vocabulary := hname
  isAttributeName entry hentry :=
    hnames.2 entry.1 (h.sublist.mem (List.mem_map_of_mem hentry))
  nodup := h.sublist.nodup hnames.1
  clean := h.clean

/-- Outside the skeleton a tag with attributes of a list of names may stand inside a section. -/
theorem AreListed.isInner {name : String} {names : List String}
    {attributes : List (String × String)} (h : AreListed names attributes)
    (hname : name ∈ Markup.vocabulary ∧ name ∉ Markup.frameNames)
    (hnames : names.Nodup ∧ ∀ name ∈ names, Markup.isAttributeName name = true) :
    (Tag.mk name attributes).IsInner where
  toIsSound := h.isSound hname.1 hnames
  notFrame := hname.2

theorem areListed_of_clean {name value : String} (h : Restricted.AreClean [(name, value)]) :
    AreListed [name] [(name, value)] :=
  ⟨List.Sublist.refl [name], h⟩

/-- An attribute that may be missing is listed, if its values are clean. -/
theorem areListed_attribute? {name : String} {value : Option String}
    (h : ∀ v ∈ value, Restricted.AreClean [(name, v)]) :
    AreListed [name] (attribute? name value) := by
  cases value with
  | none => exact ⟨List.nil_sublist [name], Restricted.areClean_nil⟩
  | some v => exact areListed_of_clean (h v rfl)

/-- An attribute without a restriction is listed, whatever its value is. -/
theorem areListed_free (name : String) (h : Restricted.ofAttribute? name = none)
    (value : Option String) : AreListed [name] (attribute? name value) :=
  areListed_attribute? fun v _ => Restricted.areClean_of_none h v

/-- A value that is allowed is in its normal form. -/
theorem allow_of_mem_allowed? {target : Restricted} {names : List String} {props : Props}
    {value : String} (h : value ∈ allowed? target names props) :
    target.allow value = some value := by
  obtain ⟨raw, -, hraw⟩ := Option.bind_eq_some_iff.mp h
  exact Restricted.allow_allow hraw

/-- A restricted attribute is listed with what some properties give to it. -/
theorem areListed_allowed (name : String) (target : Restricted)
    (h : Restricted.ofAttribute? name = some target) (names : List String) (props : Props) :
    AreListed [name] (attribute? name (allowed? target names props)) :=
  areListed_attribute? fun _ hv => Restricted.areClean_of_allow target h (allow_of_mem_allowed? hv)

/-- A value that is kept is in its normal form. -/
theorem allow_of_mem_kept? {props : Props} {rule : AttributeRule} {value : String}
    (h : value ∈ props.kept? rule) : rule.target.allow value = some value := by
  obtain ⟨raw, -, hraw⟩ := Option.bind_eq_some_iff.mp h
  exact Restricted.allow_allow hraw

/-- The attributes that are kept stand one after another, each under its name. -/
theorem named_kept (props : Props) (rules : List AttributeRule) :
    named (props.kept rules) =
      rules.flatMap fun rule => attribute? rule.target.name (props.kept? rule) := by
  rw [named, Props.kept, List.map_flatMap]
  congr 1
  funext rule
  cases props.kept? rule <;> rfl

/-- The attributes that are kept are listed under the names of their rules. -/
theorem areListed_kept (props : Props) (rules : List AttributeRule) :
    AreListed (rules.map fun rule => rule.target.name) (named (props.kept rules)) := by
  have hname (target : Restricted) : Restricted.ofAttribute? target.name = some target := by
    cases target <;> decide
  rw [named_kept]
  induction rules with
  | nil => exact areListed_nil
  | cons rule rules ih =>
    have hfirst : AreListed [rule.target.name] (attribute? rule.target.name (props.kept? rule)) :=
      areListed_attribute? fun v hv =>
        Restricted.areClean_of_allow rule.target (hname rule.target) (allow_of_mem_kept? hv)
    exact hfirst.append ih

/-- The restricted attributes of a node are listed under the names of the rules of its kind. -/
theorem areListed_node {node : Node} {kind : Kind} (hkind : node.kind = kind) :
    AreListed (kind.attributeRules.map fun rule => rule.target.name) (named node.kept) :=
  hkind ▸ areListed_kept node.props node.kind.attributeRules

/-! ### Elements that hold a text -/

/-- An element that holds plain text is solid. -/
theorem isSolid_plainElement {tag : Tag} (htag : tag.IsInner)
    (hvoid : Markup.isVoid tag.name = false) (text : String) :
    Forest.IsSolid [plainElement tag text] :=
  Forest.isSolid_holding htag hvoid fun _ hc => Escape.not_bracket_of_mem_text hc

/-- An element that holds rich text is solid. -/
theorem isSolid_richElement {tag : Tag} (htag : tag.IsInner)
    (hvoid : Markup.isVoid tag.name = false) (text : String) :
    Forest.IsSolid [richElement tag text] :=
  Forest.isSolid_holding htag hvoid fun _ hc => Escape.not_bracket_of_mem_rich hc

/-- A text element is solid. -/
theorem isSolid_textElement (body : String) : Forest.IsSolid [textElement body] :=
  isSolid_richElement (areListed_nil.isInner (by decide) (by decide)) rfl body

/-- A heading of a fixed level is solid. -/
theorem isSolid_heading {level : String} (hlevel : Restricted.level.allow level = some level)
    (title : String) : Forest.IsSolid [heading level title] := by
  have hclean : Restricted.AreClean [("level", level)] :=
    Restricted.areClean_of_allow .level (by decide) hlevel
  exact isSolid_plainElement ((areListed_of_clean hclean).isInner (by decide) (by decide)) rfl
    title

theorem allow_level {level : String} (h : level ∈ ["1", "2", "3"]) :
    Restricted.level.allow level = some level := by
  revert level
  decide +kernel

/-- The heading above a group is solid. -/
theorem isSolid_groupTitle {props : Props} {forest : Forest} (h : forest ∈ groupTitle props) :
    forest.IsSolid := by
  have hlevel : AreListed ["level"] [("level", "2")] :=
    areListed_of_clean (Restricted.areClean_of_allow .level (by decide)
      (allow_level (by decide)))
  have halign : AreListed ["align"] [("align", "center")] :=
    areListed_of_clean (Restricted.areClean_of_allow .align (by decide)
      (by decide +kernel))
  rw [groupTitle, Option.mem_toList, Option.map_eq_some_iff] at h
  obtain ⟨title, -, rfl⟩ := h
  exact isSolid_plainElement ((hlevel.append halign).isInner (by decide) (by decide)) rfl title

/-- Parts of a node under the heading of a group are solid. -/
theorem isSolid_grouped {props : Props} {forest : Forest} (h : forest.IsSolid) :
    (Forest.lines (groupTitle props ++ [forest])).IsSolid := by
  refine Forest.isSolid_lines (by simp) fun other hother => ?_
  rcases List.mem_append.mp hother with hother | hother
  · exact isSolid_groupTitle hother
  · exact List.mem_singleton.mp hother ▸ h

/-! ### Single elements -/

variable {node : Node} {forest : Forest}

theorem isSolid_headingMarkup? (hkind : node.kind = .heading)
    (h : headingMarkup? node = some forest) : forest.IsSolid := by
  obtain ⟨title, -, rfl⟩ := Option.map_eq_some_iff.mp h
  have hkept := areListed_node hkind
  refine isSolid_plainElement ?_ rfl title
  rw [headingTag]
  cases hlevel : valueOf? .level node.kept with
  | some level => exact hkept.isInner (by decide) (by decide)
  | none =>
    have hdefault : AreListed ["level"] [("level", defaultLevel)] :=
      areListed_of_clean (Restricted.areClean_of_allow .level (by decide)
        (allow_level (by decide)))
    -- Without a level of its own the heading has only the other two attributes.
    have hothers : AreListed ["align", "color"] (named node.kept) := by
      refine ⟨?_, hkept.clean⟩
      rw [Node.kept, hkind] at hlevel ⊢
      have hmissing : node.props.kept? ⟨["level", "size"], .level⟩ = none := by
        cases hvalue : node.props.kept? ⟨["level", "size"], .level⟩ with
        | none => rfl
        | some value => simp [valueOf?, Props.kept, Kind.attributeRules, hvalue] at hlevel
      have hrest := (areListed_kept node.props
        [⟨["align", "textAlign"], .align⟩, ⟨["color"], .color⟩]).sublist
      rw [named_kept] at hrest ⊢
      simp only [Kind.attributeRules, List.flatMap_cons, hmissing]
      exact hrest
    exact (hdefault.append hothers).isInner (by decide) (by decide)

theorem isSolid_textMarkup? (hkind : node.kind = .text) (h : textMarkup? node = some forest) :
    forest.IsSolid := by
  obtain ⟨body, -, rfl⟩ := Option.map_eq_some_iff.mp h
  exact isSolid_richElement ((areListed_node hkind).isInner (by decide) (by decide)) rfl body

theorem isSolid_imageMarkup? (hkind : node.kind = .image) (h : imageMarkup? node = some forest) :
    forest.IsSolid := by
  obtain ⟨source, -, rfl⟩ := Option.map_eq_some_iff.mp h
  have halt := areListed_free "alt" (by decide) (node.props.text? ["alt", "caption"])
  exact Forest.isSolid_empty
    (((areListed_node hkind).append halt).isInner (by decide) (by decide))

theorem isSolid_buttonMarkup? (hkind : node.kind = .button)
    (h : buttonMarkup? node = some forest) : forest.IsSolid := by
  obtain ⟨label, -, rfl⟩ := Option.map_eq_some_iff.mp h
  exact isSolid_plainElement ((areListed_node hkind).isInner (by decide) (by decide)) rfl label

theorem isSolid_divider (hkind : node.kind = .divider) : (emptyMarkup "divider" node).IsSolid :=
  Forest.isSolid_empty ((areListed_node hkind).isInner (by decide) (by decide))

theorem isSolid_spacer (hkind : node.kind = .spacer) : (emptyMarkup "spacer" node).IsSolid :=
  Forest.isSolid_empty ((areListed_node hkind).isInner (by decide) (by decide))

theorem isSolid_unknownMarkup? (h : unknownMarkup? node = some forest) : forest.IsSolid := by
  obtain ⟨content, -, rfl⟩ := Option.map_eq_some_iff.mp h
  exact isSolid_textElement content

/-! ### Boxes -/

/-- A box around solid parts is solid. -/
theorem isSolid_boxMarkup? (hkind : node.kind = .card ∨ node.kind = .hero)
    {parts : List Markup} (hparts : ∀ part ∈ parts, Forest.IsSolid [part])
    (h : boxMarkup? node parts = some forest) : forest.IsSolid := by
  rw [boxMarkup?] at h
  split at h
  · exact absurd h (by simp)
  · obtain rfl := Option.some.inj h
    refine Forest.isSolid_block ?_ rfl (Forest.isLines_lines fun line hline => ?_)
    · rcases hkind with hkind | hkind
      · exact (areListed_node hkind).isInner (by decide) (by decide)
      · exact (areListed_node hkind).isInner (by decide) (by decide)
    · obtain ⟨part, hpart, rfl⟩ := List.mem_map.mp hline
      exact hparts part hpart

theorem isSolid_cardParts (props : Props) : ∀ part ∈ cardParts props, Forest.IsSolid [part] := by
  intro part hpart
  simp only [cardParts, List.mem_append, Option.mem_toList, Option.map_eq_some_iff] at hpart
  rcases hpart with ((himage | ⟨title, -, rfl⟩) | ⟨body, -, rfl⟩) | hbutton
  · obtain ⟨source, hsource, rfl⟩ := Option.map_eq_some_iff.mp himage
    have hsrc : AreListed ["src"] [("src", source)] :=
      areListed_of_clean (Restricted.areClean_of_allow .src (by decide)
        (allow_of_mem_allowed? hsource))
    have halt := areListed_free "alt" (by decide) (props.text? titleNames)
    exact Forest.isSolid_empty ((hsrc.append halt).isInner (by decide) (by decide))
  · exact isSolid_heading (allow_level (by decide)) title
  · exact isSolid_textElement body
  · obtain ⟨label, -, rfl⟩ := Option.map_eq_some_iff.mp hbutton
    have hhref := areListed_allowed "href" .href (by decide)
      ["buttonHref", "ctaHref", "href", "link"] props
    exact isSolid_plainElement (hhref.isInner (by decide) (by decide)) rfl label

theorem isSolid_heroParts (props : Props) : ∀ part ∈ heroParts props, Forest.IsSolid [part] := by
  intro part hpart
  simp only [heroParts, List.mem_append, Option.mem_toList, Option.map_eq_some_iff] at hpart
  rcases hpart with (⟨title, -, rfl⟩ | ⟨body, -, rfl⟩) | hbutton
  · exact isSolid_heading (allow_level (by decide)) title
  · exact isSolid_textElement body
  · obtain ⟨label, -, rfl⟩ := Option.map_eq_some_iff.mp hbutton
    have hhref := areListed_allowed "href" .href (by decide)
      ["ctaHref", "buttonHref", "href"] props
    have hstyle : AreListed ["style"] [("style", "primary")] :=
      areListed_of_clean (Restricted.areClean_of_allow .style (by decide)
        (by decide +kernel))
    exact isSolid_plainElement ((hhref.append hstyle).isInner (by decide) (by decide)) rfl label

/-! ### Grids -/

/-- A row of cells is solid. -/
theorem isSolid_row (columns : Nat) {cells : List Forest} (h : ∀ cell ∈ cells, cell.IsLines) :
    Forest.IsSolid [row columns cells] := by
  refine Forest.isSolid_block (areListed_nil.isInner (by decide) (by decide)) rfl
    (Forest.isLines_lines fun line hline => ?_)
  obtain ⟨⟨content, span⟩, hmem, rfl⟩ := List.mem_map.mp hline
  have hspan : AreListed ["span"] [("span", toString span)] :=
    areListed_of_clean (Restricted.areClean_of_none (by decide) _)
  exact Forest.isSolid_block (hspan.isInner (by decide) (by decide)) rfl
    (h content (List.of_mem_zip hmem).1)

/-- A grid of at least one cell is solid. -/
theorem isSolid_grid (columns : Nat) {cells : List Forest} (hne : cells ≠ [])
    (h : ∀ cell ∈ cells, cell.IsLines) : (grid columns cells).IsSolid := by
  refine Forest.isSolid_lines ?_ fun line hline => ?_
  · rw [Ne, List.map_eq_nil_iff, chunks, List.map_eq_nil_iff, List.range_eq_nil]
    have hlength := List.length_pos_of_ne_nil hne
    have hdiv : 0 < (cells.length + max columns 1 - 1) / max columns 1 :=
      Nat.div_pos (by omega) (by omega)
    omega
  · obtain ⟨piece, hpiece, rfl⟩ := List.mem_map.mp hline
    refine isSolid_row columns fun cell hcell => h cell ?_
    obtain ⟨i, -, rfl⟩ := List.mem_map.mp hpiece
    exact List.mem_of_mem_drop (List.mem_of_mem_take hcell)

theorem isLines_columnCell (item : Props) : (columnCell item).IsLines := by
  refine Forest.isLines_lines fun line hline => ?_
  simp only [List.mem_append, Option.mem_toList, Option.map_eq_some_iff] at hline
  rcases hline with ⟨title, -, rfl⟩ | ⟨content, -, rfl⟩
  · exact isSolid_heading (allow_level (by decide)) title
  · exact isSolid_textElement content

theorem isSolid_featureCell (feature : Props) : (featureCell feature).IsSolid := by
  have htitle := areListed_free "title" (by decide) (feature.text? ["title", "name"])
  have hicon := areListed_free "icon" (by decide) (feature.text? ["icon"])
  exact isSolid_richElement ((htitle.append hicon).isInner (by decide) (by decide)) rfl _

theorem isSolid_statisticCell (statistic : Props) : (statisticCell statistic).IsSolid := by
  have hnumber := areListed_free "number" (by decide)
    (statistic.text? ["value", "number"])
  have htitle := areListed_free "title" (by decide) (statistic.text? ["label", "title"])
  exact Forest.isSolid_empty ((hnumber.append htitle).isInner (by decide) (by decide))

/-- A grid of records is solid if the cell of each record has lines of its own. -/
theorem isSolid_grid_map {records : List Props} {cell : Props → Forest} (columns : Nat)
    (hne : ¬ records.isEmpty = true) (h : ∀ record, (cell record).IsLines) :
    (grid columns (records.map cell)).IsSolid := by
  refine isSolid_grid columns (by simpa using hne) fun forest hforest => ?_
  obtain ⟨record, -, rfl⟩ := List.mem_map.mp hforest
  exact h record

theorem isSolid_columnsMarkup? (h : columnsMarkup? node = some forest) : forest.IsSolid := by
  rw [columnsMarkup?] at h
  split at h
  · exact absurd h (by simp)
  · rename_i hne
    obtain rfl := Option.some.inj h
    exact isSolid_grid_map _ hne isLines_columnCell

theorem isSolid_featureGridMarkup? (h : featureGridMarkup? node = some forest) :
    forest.IsSolid := by
  rw [featureGridMarkup?] at h
  split at h
  · exact absurd h (by simp)
  · rename_i hne
    obtain rfl := Option.some.inj h
    exact isSolid_grouped
      (isSolid_grid_map _ hne fun feature => .inr (isSolid_featureCell feature))

theorem isSolid_statsRowMarkup? (h : statsRowMarkup? node = some forest) : forest.IsSolid := by
  rw [statsRowMarkup?] at h
  split at h
  · exact absurd h (by simp)
  · rename_i hne
    obtain rfl := Option.some.inj h
    exact isSolid_grid_map _ hne fun statistic => .inr (isSolid_statisticCell statistic)

/-! ### Plans, testimonials and questions -/

/-- No line of features holds a bracket. -/
theorem not_bracket_of_mem_featureLines {features : List String} {c : Char}
    (h : c ∈ featureLines features) : c ≠ '[' ∧ c ≠ ']' := by
  induction features with
  | nil => simp [featureLines, joinWith] at h
  | cons feature features ih =>
    have hfirst (h : c ∈ ['+', ' '] ++ Escape.text feature.toList) : c ≠ '[' ∧ c ≠ ']' := by
      rcases List.mem_append.mp h with h | h
      · simp only [List.mem_cons, List.not_mem_nil, or_false] at h
        rcases h with rfl | rfl <;> decide
      · exact Escape.not_bracket_of_mem_text h
    cases features with
    | nil => exact hfirst (by simpa [featureLines, joinWith] using h)
    | cons next features =>
      have hsplit : featureLines (feature :: next :: features) =
          ['+', ' '] ++ Escape.text feature.toList ++ ['\n'] ++ featureLines (next :: features) :=
        rfl
      rw [hsplit, List.mem_append, List.mem_append] at h
      rcases h with (h | h) | h
      · exact hfirst h
      · obtain rfl := List.mem_singleton.mp h
        decide
      · exact ih h

theorem isSolid_planMarkup (plan : Props) : Forest.IsSolid [planMarkup plan] := by
  have htitle := areListed_free "title" (by decide) (plan.text? ["name", "title"])
  have hprice := areListed_free "price" (by decide) (plan.text? ["price"])
  have hperiod := areListed_free "period" (by decide)
    (plan.text? ["period", "interval"])
  have hfeatured := areListed_free "featured" (by decide)
    (if isFeatured plan then some "on" else none)
  have hbutton := areListed_free "button_text" (by decide)
    (plan.text? ["ctaLabel", "buttonLabel"])
  have hurl := areListed_allowed "button_url" .href (by decide)
    ["ctaHref", "buttonHref", "href"] plan
  have hlisted := ((((htitle.append hprice).append hperiod).append hfeatured).append
    hbutton).append hurl
  refine Forest.isSolid_holding (hlisted.isInner (by decide) (by decide)) rfl fun c hc => ?_
  rw [ownLines] at hc
  split at hc
  · exact absurd hc (by simp)
  · rcases List.mem_append.mp hc with hc | hc
    · rcases List.mem_append.mp hc with hc | hc
      · obtain rfl := List.mem_singleton.mp hc
        decide
      · exact not_bracket_of_mem_featureLines hc
    · obtain rfl := List.mem_singleton.mp hc
      decide

theorem isSolid_plansElement (plans : List Props) : Forest.IsSolid [plansElement plans] := by
  refine Forest.isSolid_block (areListed_nil.isInner (by decide) (by decide)) rfl
    (Forest.isLines_lines fun line hline => ?_)
  obtain ⟨plan, -, rfl⟩ := List.mem_map.mp hline
  exact isSolid_planMarkup plan

theorem isSolid_pricingMarkup? (h : pricingMarkup? node = some forest) : forest.IsSolid := by
  rw [pricingMarkup?] at h
  split at h
  · exact absurd h (by simp)
  · obtain rfl := Option.some.inj h
    exact isSolid_grouped (isSolid_plansElement (planItems node))

theorem isSolid_testimonialMarkup? (h : testimonialMarkup? node = some forest) :
    forest.IsSolid := by
  obtain ⟨quote, -, rfl⟩ := Option.map_eq_some_iff.mp h
  have hauthor := areListed_free "author" (by decide)
    (node.props.text? ["author", "name"])
  have hjob := areListed_free "job_title" (by decide)
    (node.props.text? ["role", "jobTitle", "company"])
  have hportrait := areListed_allowed "portrait" .src (by decide)
    ["avatar", "image", "portrait"] node.props
  exact isSolid_plainElement
    (((hauthor.append hjob).append hportrait).isInner (by decide) (by decide)) rfl quote

theorem isSolid_toggle? {item : Props} {toggle : Markup} (h : toggle? item = some toggle) :
    Forest.IsSolid [toggle] := by
  obtain ⟨question, -, htoggle⟩ := Option.bind_eq_some_iff.mp h
  obtain rfl := Option.some.inj htoggle
  have hquestion : AreListed ["title"] [("title", question)] :=
    areListed_of_clean (Restricted.areClean_of_none (by decide) question)
  exact isSolid_richElement (hquestion.isInner (by decide) (by decide)) rfl _

theorem isSolid_questionsElement (items : List Props) :
    Forest.IsSolid [questionsElement items] := by
  refine Forest.isSolid_block (areListed_nil.isInner (by decide) (by decide)) rfl
    (Forest.isLines_lines fun line hline => ?_)
  obtain ⟨toggle, htoggle, rfl⟩ := List.mem_map.mp hline
  obtain ⟨item, -, hitem⟩ := List.mem_filterMap.mp htoggle
  exact isSolid_toggle? hitem

theorem isSolid_faqMarkup? (h : faqMarkup? node = some forest) : forest.IsSolid := by
  rw [faqMarkup?] at h
  split at h
  · exact absurd h (by simp)
  · obtain rfl := Option.some.inj h
    exact isSolid_grouped (isSolid_questionsElement (questionItems node))

end Template

/-! ### All kinds -/

/-- The markup of a node is solid. -/
theorem Node.isSolid_of_markup? {node : Node} {forest : Forest} (h : node.markup? = some forest) :
    forest.IsSolid := by
  cases hkind : node.kind with
  | «section» => simp [markup?, hkind] at h
  | heading => exact Template.isSolid_headingMarkup? hkind (by simpa [markup?, hkind] using h)
  | text => exact Template.isSolid_textMarkup? hkind (by simpa [markup?, hkind] using h)
  | image => exact Template.isSolid_imageMarkup? hkind (by simpa [markup?, hkind] using h)
  | button => exact Template.isSolid_buttonMarkup? hkind (by simpa [markup?, hkind] using h)
  | divider =>
    obtain rfl : Template.emptyMarkup "divider" node = forest := by
      simpa [markup?, hkind] using h
    exact Template.isSolid_divider hkind
  | spacer =>
    obtain rfl : Template.emptyMarkup "spacer" node = forest := by
      simpa [markup?, hkind] using h
    exact Template.isSolid_spacer hkind
  | columns => exact Template.isSolid_columnsMarkup? (by simpa [markup?, hkind] using h)
  | card =>
    exact Template.isSolid_boxMarkup? (.inl hkind) (Template.isSolid_cardParts node.props)
      (by simpa [markup?, hkind] using h)
  | featureGrid => exact Template.isSolid_featureGridMarkup? (by simpa [markup?, hkind] using h)
  | pricingCards => exact Template.isSolid_pricingMarkup? (by simpa [markup?, hkind] using h)
  | testimonial => exact Template.isSolid_testimonialMarkup? (by simpa [markup?, hkind] using h)
  | statsRow => exact Template.isSolid_statsRowMarkup? (by simpa [markup?, hkind] using h)
  | faq => exact Template.isSolid_faqMarkup? (by simpa [markup?, hkind] using h)
  | hero =>
    exact Template.isSolid_boxMarkup? (.inr hkind) (Template.isSolid_heroParts node.props)
      (by simpa [markup?, hkind] using h)
  | unknown name => exact Template.isSolid_unknownMarkup? (by simpa [markup?, hkind] using h)

end PageMarkup
