import PageMarkup.Proofs.Filter

/-!
# What templates filter and what they write

Each kind of node offers values to restricted attributes: those of its rules, and the links and
pictures of its parts.  Its template leaves exactly the entries about the offers that are changed.
The restricted attributes in the markup that it gives are the allowed forms of the offers, in their
order, and apart from them only such as every markup of the template has.
-/

namespace PageMarkup

/-! ### Restricted attributes in markup -/

namespace Restricted

/-- The restricted ones of some attributes. -/
def among (attributes : List (String × String)) : List (Restricted × String) :=
  attributes.filterMap fun entry => (ofAttribute? entry.1).map (·, entry.2)

@[simp] theorem among_append (attributes others : List (String × String)) :
    among (attributes ++ others) = among attributes ++ among others :=
  List.filterMap_append

/-- An attribute without a restriction is not among them. -/
theorem among_free (name : String) (h : ofAttribute? name = none) (value : Option String) :
    among (Template.attribute? name value) = [] := by
  cases value <;> simp [among, Template.attribute?, h]

/-- An attribute with a restriction is among them, if it is there. -/
theorem among_attribute? (name : String) (target : Restricted)
    (h : ofAttribute? name = some target) (value : Option String) :
    among (Template.attribute? name value) = (value.map (target, ·)).toList := by
  cases value <;> simp [among, Template.attribute?, h]

/-- Restricted attributes under their names are restricted. -/
@[simp] theorem among_named (attributes : List (Restricted × String)) :
    among (Template.named attributes) = attributes := by
  have hname (target : Restricted) : ofAttribute? target.name = some target := by
    cases target <;> decide
  rw [among, Template.named, List.filterMap_map]
  simp [hname]

end Restricted

namespace Forest

/-- The restricted attributes of the tags of a forest, in order. -/
def carried (forest : Forest) : List (Restricted × String) :=
  (Markup.tagsAll forest).flatMap fun tag => Restricted.among tag.attributes

@[simp] theorem carried_nil : carried [] = [] := rfl

@[simp] theorem carried_append (forest other : Forest) :
    carried (forest ++ other) = carried forest ++ carried other := by
  simp [carried]

@[simp] theorem carried_newline : carried [Markup.newline] = [] := rfl

/-- The attributes of an element stand before those inside it. -/
@[simp] theorem carried_element (tag : Tag) (children : Forest) :
    carried [.element tag children] = Restricted.among tag.attributes ++ carried children := by
  rw [carried, Markup.tagsAll_element, List.flatMap_cons]
  rfl

theorem readsItems_carried : ReadsItems carried where
  nil := rfl
  append := carried_append
  newline := rfl

@[simp] theorem carried_ownLines (forest : Forest) : forest.ownLines.carried = forest.carried :=
  readsItems_carried.ownLines forest

@[simp] theorem carried_block (tag : Tag) (content : Forest) :
    carried [.block tag content] = Restricted.among tag.attributes ++ carried content := by
  rw [Markup.block, carried_element, carried_ownLines]

@[simp] theorem carried_holding (tag : Tag) (content : List Char) :
    carried [Markup.holding tag content] = Restricted.among tag.attributes := by
  rw [Markup.holding, carried_element]
  split <;> simp [carried, Markup.tagsAll, Markup.tags]

/-- On lines the attributes of each forest follow those of the one before. -/
@[simp] theorem carried_lines (forests : List Forest) :
    carried (lines forests) = forests.flatMap carried :=
  readsItems_carried.lines forests

end Forest

/-! ### What templates add -/

namespace Template

/-- The restricted attributes that stand in templates. -/
def fixed : List (Restricted × String) :=
  [(.level, "1"), (.level, "2"), (.level, "3"), (.align, "center"), (.style, "primary")]

/-- The attributes of `carried` are those of `kept` in their order, with fixed ones among them. -/
inductive AreCarried : (kept carried : List (Restricted × String)) → Prop
  | nil : AreCarried [] []
  | kept {entry : Restricted × String} {kept carried : List (Restricted × String)}
      (h : AreCarried kept carried) : AreCarried (entry :: kept) (entry :: carried)
  | fixed {entry : Restricted × String} {kept carried : List (Restricted × String)}
      (hentry : entry ∈ Template.fixed) (h : AreCarried kept carried) :
      AreCarried kept (entry :: carried)

namespace AreCarried

variable {kept more carried others : List (Restricted × String)}

theorem append (h : AreCarried kept carried) (hmore : AreCarried more others) :
    AreCarried (kept ++ more) (carried ++ others) := by
  induction h with
  | nil => exact hmore
  | kept _ ih => exact .kept ih
  | fixed hentry _ ih => exact .fixed hentry ih

/-- Nothing needs to be added. -/
theorem refl (kept : List (Restricted × String)) : AreCarried kept kept := by
  induction kept with
  | nil => exact .nil
  | cons entry kept ih => exact .kept ih

/-- Where nothing is kept all is fixed. -/
theorem of_fixed (h : ∀ entry ∈ carried, entry ∈ Template.fixed) : AreCarried [] carried := by
  induction carried with
  | nil => exact .nil
  | cons entry carried ih =>
    have hrest := ih fun other hother => h other (List.mem_cons_of_mem entry hother)
    exact .fixed (h entry List.mem_cons_self) hrest

/-- What is fixed may follow. -/
theorem append_fixed (h : AreCarried kept carried)
    (hothers : ∀ entry ∈ others, entry ∈ Template.fixed) : AreCarried kept (carried ++ others) := by
  have hall := h.append (of_fixed hothers)
  rwa [List.append_nil] at hall

/-- What holds of each item holds of all of them in a row. -/
theorem flatMap {α : Type} {items : List α} {f g : α → List (Restricted × String)}
    (h : ∀ item, AreCarried (f item) (g item)) :
    AreCarried (items.flatMap f) (items.flatMap g) := by
  induction items with
  | nil => exact .nil
  | cons item items ih =>
    rw [List.flatMap_cons, List.flatMap_cons]
    exact (h item).append ih

end AreCarried

end Template

/-! ### The offers of a node -/

namespace Node

/-- The offers of a node to the attributes of the rules of its kind. -/
def ruleOffers (node : Node) : List Offer :=
  node.props.offers (some node.id) node.kind.attributeRules

/-- The offer of a text in some properties of a node to an attribute. -/
def textOffers (node : Node) (target : Restricted) (names : List String) (props : Props) :
    List Offer :=
  (props.textOffer? (some node.id) target names).toList

/-- The offers that the template of a node filters, in order.  A node without its text is skipped
before its rules are looked at, and a button without a label before its link is. -/
def offers (node : Node) : List Offer :=
  match node.kind with
  | .heading => if (node.props.text? Template.headingNames).isSome then node.ruleOffers else []
  | .text => if (node.props.text? Template.textNames).isSome then node.ruleOffers else []
  | .button => if (node.props.text? Template.labelNames).isSome then node.ruleOffers else []
  | .image | .divider | .spacer => node.ruleOffers
  | .card =>
    node.ruleOffers ++ node.textOffers .src ["image", "imageUrl", "src"] node.props ++
      if (node.props.text? ["buttonLabel", "ctaLabel", "linkLabel"]).isSome then
        node.textOffers .href ["buttonHref", "ctaHref", "href", "link"] node.props
      else []
  | .hero =>
    node.ruleOffers ++
      if (node.props.text? ["ctaLabel", "buttonLabel"]).isSome then
        node.textOffers .href ["ctaHref", "buttonHref", "href"] node.props
      else []
  | .pricingCards =>
    (Template.planItems node).flatMap (node.textOffers .href ["ctaHref", "buttonHref", "href"])
  | .testimonial =>
    if (node.props.text? ["quote", "text", "content"]).isSome then
      node.textOffers .src ["avatar", "image", "portrait"] node.props
    else []
  | .section | .columns | .featureGrid | .statsRow | .faq | .unknown _ => []

/-- The entries about the attributes of a node are those about the offers to its rules. -/
theorem entries_attributes (limit : Nat) (node : Node) :
    node.attributes.entries limit = Offer.trail limit node.ruleOffers :=
  node.props.entries_attributes limit node.id node.kind.attributeRules

/-- The attributes of a node are the allowed forms of the offers to its rules. -/
theorem kept_eq_kept_ruleOffers (node : Node) : node.kept = Offer.kept node.ruleOffers :=
  node.props.kept_eq_kept_offers (some node.id) node.kind.attributeRules

@[simp] theorem selected_attributes (limit : Nat) (node : Node) :
    node.attributes.selected Entry.isAboutValue limit = Offer.trail limit node.ruleOffers := by
  rw [Traced.selected, entries_attributes, Offer.filter_trail]

end Node

namespace Template

variable (limit : Nat) (node : Node)

@[simp] theorem selected_restricted (target : Restricted) (names : List String) (props : Props) :
    (restricted target names node props).selected Entry.isAboutValue limit =
      Offer.trail limit (node.textOffers target names props) := by
  rw [Traced.selected, entries_restricted, Offer.filter_trail]
  rfl

/-! ### What templates report -/

/-- A node that is skipped leaves a warning, but no entry about a value. -/
@[simp] theorem selected_skip (missing : String) :
    (skip node missing).selected Entry.isAboutValue limit = [] := rfl

@[simp] theorem selected_box (attributes : List (Restricted × String)) (parts : List Markup) :
    (box node attributes parts).selected Entry.isAboutValue limit = [] := by
  rw [box]
  split <;> rfl

/-- A heading without its text is skipped before its rules are looked at; texts and buttons are
treated alike. -/
theorem selected_headingNode :
    (headingNode node).selected Entry.isAboutValue limit =
      Offer.trail limit
        (if (node.props.text? headingNames).isSome then node.ruleOffers else []) := by
  rw [headingNode]
  cases node.props.text? headingNames <;> simp [Offer.trail]

theorem selected_textNode :
    (textNode node).selected Entry.isAboutValue limit =
      Offer.trail limit
        (if (node.props.text? textNames).isSome then node.ruleOffers else []) := by
  rw [textNode]
  cases node.props.text? textNames <;> simp [Offer.trail]

theorem selected_buttonNode :
    (buttonNode node).selected Entry.isAboutValue limit =
      Offer.trail limit
        (if (node.props.text? labelNames).isSome then node.ruleOffers else []) := by
  rw [buttonNode]
  cases node.props.text? labelNames <;> simp [Offer.trail]

/-- The rules of an image are looked at before it is known whether it has a source. -/
theorem selected_imageNode :
    (imageNode node).selected Entry.isAboutValue limit = Offer.trail limit node.ruleOffers := by
  rw [imageNode, Traced.selected_bind, Node.selected_attributes]
  split <;> simp

theorem selected_emptyNode (name : String) :
    (emptyNode name node).selected Entry.isAboutValue limit =
      Offer.trail limit node.ruleOffers := by
  simp [emptyNode]

theorem selected_unknownNode (name : String) :
    (unknownNode name node).selected Entry.isAboutValue limit = [] := by
  rw [unknownNode]
  cases node.props.text? ["content"] <;> rfl

theorem selected_cardNode :
    (cardNode node).selected Entry.isAboutValue limit =
      Offer.trail limit
        (node.ruleOffers ++ node.textOffers .src ["image", "imageUrl", "src"] node.props ++
          if (node.props.text? ["buttonLabel", "ctaLabel", "linkLabel"]).isSome then
            node.textOffers .href ["buttonHref", "ctaHref", "href", "link"] node.props
          else []) := by
  rw [cardNode]
  cases node.props.text? ["buttonLabel", "ctaLabel", "linkLabel"] <;> simp

theorem selected_heroNode :
    (heroNode node).selected Entry.isAboutValue limit =
      Offer.trail limit
        (node.ruleOffers ++
          if (node.props.text? ["ctaLabel", "buttonLabel"]).isSome then
            node.textOffers .href ["ctaHref", "buttonHref", "href"] node.props
          else []) := by
  rw [heroNode]
  cases node.props.text? ["ctaLabel", "buttonLabel"] <;> simp

theorem selected_columnsNode : (columnsNode node).selected Entry.isAboutValue limit = [] := by
  rw [columnsNode]
  split <;> simp

theorem selected_featureGridNode :
    (featureGridNode node).selected Entry.isAboutValue limit = [] := by
  rw [featureGridNode]
  dsimp only
  split <;> simp

theorem selected_statsRowNode : (statsRowNode node).selected Entry.isAboutValue limit = [] := by
  rw [statsRowNode]
  split <;> simp

theorem selected_faqNode : (faqNode node).selected Entry.isAboutValue limit = [] := by
  rw [faqNode]
  dsimp only
  split <;> simp

/-- The links of plans are filtered plan by plan. -/
theorem selected_planTables (plans : List Props) :
    (planTables node plans).selected Entry.isAboutValue limit =
      Offer.trail limit
        (plans.flatMap (node.textOffers .href ["ctaHref", "buttonHref", "href"])) := by
  induction plans with
  | nil => rfl
  | cons plan plans ih =>
    rw [planTables, planTable, List.flatMap_cons, Offer.trail_append, ← ih]
    simp

theorem selected_pricingNode :
    (pricingNode node).selected Entry.isAboutValue limit =
      Offer.trail limit
        ((planItems node).flatMap (node.textOffers .href ["ctaHref", "buttonHref", "href"])) := by
  rw [pricingNode, ← selected_planTables, planItems]
  dsimp only
  split
  · rename_i hempty
    rw [List.isEmpty_iff.mp hempty]
    rfl
  · simp

theorem selected_testimonialNode :
    (testimonialNode node).selected Entry.isAboutValue limit =
      Offer.trail limit
        (if (node.props.text? ["quote", "text", "content"]).isSome then
          node.textOffers .src ["avatar", "image", "portrait"] node.props
        else []) := by
  rw [testimonialNode]
  dsimp only
  cases node.props.text? ["quote", "text", "content"] with
  | none => simp [Offer.trail]
  | some quote => simp

end Template

/-- A template leaves exactly the entries about the offers of its node that are changed. -/
theorem Node.selected_template (limit : Nat) (node : Node) :
    node.template.selected Entry.isAboutValue limit = Offer.trail limit node.offers := by
  rw [template, offers]
  cases node.kind with
  | «section» => rfl
  | heading => exact Template.selected_headingNode limit node
  | text => exact Template.selected_textNode limit node
  | image => exact Template.selected_imageNode limit node
  | button => exact Template.selected_buttonNode limit node
  | divider => exact Template.selected_emptyNode limit node "divider"
  | spacer => exact Template.selected_emptyNode limit node "spacer"
  | columns => exact Template.selected_columnsNode limit node
  | card => exact Template.selected_cardNode limit node
  | featureGrid => exact Template.selected_featureGridNode limit node
  | pricingCards => exact Template.selected_pricingNode limit node
  | testimonial => exact Template.selected_testimonialNode limit node
  | statsRow => exact Template.selected_statsRowNode limit node
  | faq => exact Template.selected_faqNode limit node
  | hero => exact Template.selected_heroNode limit node
  | unknown name => exact Template.selected_unknownNode limit node name

/-! ### What templates write -/

namespace Template

variable {node : Node} {forest : Forest}

/-- A link or a picture is kept in the allowed form of its offer. -/
@[simp] theorem kept_textOffers (node : Node) (target : Restricted) (names : List String)
    (props : Props) :
    Offer.kept (node.textOffers target names props) =
      ((allowed? target names props).map (target, ·)).toList := by
  rw [allowed?, Node.textOffers]
  cases htext : props.text? names with
  | none => rw [Props.textOffer?_of_none htext]; rfl
  | some raw =>
    rw [Props.textOffer?_of_some htext, Option.bind_some, Option.toList_some, Offer.kept,
      List.filterMap_cons, List.filterMap_nil, Offer.attribute?, Offer.allowed, Value.text?,
      Option.bind_some]
    cases target.allow raw <;> rfl

@[simp] theorem carried_plainElement (tag : Tag) (text : String) :
    Forest.carried [plainElement tag text] = Restricted.among tag.attributes :=
  Forest.carried_holding tag _

@[simp] theorem carried_richElement (tag : Tag) (text : String) :
    Forest.carried [richElement tag text] = Restricted.among tag.attributes :=
  Forest.carried_holding tag _

@[simp] theorem carried_textElement (body : String) : Forest.carried [textElement body] = [] :=
  carried_richElement _ body

/-- A heading of a fixed level carries its level. -/
@[simp] theorem carried_heading (level title : String) :
    Forest.carried [heading level title] = [(.level, level)] :=
  carried_plainElement _ title

/-- A title in a heading of a fixed level carries that level. -/
theorem areCarried_heading? (level : String) (h : (Restricted.level, level) ∈ fixed)
    (title : Option String) :
    AreCarried []
      ((title.map (heading level)).toList.flatMap fun part => Forest.carried [part]) := by
  refine AreCarried.of_fixed ?_
  cases title with
  | none => simp
  | some title => simpa using h

/-- A text carries nothing. -/
theorem flatMap_textElement? (body : Option String) :
    ((body.map textElement).toList.flatMap fun part => Forest.carried [part]) = [] := by
  cases body <;> simp

/-- The title of a group carries what is fixed. -/
theorem areCarried_groupTitle (props : Props) :
    AreCarried [] ((groupTitle props).flatMap Forest.carried) := by
  refine AreCarried.of_fixed ?_
  rw [groupTitle]
  cases props.text? titleNames with
  | none => simp
  | some title =>
    rw [Option.map_some, Option.toList_some, List.flatMap_singleton, carried_plainElement]
    decide

/-- A heading that does not say its level has the level that is fixed. -/
theorem areCarried_headingMarkup? (h : headingMarkup? node = some forest) :
    AreCarried
      (Offer.kept (if (node.props.text? headingNames).isSome then node.ruleOffers else []))
      forest.carried := by
  obtain ⟨title, htitle, rfl⟩ := Option.map_eq_some_iff.mp h
  rw [htitle, Option.isSome_some, if_pos rfl, carried_plainElement, headingTag,
    ← node.kept_eq_kept_ruleOffers]
  dsimp only
  rw [Restricted.among_append, Restricted.among_named]
  cases valueOf? .level node.kept with
  | none => exact .fixed (by decide) (.refl _)
  | some level => exact .refl _

theorem areCarried_textMarkup? (h : textMarkup? node = some forest) :
    AreCarried
      (Offer.kept (if (node.props.text? textNames).isSome then node.ruleOffers else []))
      forest.carried := by
  obtain ⟨body, hbody, rfl⟩ := Option.map_eq_some_iff.mp h
  rw [hbody, Option.isSome_some, if_pos rfl, carried_richElement, Restricted.among_named,
    node.kept_eq_kept_ruleOffers]
  exact .refl _

theorem areCarried_buttonMarkup? (h : buttonMarkup? node = some forest) :
    AreCarried
      (Offer.kept (if (node.props.text? labelNames).isSome then node.ruleOffers else []))
      forest.carried := by
  obtain ⟨label, hlabel, rfl⟩ := Option.map_eq_some_iff.mp h
  rw [hlabel, Option.isSome_some, if_pos rfl, carried_plainElement, Restricted.among_named,
    node.kept_eq_kept_ruleOffers]
  exact .refl _

theorem areCarried_imageMarkup? (h : imageMarkup? node = some forest) :
    AreCarried (Offer.kept node.ruleOffers) forest.carried := by
  obtain ⟨source, -, rfl⟩ := Option.map_eq_some_iff.mp h
  have halt := Restricted.among_free "alt" (by decide)
    (node.props.text? ["alt", "caption"])
  rw [Forest.carried_element, Restricted.among_append, Restricted.among_named, halt,
    node.kept_eq_kept_ruleOffers, Forest.carried_nil, List.append_nil, List.append_nil]
  exact .refl _

theorem areCarried_emptyMarkup (name : String) :
    AreCarried (Offer.kept node.ruleOffers) (emptyMarkup name node).carried := by
  rw [emptyMarkup, Forest.carried_element, Restricted.among_named, node.kept_eq_kept_ruleOffers,
    Forest.carried_nil, List.append_nil]
  exact .refl _

/-! #### Boxes -/

/-- A box carries the attributes of its node before those of its parts. -/
theorem areCarried_boxMarkup? {parts : List Markup} {offers : List Offer}
    (hparts : AreCarried (Offer.kept offers) (parts.flatMap fun part => Forest.carried [part]))
    (h : boxMarkup? node parts = some forest) :
    AreCarried (Offer.kept (node.ruleOffers ++ offers)) forest.carried := by
  rw [boxMarkup?] at h
  split at h
  · exact absurd h (by simp)
  · obtain rfl := Option.some.inj h
    rw [Forest.carried_block, Restricted.among_named, Forest.carried_lines, List.flatMap_map,
      Offer.kept_append, node.kept_eq_kept_ruleOffers]
    exact (AreCarried.refl _).append hparts

theorem areCarried_cardImage? (node : Node) :
    AreCarried (Offer.kept (node.textOffers .src ["image", "imageUrl", "src"] node.props))
      ((cardImage? node.props).toList.flatMap fun part => Forest.carried [part]) := by
  rw [kept_textOffers, cardImage?]
  cases allowed? .src ["image", "imageUrl", "src"] node.props with
  | none => exact .nil
  | some source =>
    have halt := Restricted.among_free "alt" (by decide) (node.props.text? titleNames)
    simp only [Option.map_some, Option.toList_some, List.flatMap_singleton, Forest.carried_element,
      Restricted.among_append, halt, Forest.carried_nil, List.append_nil]
    exact .refl _

theorem areCarried_button? (node : Node) (names labels : List String)
    (more : List (String × String)) (hmore : ∀ entry ∈ Restricted.among more, entry ∈ fixed) :
    AreCarried
      (Offer.kept (if (node.props.text? labels).isSome then
        node.textOffers .href names node.props else []))
      (((node.props.text? labels).map fun label =>
        plainElement ⟨"button", attribute? "href" (allowed? .href names node.props) ++ more⟩
          label).toList.flatMap fun part => Forest.carried [part]) := by
  cases node.props.text? labels with
  | none => exact .nil
  | some label =>
    have hhref := Restricted.among_attribute? "href" .href (by decide)
      (allowed? .href names node.props)
    simp only [Option.isSome_some, if_true, kept_textOffers, Option.map_some, Option.toList_some,
      List.flatMap_singleton, carried_plainElement, Restricted.among_append, hhref]
    exact (AreCarried.refl _).append_fixed hmore

/-- A card carries the attributes of its node, its picture and its button. -/
theorem areCarried_card (h : boxMarkup? node (cardParts node.props) = some forest) :
    AreCarried
      (Offer.kept (node.ruleOffers ++ node.textOffers .src ["image", "imageUrl", "src"] node.props
        ++ if (node.props.text? ["buttonLabel", "ctaLabel", "linkLabel"]).isSome then
            node.textOffers .href ["buttonHref", "ctaHref", "href", "link"] node.props
          else [])) forest.carried := by
  rw [List.append_assoc]
  refine areCarried_boxMarkup? ?_ h
  have himage := areCarried_cardImage? node
  have htitle := areCarried_heading? "3" (by decide) (node.props.text? titleNames)
  have hbutton := areCarried_button? node ["buttonHref", "ctaHref", "href", "link"]
    ["buttonLabel", "ctaLabel", "linkLabel"] [] (by simp [Restricted.among])
  simp only [List.append_nil] at hbutton
  rw [cardParts, List.flatMap_append, List.flatMap_append, List.flatMap_append,
    flatMap_textElement?, List.append_nil, Offer.kept_append]
  have hfront := himage.append htitle
  rw [List.append_nil] at hfront
  exact hfront.append hbutton

/-- A hero carries the attributes of its node and its button. -/
theorem areCarried_hero (h : boxMarkup? node (heroParts node.props) = some forest) :
    AreCarried
      (Offer.kept (node.ruleOffers ++
        if (node.props.text? ["ctaLabel", "buttonLabel"]).isSome then
          node.textOffers .href ["ctaHref", "buttonHref", "href"] node.props
        else [])) forest.carried := by
  refine areCarried_boxMarkup? ?_ h
  have htitle := areCarried_heading? "1" (by decide) (node.props.text? titleNames)
  have hbutton := areCarried_button? node ["ctaHref", "buttonHref", "href"]
    ["ctaLabel", "buttonLabel"] [("style", "primary")] (by decide)
  rw [heroParts, List.flatMap_append, List.flatMap_append, flatMap_textElement?, List.append_nil]
  exact htitle.append hbutton

/-! #### Groups -/

/-- What is fixed in each cell is fixed in a grid. -/
theorem areCarried_grid (columns : Nat) {cells : List Forest}
    (h : ∀ cell ∈ cells, ∀ entry ∈ cell.carried, entry ∈ fixed) :
    AreCarried [] (grid columns cells).carried := by
  refine AreCarried.of_fixed fun entry hentry => ?_
  rw [grid, Forest.carried_lines, List.flatMap_map, List.mem_flatMap] at hentry
  obtain ⟨piece, hpiece, hentry⟩ := hentry
  obtain ⟨i, -, rfl⟩ := List.mem_map.mp hpiece
  rw [row, Forest.carried_block, Forest.carried_lines, List.flatMap_map] at hentry
  obtain ⟨⟨content, span⟩, hcell, hentry⟩ := List.mem_flatMap.mp hentry
  have hspan := Restricted.among_free "span" (by decide) (some (toString span))
  change entry ∈ Forest.carried [cell content span] at hentry
  rw [cell, Forest.carried_block] at hentry
  change entry ∈ Restricted.among (attribute? "span" (some (toString span))) ++ content.carried
    at hentry
  rw [hspan, List.nil_append] at hentry
  have hcontent := List.mem_of_mem_drop (List.mem_of_mem_take (List.of_mem_zip hcell).1)
  exact h content hcontent entry hentry

/-- Under a title there is what is there without it. -/
theorem areCarried_grouped {kept : List (Restricted × String)} (props : Props)
    (h : AreCarried kept forest.carried) :
    AreCarried kept (Forest.lines (groupTitle props ++ [forest])).carried := by
  rw [Forest.carried_lines, List.flatMap_append, List.flatMap_singleton]
  exact (areCarried_groupTitle props).append h

theorem areCarried_columnsMarkup? (h : columnsMarkup? node = some forest) :
    AreCarried [] forest.carried := by
  rw [columnsMarkup?] at h
  split at h
  · exact absurd h (by simp)
  · obtain rfl := Option.some.inj h
    refine areCarried_grid _ fun cell hcell entry hentry => ?_
    obtain ⟨item, -, rfl⟩ := List.mem_map.mp hcell
    rw [columnCell, Forest.carried_lines, List.flatMap_append, List.mem_append] at hentry
    rcases hentry with hentry | hentry
    · cases htitle : item.text? titleNames with
      | none => simp [htitle] at hentry
      | some title =>
        rw [htitle] at hentry
        obtain rfl : entry = (.level, "3") := by simpa using hentry
        decide
    · cases htext : item.text? ["content", "text"] with
      | none => simp [htext] at hentry
      | some content => simp [htext] at hentry

theorem areCarried_featureGridMarkup? (h : featureGridMarkup? node = some forest) :
    AreCarried [] forest.carried := by
  rw [featureGridMarkup?] at h
  split at h
  · exact absurd h (by simp)
  · obtain rfl := Option.some.inj h
    refine areCarried_grouped _ (areCarried_grid _ fun cell hcell entry hentry => ?_)
    obtain ⟨feature, -, rfl⟩ := List.mem_map.mp hcell
    have htitle := Restricted.among_free "title" (by decide)
      (feature.text? ["title", "name"])
    have hicon := Restricted.among_free "icon" (by decide) (feature.text? ["icon"])
    rw [featureCell, carried_richElement, Restricted.among_append, htitle, hicon] at hentry
    exact absurd hentry List.not_mem_nil

theorem areCarried_statsRowMarkup? (h : statsRowMarkup? node = some forest) :
    AreCarried [] forest.carried := by
  rw [statsRowMarkup?] at h
  split at h
  · exact absurd h (by simp)
  · obtain rfl := Option.some.inj h
    refine areCarried_grid _ fun cell hcell entry hentry => ?_
    obtain ⟨statistic, -, rfl⟩ := List.mem_map.mp hcell
    have hnumber := Restricted.among_free "number" (by decide)
      (statistic.text? ["value", "number"])
    have htitle := Restricted.among_free "title" (by decide)
      (statistic.text? ["label", "title"])
    rw [statisticCell, Forest.carried_element, Restricted.among_append, hnumber, htitle] at hentry
    exact absurd hentry List.not_mem_nil

/-- The table of a plan carries its link. -/
theorem carried_planMarkup (node : Node) (plan : Props) :
    Forest.carried [planMarkup plan] =
      Offer.kept (node.textOffers .href ["ctaHref", "buttonHref", "href"] plan) := by
  have hurl := Restricted.among_attribute? "button_url" .href (by decide)
    (allowed? .href ["ctaHref", "buttonHref", "href"] plan)
  rw [planMarkup, Forest.carried_holding, planAttributes, kept_textOffers]
  simp only [Restricted.among_append, hurl,
    Restricted.among_free "title" (by decide),
    Restricted.among_free "price" (by decide),
    Restricted.among_free "period" (by decide),
    Restricted.among_free "featured" (by decide),
    Restricted.among_free "button_text" (by decide), List.nil_append]

theorem areCarried_pricingMarkup? (h : pricingMarkup? node = some forest) :
    AreCarried
      (Offer.kept ((planItems node).flatMap
        (node.textOffers .href ["ctaHref", "buttonHref", "href"]))) forest.carried := by
  rw [pricingMarkup?] at h
  split at h
  · exact absurd h (by simp)
  · obtain rfl := Option.some.inj h
    refine areCarried_grouped _ ?_
    rw [plansElement, Forest.carried_block, Forest.carried_lines, List.flatMap_map, Offer.kept,
      List.filterMap_flatMap]
    refine AreCarried.flatMap fun plan => ?_
    rw [carried_planMarkup node plan]
    exact .refl _

theorem areCarried_testimonialMarkup? (h : testimonialMarkup? node = some forest) :
    AreCarried
      (Offer.kept (if (node.props.text? ["quote", "text", "content"]).isSome then
        node.textOffers .src ["avatar", "image", "portrait"] node.props else []))
      forest.carried := by
  obtain ⟨quote, hquote, rfl⟩ := Option.map_eq_some_iff.mp h
  have hportrait := Restricted.among_attribute? "portrait" .src (by decide)
    (allowed? .src ["avatar", "image", "portrait"] node.props)
  rw [hquote, carried_plainElement, testimonialAttributes]
  simp only [Option.isSome_some, if_true, kept_textOffers, Restricted.among_append, hportrait,
    Restricted.among_free "author" (by decide),
    Restricted.among_free "job_title" (by decide), List.nil_append]
  exact .refl _

theorem areCarried_faqMarkup? (h : faqMarkup? node = some forest) :
    AreCarried [] forest.carried := by
  rw [faqMarkup?] at h
  split at h
  · exact absurd h (by simp)
  · obtain rfl := Option.some.inj h
    refine areCarried_grouped _ (AreCarried.of_fixed fun entry hentry => ?_)
    rw [questionsElement, Forest.carried_block, Forest.carried_lines, List.flatMap_map] at hentry
    obtain ⟨toggle, htoggle, hentry⟩ := List.mem_flatMap.mp hentry
    obtain ⟨item, -, hitem⟩ := List.mem_filterMap.mp htoggle
    obtain ⟨question, -, hrest⟩ := Option.bind_eq_some_iff.mp hitem
    obtain rfl := Option.some.inj hrest
    have htitle := Restricted.among_free "title" (by decide) (some question)
    rw [carried_richElement] at hentry
    rw [attribute?, Option.map_some, Option.toList_some] at htitle
    rw [htitle] at hentry
    exact absurd hentry List.not_mem_nil

theorem areCarried_unknownMarkup? (h : unknownMarkup? node = some forest) :
    AreCarried [] forest.carried := by
  obtain ⟨content, -, rfl⟩ := Option.map_eq_some_iff.mp h
  rw [carried_textElement]
  exact .nil

end Template

/-- The markup of a node carries the allowed forms of its offers, and what is fixed in its
template. -/
theorem Node.areCarried_of_markup? {node : Node} {forest : Forest}
    (h : node.markup? = some forest) :
    Template.AreCarried (Offer.kept node.offers) forest.carried := by
  rw [markup?] at h
  rw [offers]
  cases hkind : node.kind with
  | «section» => rw [hkind] at h; exact absurd h (by simp)
  | heading => rw [hkind] at h; exact Template.areCarried_headingMarkup? h
  | text => rw [hkind] at h; exact Template.areCarried_textMarkup? h
  | image => rw [hkind] at h; exact Template.areCarried_imageMarkup? h
  | button => rw [hkind] at h; exact Template.areCarried_buttonMarkup? h
  | divider =>
    rw [hkind] at h
    obtain rfl := Option.some.inj h
    exact Template.areCarried_emptyMarkup "divider"
  | spacer =>
    rw [hkind] at h
    obtain rfl := Option.some.inj h
    exact Template.areCarried_emptyMarkup "spacer"
  | columns => rw [hkind] at h; exact Template.areCarried_columnsMarkup? h
  | card => rw [hkind] at h; exact Template.areCarried_card h
  | featureGrid => rw [hkind] at h; exact Template.areCarried_featureGridMarkup? h
  | pricingCards => rw [hkind] at h; exact Template.areCarried_pricingMarkup? h
  | testimonial => rw [hkind] at h; exact Template.areCarried_testimonialMarkup? h
  | statsRow => rw [hkind] at h; exact Template.areCarried_statsRowMarkup? h
  | faq => rw [hkind] at h; exact Template.areCarried_faqMarkup? h
  | hero => rw [hkind] at h; exact Template.areCarried_hero h
  | unknown name => rw [hkind] at h; exact Template.areCarried_unknownMarkup? h

end PageMarkup
