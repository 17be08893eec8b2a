import Mathlib.Tactic.Common
import PageMarkup.Compile
import PageMarkup.Proofs.Restricted.NormalForm

/-!
# What templates make of nodes

A template looks up properties, has values checked, and leaves entries in the journal.  The markup
it gives depends on the properties alone.  This file says for each kind of node which markup that
is, and proves that the template gives it whatever the limit of the journal is.
-/

namespace PageMarkup

/-! ### Values that are kept -/

namespace Restricted

/-- A text is kept in its allowed form; a blank one has none. -/
@[simp] theorem result_filterText (limit : Nat) (target : Restricted) (raw : String)
    (node : Option String) : (target.filterText raw node).result limit = target.allow raw := by
  rw [filterText]
  split
  · rename_i hblank
    rw [Traced.result_pure, allow, allowChars_eq_none hblank, Option.map_none]
  · dsimp only
    split <;> rfl

/-- Of other values the text is kept in its allowed form, if there is one. -/
@[simp] theorem result_filterValue (limit : Nat) (target : Restricted) (value : Value)
    (node : Option String) :
    (target.filterValue value node).result limit = value.text?.bind target.allow := by
  rw [filterValue]
  cases value.text? with
  | some raw => simp
  | none =>
    simp only [Option.bind_none]
    split <;> rfl

end Restricted

namespace Props

/-- What some properties give to the attribute of a rule. -/
def kept? (props : Props) (rule : AttributeRule) : Option String :=
  ((props.value? rule.names).bind Value.text?).bind rule.target.allow

/-- The attributes that a list of rules takes from some properties. -/
def kept (props : Props) (rules : List AttributeRule) : List (Restricted × String) :=
  rules.flatMap fun rule => ((props.kept? rule).map (rule.target, ·)).toList

/-- The attributes do not depend on the journal. -/
@[simp] theorem result_attributes (limit : Nat) (props : Props) (node : String)
    (rules : List AttributeRule) :
    (props.attributes node rules).result limit = props.kept rules := by
  induction rules with
  | nil => rfl
  | cons rule rules ih =>
    have hcons : props.kept (rule :: rules) =
        ((props.kept? rule).map (rule.target, ·)).toList ++ props.kept rules := rfl
    rw [attributes, hcons, kept?]
    cases props.value? rule.names with
    | none => simp [ih]
    | some value => simp [ih]

end Props

namespace Node

/-- The restricted attributes of a node. -/
def kept (node : Node) : List (Restricted × String) :=
  node.props.kept node.kind.attributeRules

/-- The attributes of a node do not depend on the journal. -/
@[simp] theorem result_attributes (limit : Nat) (node : Node) :
    node.attributes.result limit = node.kept :=
  node.props.result_attributes limit node.id node.kind.attributeRules

end Node

namespace Template

/-- What some properties give to a restricted attribute under some names. -/
def allowed? (target : Restricted) (names : List String) (props : Props) : Option String :=
  (props.text? names).bind target.allow

@[simp] theorem result_restricted (limit : Nat) (target : Restricted) (names : List String)
    (node : Node) (props : Props) :
    (restricted target names node props).result limit = allowed? target names props := by
  rw [restricted, allowed?]
  cases props.text? names with
  | none => rfl
  | some raw => simp

/-! ### Single elements -/

/-- The tag of a heading. -/
def headingTag (attributes : List (Restricted × String)) : Tag :=
  let level := match valueOf? .level attributes with
    | some _ => []
    | none => [("level", defaultLevel)]
  ⟨"heading", level ++ named attributes⟩

/-- The markup of a heading. -/
def headingMarkup? (node : Node) : Option Forest :=
  (node.props.text? headingNames).map fun title => [plainElement (headingTag node.kept) title]

/-- The markup of a text. -/
def textMarkup? (node : Node) : Option Forest :=
  (node.props.text? textNames).map fun body => [richElement ⟨"text", named node.kept⟩ body]

/-- The markup of an image. -/
def imageMarkup? (node : Node) : Option Forest :=
  (valueOf? .src node.kept).map fun _ =>
    [.element ⟨"image",
      named node.kept ++ attribute? "alt" (node.props.text? ["alt", "caption"])⟩ []]

/-- The markup of a button. -/
def buttonMarkup? (node : Node) : Option Forest :=
  (node.props.text? labelNames).map fun label => [plainElement ⟨"button", named node.kept⟩ label]

/-- The markup of an element without content. -/
def emptyMarkup (name : String) (node : Node) : Forest :=
  [.element ⟨name, named node.kept⟩ []]

/-- The markup of a node of an unknown kind. -/
def unknownMarkup? (node : Node) : Option Forest :=
  (node.props.text? ["content"]).map fun content => [textElement content]

/-! ### Boxes -/

/-- A box around some parts, if there are any. -/
def boxMarkup? (node : Node) (parts : List Markup) : Option Forest :=
  if parts.isEmpty then none
  else some [.block ⟨"box", named node.kept⟩ (Forest.lines (parts.map fun part => [part]))]

/-- The image of a card. -/
def cardImage? (props : Props) : Option Markup :=
  (allowed? .src ["image", "imageUrl", "src"] props).map fun source =>
    .element ⟨"image", [("src", source)] ++ attribute? "alt" (props.text? titleNames)⟩ []

/-- The button of a card. -/
def cardButton? (props : Props) : Option Markup :=
  (props.text? ["buttonLabel", "ctaLabel", "linkLabel"]).map fun label =>
    plainElement ⟨"button",
      attribute? "href" (allowed? .href ["buttonHref", "ctaHref", "href", "link"] props)⟩ label

/-- The parts of a card. -/
def cardParts (props : Props) : List Markup :=
  (cardImage? props).toList ++ ((props.text? titleNames).map (heading "3")).toList
    ++ ((props.text? ["text", "description", "body"]).map textElement).toList
    ++ (cardButton? props).toList

/-- The button of a hero. -/
def heroButton? (props : Props) : Option Markup :=
  (props.text? ["ctaLabel", "buttonLabel"]).map fun label =>
    plainElement ⟨"button",
      attribute? "href" (allowed? .href ["ctaHref", "buttonHref", "href"] props)
        ++ [("style", "primary")]⟩ label

/-- The parts of a hero. -/
def heroParts (props : Props) : List Markup :=
  ((props.text? titleNames).map (heading "1")).toList
    ++ ((props.text? ["subtitle", "description", "text"]).map textElement).toList
    ++ (heroButton? props).toList

/-! ### Groups -/

/-- The columns of a node. -/
def columnItems (node : Node) : List Props :=
  records ["columns", "items"] node.props

/-- The markup of columns. -/
def columnsMarkup? (node : Node) : Option Forest :=
  let items := columnItems node
  if items.isEmpty then none
  else some (grid (min items.length mostColumns) (items.map columnCell))

/-- The features of a node. -/
def featureItems (node : Node) : List Props :=
  records ["features", "items"] node.props

/-- The markup of features. -/
def featureGridMarkup? (node : Node) : Option Forest :=
  let features := featureItems node
  if features.isEmpty then none
  else
    let columns := columnsPerRow node.props features.length
    some (Forest.lines (groupTitle node.props ++ [grid columns (features.map featureCell)]))

/-- The statistics of a node. -/
def statisticItems (node : Node) : List Props :=
  records ["stats", "items"] node.props

/-- The markup of statistics. -/
def statsRowMarkup? (node : Node) : Option Forest :=
  let statistics := statisticItems node
  if statistics.isEmpty then none
  else some (grid (min statistics.length mostColumns) (statistics.map statisticCell))

/-- The plans of a node. -/
def planItems (node : Node) : List Props :=
  records ["plans", "tiers", "items"] node.props

/-- The plan is to stand out. -/
def isFeatured (plan : Props) : Bool :=
  ((plan.value? ["highlighted", "featured"]).bind Value.switch?).getD false

/-- The attributes of the table of a plan. -/
def planAttributes (plan : Props) : List (String × String) :=
  attribute? "title" (plan.text? ["name", "title"])
    ++ attribute? "price" (plan.text? ["price"])
    ++ attribute? "period" (plan.text? ["period", "interval"])
    ++ attribute? "featured" (if isFeatured plan then some "on" else none)
    ++ attribute? "button_text" (plan.text? ["ctaLabel", "buttonLabel"])
    ++ attribute? "button_url" (allowed? .href ["ctaHref", "buttonHref", "href"] plan)

/-- The markup of a plan. -/
def planMarkup (plan : Props) : Markup :=
  Markup.holding ⟨"pricing_table", planAttributes plan⟩
    (ownLines (featureLines (planFeatures plan)))

/-- The element around the tables of some plans. -/
def plansElement (plans : List Props) : Markup :=
  .block ⟨"pricing_tables", []⟩ (Forest.lines (plans.map fun plan => [planMarkup plan]))

/-- The markup of plans. -/
def pricingMarkup? (node : Node) : Option Forest :=
  if (planItems node).isEmpty then none
  else some (Forest.lines (groupTitle node.props ++ [[plansElement (planItems node)]]))

/-- The attributes of a testimonial. -/
def testimonialAttributes (props : Props) : List (String × String) :=
  attribute? "author" (props.text? ["author", "name"])
    ++ attribute? "job_title" (props.text? ["role", "jobTitle", "company"])
    ++ attribute? "portrait" (allowed? .src ["avatar", "image", "portrait"] props)

/-- The markup of a testimonial. -/
def testimonialMarkup? (node : Node) : Option Forest :=
  (node.props.text? ["quote", "text", "content"]).map fun quote =>
    [plainElement ⟨"testimonial", testimonialAttributes node.props⟩ quote]

/-- The questions of a node. -/
def questionItems (node : Node) : List Props :=
  records ["items", "questions", "faqs"] node.props

/-- The element around some questions. -/
def questionsElement (items : List Props) : Markup :=
  .block ⟨"accordion", []⟩ (Forest.lines ((items.filterMap toggle?).map fun toggle => [toggle]))

/-- The markup of questions. -/
def faqMarkup? (node : Node) : Option Forest :=
  if (questionItems node).isEmpty then none
  else some (Forest.lines (groupTitle node.props ++ [[questionsElement (questionItems node)]]))

end Template

/-- The markup of a node that is no section, if there is anything to show. -/
def Node.markup? (node : Node) : Option Forest :=
  match node.kind with
  | .section => none
  | .heading => Template.headingMarkup? node
  | .text => Template.textMarkup? node
  | .image => Template.imageMarkup? node
  | .button => Template.buttonMarkup? node
  | .divider => some (Template.emptyMarkup "divider" node)
  | .spacer => some (Template.emptyMarkup "spacer" node)
  | .columns => Template.columnsMarkup? node
  | .card => Template.boxMarkup? node (Template.cardParts node.props)
  | .featureGrid => Template.featureGridMarkup? node
  | .pricingCards => Template.pricingMarkup? node
  | .testimonial => Template.testimonialMarkup? node
  | .statsRow => Template.statsRowMarkup? node
  | .faq => Template.faqMarkup? node
  | .hero => Template.boxMarkup? node (Template.heroParts node.props)
  | .unknown _ => Template.unknownMarkup? node

/-! ### Templates -/

namespace Template

variable (limit : Nat) (node : Node)

theorem result_headingNode : (headingNode node).result limit = headingMarkup? node := by
  rw [headingNode, headingMarkup?]
  cases node.props.text? headingNames with
  | none => rfl
  | some title =>
    rw [Option.map_some, Traced.result_bind, Node.result_attributes, headingTag]
    cases valueOf? .level node.kept <;> rfl

theorem result_textNode : (textNode node).result limit = textMarkup? node := by
  rw [textNode, textMarkup?]
  cases node.props.text? textNames with
  | none => rfl
  | some body => simp

theorem result_imageNode : (imageNode node).result limit = imageMarkup? node := by
  rw [imageNode, imageMarkup?, Traced.result_bind, Node.result_attributes]
  cases valueOf? .src node.kept <;> rfl

theorem result_buttonNode : (buttonNode node).result limit = buttonMarkup? node := by
  rw [buttonNode, buttonMarkup?]
  cases node.props.text? labelNames with
  | none => rfl
  | some label => simp

theorem result_emptyNode (name : String) :
    (emptyNode name node).result limit = some (emptyMarkup name node) := by
  simp [emptyNode, emptyMarkup]

theorem result_unknownNode (name : String) :
    (unknownNode name node).result limit = unknownMarkup? node := by
  rw [unknownNode, unknownMarkup?]
  cases node.props.text? ["content"] <;> rfl

theorem result_box (parts : List Markup) :
    (box node node.kept parts).result limit = boxMarkup? node parts := by
  rw [box, boxMarkup?]
  split <;> rfl

theorem result_cardNode :
    (cardNode node).result limit = boxMarkup? node (cardParts node.props) := by
  simp only [cardNode, cardParts, cardImage?, cardButton?, Traced.result_bind,
    Node.result_attributes, result_restricted]
  rw [← result_box limit]
  cases node.props.text? ["buttonLabel", "ctaLabel", "linkLabel"] with
  | none => rfl
  | some label => simp

theorem result_heroNode :
    (heroNode node).result limit = boxMarkup? node (heroParts node.props) := by
  simp only [heroNode, heroParts, heroButton?, Traced.result_bind, Node.result_attributes]
  rw [← result_box limit]
  cases node.props.text? ["ctaLabel", "buttonLabel"] with
  | none => rfl
  | some label => simp

theorem result_columnsNode : (columnsNode node).result limit = columnsMarkup? node := by
  rw [columnsNode, columnsMarkup?, columnItems]
  split <;> rfl

theorem result_featureGridNode :
    (featureGridNode node).result limit = featureGridMarkup? node := by
  rw [featureGridNode, featureGridMarkup?, featureItems]
  split <;> rfl

theorem result_statsRowNode : (statsRowNode node).result limit = statsRowMarkup? node := by
  rw [statsRowNode, statsRowMarkup?, statisticItems]
  split <;> rfl

theorem result_planTables (plans : List Props) :
    (planTables node plans).result limit = plans.map planMarkup := by
  induction plans with
  | nil => rfl
  | cons plan plans ih =>
    simp only [planTables, planTable, Traced.result_bind, Traced.result_pure, result_restricted,
      ih, List.map_cons]
    rfl

theorem result_pricingNode : (pricingNode node).result limit = pricingMarkup? node := by
  rw [pricingNode, pricingMarkup?, planItems]
  dsimp only
  split
  · rfl
  · rw [Traced.result_bind, result_planTables, List.map_map]
    rfl

theorem result_testimonialNode :
    (testimonialNode node).result limit = testimonialMarkup? node := by
  rw [testimonialNode, testimonialMarkup?]
  dsimp only
  cases node.props.text? ["quote", "text", "content"] with
  | none => rfl
  | some quote => simp [testimonialAttributes]

theorem result_faqNode : (faqNode node).result limit = faqMarkup? node := by
  rw [faqNode, faqMarkup?, questionItems]
  dsimp only
  split <;> rfl

end Template

/-- What the template of a node gives depends on its kind and properties alone. -/
@[simp] theorem Node.result_template (limit : Nat) (node : Node) :
    node.template.result limit = node.markup? := by
  rw [template, markup?]
  cases node.kind with
  | «section» => rfl
  | heading => exact Template.result_headingNode limit node
  | text => exact Template.result_textNode limit node
  | image => exact Template.result_imageNode limit node
  | button => exact Template.result_buttonNode limit node
  | divider => exact Template.result_emptyNode limit node "divider"
  | spacer => exact Template.result_emptyNode limit node "spacer"
  | columns => exact Template.result_columnsNode limit node
  | card => exact Template.result_cardNode limit node
  | featureGrid => exact Template.result_featureGridNode limit node
  | pricingCards => exact Template.result_pricingNode limit node
  | testimonial => exact Template.result_testimonialNode limit node
  | statsRow => exact Template.result_statsRowNode limit node
  | faq => exact Template.result_faqNode limit node
  | hero => exact Template.result_heroNode limit node
  | unknown name => exact Template.result_unknownNode limit node name

end PageMarkup
