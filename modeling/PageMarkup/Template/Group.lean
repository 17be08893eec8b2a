import PageMarkup.Template

/-!
# Templates of boxes and lists

Cards and heroes are boxes; plans, testimonials and questions have elements of their own.
-/

namespace PageMarkup

namespace Template

/-- The box around the parts of a node; without parts there is nothing to show. -/
def box (node : Node) (attributes : List (Restricted × String)) (parts : List Markup) :
    Rendering :=
  if parts.isEmpty then skip node "content"
  else return some [.block ⟨"box", named attributes⟩ (Forest.lines (parts.map fun part => [part]))]

/-- A box with image, title, text and button, as far as they are there. -/
def cardNode (node : Node) : Rendering := do
  let props := node.props
  let attributes ← node.attributes
  let title := props.text? titleNames
  let source ← restricted .src ["image", "imageUrl", "src"] node props
  let image := source.map fun source =>
    Markup.element ⟨"image", [("src", source)] ++ attribute? "alt" title⟩ []
  let body := (props.text? ["text", "description", "body"]).map textElement
  let button ← match props.text? ["buttonLabel", "ctaLabel", "linkLabel"] with
    | none => pure none
    | some label =>
      let href ← restricted .href ["buttonHref", "ctaHref", "href", "link"] node props
      pure (some (plainElement ⟨"button", attribute? "href" href⟩ label))
  box node attributes
    (image.toList ++ (title.map (heading "3")).toList ++ body.toList ++ button.toList)

/-- A box with title, subtitle and button, as far as they are there. -/
def heroNode (node : Node) : Rendering := do
  let props := node.props
  let attributes ← node.attributes
  let title := (props.text? titleNames).map (heading "1")
  let subtitle := (props.text? ["subtitle", "description", "text"]).map textElement
  let button ← match props.text? ["ctaLabel", "buttonLabel"] with
    | none => pure none
    | some label =>
      let href ← restricted .href ["ctaHref", "buttonHref", "href"] node props
      pure (some (plainElement ⟨"button", attribute? "href" href ++ [("style", "primary")]⟩ label))
  box node attributes (title.toList ++ subtitle.toList ++ button.toList)

/-! ### Plans -/

/-- The features of a plan: the items of a list, or the lines of a text that are not blank. -/
def planFeatures (plan : Props) : List String :=
  match plan.value? ["features", "items"] with
  | none => []
  | some (.list items) => items.filterMap fun
    | .record fields => Props.text? ["text", "label", "title"] fields
    | item => item.text?
  | some value =>
    let lines := (value.text?.map String.toList).getD []
    (((Text.splitWhere (· == '\n') lines).map Text.trim).filter fun line => !line.isEmpty).map
      String.ofList

/-- The lines that list features. -/
def featureLines (features : List String) : List Char :=
  Text.joinWith ['\n'] (features.map fun feature => ['+', ' '] ++ Escape.text feature.toList)

/-- The table of a plan. -/
def planTable (node : Node) (plan : Props) : Traced Markup := do
  let featured := ((plan.value? ["highlighted", "featured"]).bind Value.switch?).getD false
  let url ← restricted .href ["ctaHref", "buttonHref", "href"] node plan
  let attributes := attribute? "title" (plan.text? ["name", "title"])
    ++ attribute? "price" (plan.text? ["price"])
    ++ attribute? "period" (plan.text? ["period", "interval"])
    ++ attribute? "featured" (if featured then some "on" else none)
    ++ attribute? "button_text" (plan.text? ["ctaLabel", "buttonLabel"])
    ++ attribute? "button_url" url
  return Markup.holding ⟨"pricing_table", attributes⟩ (ownLines (featureLines (planFeatures plan)))

/-- The tables of some plans, in order. -/
def planTables (node : Node) : List Props → Traced (List Markup)
  | [] => return []
  | plan :: plans => do
    let table ← planTable node plan
    return table :: (← planTables node plans)

/-- Plans side by side, under a title. -/
def pricingNode (node : Node) : Rendering := do
  let plans := records ["plans", "tiers", "items"] node.props
  if plans.isEmpty then skip node "plans"
  else
    let tables ← planTables node plans
    let content := Forest.lines (tables.map fun table => [table])
    return some <| Forest.lines <|
      groupTitle node.props ++ [[.block ⟨"pricing_tables", []⟩ content]]

/-! ### Testimonials and questions -/

/-- A testimonial needs a quote. -/
def testimonialNode (node : Node) : Rendering := do
  let props := node.props
  match props.text? ["quote", "text", "content"] with
  | none => skip node "quote"
  | some quote =>
    let portrait ← restricted .src ["avatar", "image", "portrait"] node props
    let attributes := attribute? "author" (props.text? ["author", "name"])
      ++ attribute? "job_title" (props.text? ["role", "jobTitle", "company"])
      ++ attribute? "portrait" portrait
    return some [plainElement ⟨"testimonial", attributes⟩ quote]

/-- A question with its answer; without a question there is nothing to show. -/
def toggle? (item : Props) : Option Markup := do
  let question ← item.text? ["question", "title"]
  let answer := (item.text? ["answer", "content", "text"]).getD ""
  some (richElement ⟨"toggle", [("title", question)]⟩ answer)

/-- Questions under a title. -/
def faqNode (node : Node) : Rendering := do
  let items := records ["items", "questions", "faqs"] node.props
  if items.isEmpty then skip node "questions"
  else
    let content := Forest.lines ((items.filterMap toggle?).map fun toggle => [toggle])
    return some <| Forest.lines <|
      groupTitle node.props ++ [[.block ⟨"accordion", []⟩ content]]

end Template

end PageMarkup
