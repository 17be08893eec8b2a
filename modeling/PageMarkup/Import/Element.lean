import PageMarkup.Import.Draft
import PageMarkup.Markup.Query

/-!
# From elements to nodes

Every template leaves markup from which its node can be told.  Rows of cells are told apart by what
their cells hold, boxes by the level of their heading.  What is not known is kept as text, and what
cannot be kept is reported.
-/

namespace PageMarkup

open Text

namespace Element

/-! ### Texts -/

/-- The text of which this is the escaped form, without the blanks around it. -/
def plain (text : String) : String :=
  Entity.decoded (trimmed text)

/-- The rich text of which this is the escaped form, without the blanks around it. -/
def rich (text : String) : String :=
  let opened := replaceAll "&#91;".toList ['['] (trim text.toList)
  String.ofList (replaceAll "&#93;".toList [']'] opened)

/-- The plain text inside an element. -/
def plainText (element : Element) : String := plain element.text

/-- The rich text inside an element. -/
def richText (element : Element) : String := rich element.text

/-- A text, unless it is empty. -/
def nonempty? (text : String) : Option String :=
  if text = "" then none else some text

/-- A record of the fields that have a value. -/
def recordOf (fields : List (String × Option Value)) : Value :=
  .record (Dict.ofList (fields.filterMap fun (name, value) => value.map fun value => (name, value)))

/-- A text field. -/
def textField (name : String) (text : Option String) : String × Option Value :=
  (name, text.map Value.text)

/-- Give nothing, and say why. -/
def skip (what reason : String) : Drafting (List Node) := do
  Drafting.note .warn ("[" ++ what ++ "] " ++ reason ++ "; skipped")
  return []

/-! ### Single elements -/

/-- A heading needs a text. -/
def toHeading (element : Element) : Drafting (List Node) := do
  match nonempty? element.plainText with
  | none => skip "heading" "has no text"
  | some title =>
    let node ← Drafting.node .heading
    let node ← (node.withProp "title" (.text title)).styled "level" .level
      (element.attribute? "level")
    let node ← node.styled "align" .align (element.attribute? "align")
    return [← node.styled "color" .color (element.attribute? "color")]

/-- A text needs a text. -/
def toText (element : Element) : Drafting (List Node) := do
  match nonempty? element.richText with
  | none => skip "text" "is empty"
  | some body =>
    let node ← Drafting.node .text
    let node ← (node.withProp "text" (.text body)).styled "align" .align
      (element.attribute? "align")
    return [← node.styled "color" .color (element.attribute? "color")]

/-- An image needs a source that is allowed. -/
def toImage (element : Element) : Drafting (List Node) := do
  let node ← Drafting.node .image
  let node ← (node.withText "alt" (element.attribute? "alt")).styled "src" .src
    (element.attribute? "src")
  if Dict.has "src" node.props then
    return [← node.styled "align" .align (element.attribute? "align")]
  else skip "image" "has no usable src"

/-- A button needs a label. -/
def toButton (element : Element) : Drafting (List Node) := do
  match nonempty? element.plainText with
  | none => skip "button" "has no label"
  | some label =>
    let node ← Drafting.node .button
    let node ← (node.withProp "label" (.text label)).styled "href" .href
      (element.attribute? "href")
    let node ← node.styled "variant" .style (element.attribute? "style")
    return [← node.styled "align" .align (element.attribute? "align")]

/-- A divider. -/
def toDivider (element : Element) : Drafting (List Node) := do
  let node ← Drafting.node .divider
  let node ← node.styled "color" .color (element.attribute? "color")
  return [← node.styled "margin" .margin (element.attribute? "margin")]

/-- A spacer. -/
def toSpacer (element : Element) : Drafting (List Node) := do
  let node ← Drafting.node .spacer
  return [← node.styled "height" .height (element.attribute? "height")]

/-- An element outside the vocabulary is kept as its text, if it has any. -/
def toUnknown (element : Element) : Drafting (List Node) := do
  match nonempty? element.richText with
  | none => skip element.name "is not a known tag"
  | some text =>
    Drafting.note .warn ("Unknown tag [" ++ element.name ++ "] degraded to text")
    return [(← Drafting.node .text).withProp "text" (.text text)]

/-! ### Boxes -/

/-- A box whose first heading has level one is a hero, every other one a card. -/
def toBox (element : Element) : Drafting (List Node) := do
  let heading := element.find? "heading"
  let isHero := heading.bind (·.attribute? "level") == some "1"
  let node ← Drafting.node (if isHero then .hero else .card)
  let node := node.withText "title" (heading.bind fun heading => nonempty? heading.plainText)
  let body := (element.find? "text").bind fun text => nonempty? text.richText
  let node := node.withText (if isHero then "subtitle" else "text") body
  let node ← match element.find? "button" with
    | none => pure node
    | some button =>
      let label := nonempty? button.plainText
      let node := node.withText (if isHero then "ctaLabel" else "buttonLabel") label
      node.styled (if isHero then "ctaHref" else "buttonHref") .href (button.attribute? "href")
  let node ← match if isHero then none else element.find? "image" with
    | none => pure node
    | some image => node.styled "image" .src (image.attribute? "src")
  let node ← node.styled "backgroundColor" .bgColor (element.attribute? "bg_color")
  let node ← node.styled "backgroundImage" .bgImage (element.attribute? "bg_image")
  let node ← node.styled "padding" .padding (element.attribute? "padding")
  return [← node.styled "align" .align (element.attribute? "align")]

/-! ### Grids -/

/-- The features that some elements name, in rows of `columns`. -/
def toFeatures (blurbs : List Element) (columns : Nat) : Drafting (List Node) := do
  let features := blurbs.map fun blurb => recordOf [
    textField "title" (blurb.attribute? "title"),
    textField "icon" (blurb.attribute? "icon"),
    textField "description" (nonempty? blurb.richText)]
  let node ← Drafting.node .featureGrid
  return [(node.withProp "features" (.list features)).withProp "columns"
    (.number (Binary64.ofNat columns))]

/-- The statistics that some elements name. -/
def toStatistics (counters : List Element) : Drafting (List Node) := do
  let statistics := counters.map fun counter => recordOf [
    textField "value" (counter.attribute? "number"),
    textField "label" (counter.attribute? "title")]
  return [(← Drafting.node .statsRow).withProp "stats" (.list statistics)]

/-- The cells of a row, each with the elements in it.  A row without columns has a cell for each
element. -/
def cells (row : Element) : List (List Element) :=
  match row.elements.filter (·.name == "column_inner") with
  | [] => row.elements.map fun element => [element]
  | columns => columns.map elements

/-- The record of a cell: its first heading and its first text. -/
def columnRecord (cell : List Element) : Value :=
  let first := fun name : String => cell.find? fun element : Element => element.name == name
  recordOf [
    textField "title" ((first "heading").bind fun heading => nonempty? heading.plainText),
    textField "content" ((first "text").bind fun text => nonempty? text.richText)]

/-- Report for each cell the elements that a column does not keep. -/
def reportDropped (node : Node) : List (List Element) → Drafting Unit
  | [] => return ()
  | cell :: cells => do
    let dropped := cell.countP fun element => element.name != "heading" && element.name != "text"
    if 0 < dropped then
      Drafting.note .warn
        (node.kind.name ++ " " ++ node.id ++ ": " ++ toString dropped ++ " column items not kept")
    reportDropped node cells

/-- Rows that follow one another are one grid: of features or of statistics if there is nothing
else in its cells, and otherwise columns. -/
def toGrid (rows : List Element) : Drafting (List Node) := do
  let cellRows := rows.map cells
  let cells := cellRows.flatten
  let contents := cells.flatten
  if contents.isEmpty then skip "row_inner" "has no content"
  else if contents.all (·.name == "blurb") then
    toFeatures contents (max ((cellRows.map List.length).foldl max 0) 1)
  else if contents.all (·.name == "counter") then toStatistics contents
  else
    let node ← Drafting.node .columns
    reportDropped node cells
    return [node.withProp "columns" (.list (cells.map columnRecord))]

/-! ### Plans, testimonials and questions -/

/-- A line of a plan without the mark in front of it. -/
def featureOf (line : List Char) : List Char :=
  match trim line with
  | '+' :: rest => trim rest
  | line => line

/-- The features that the lines of a plan name. -/
def planFeatures (text : String) : List Value :=
  (((splitWhere (· == '\n') text.toList).map featureOf).filter fun line => !line.isEmpty).map
    fun line => .text (plain (String.ofList line))

/-- The records of plans that belong to a node. -/
def planRecords (node : Node) : List Element → Drafting (List Value)
  | [] => return []
  | table :: tables => do
    let href ← match table.attribute? "button_url" with
      | none => pure none
      | some raw => (Restricted.href.filterText raw (some node.id) : Traced (Option String))
    let featured := table.attribute? "featured" == some "on"
    let plan := recordOf [
      textField "name" (table.attribute? "title"),
      textField "price" (table.attribute? "price"),
      textField "period" (table.attribute? "period"),
      ("highlighted", if featured then some (.bool true) else none),
      textField "ctaLabel" (table.attribute? "button_text"),
      textField "ctaHref" href,
      ("features", some (.list (planFeatures table.text)))]
    return plan :: (← planRecords node tables)

/-- The plans of some tables. -/
def toPricing (tables : List Element) : Drafting (List Node) := do
  if tables.isEmpty then skip "pricing_tables" "has no plans"
  else
    let node ← Drafting.node .pricingCards
    return [node.withProp "plans" (.list (← planRecords node tables))]

/-- A testimonial needs a quote. -/
def toTestimonial (element : Element) : Drafting (List Node) := do
  match nonempty? element.plainText with
  | none => skip "testimonial" "has no quote"
  | some quote =>
    let node ← Drafting.node .testimonial
    let node := ((node.withProp "quote" (.text quote)).withText "author"
      (element.attribute? "author")).withText "role" (element.attribute? "job_title")
    return [← node.styled "avatar" .src (element.attribute? "portrait")]

/-- The record of a question; an element without a title is none. -/
def questionRecord? (toggle : Element) : Option Value :=
  (toggle.attribute? "title").map fun question => recordOf [
    textField "question" (some question),
    textField "answer" (nonempty? toggle.richText)]

/-- The questions of some elements. -/
def toQuestions (toggles : List Element) : Drafting (List Node) := do
  match toggles.filterMap questionRecord? with
  | [] => skip "accordion" "has no questions"
  | items => return [(← Drafting.node .faq).withProp "items" (.list items)]

/-! ### All elements -/

/-- The elements that only arrange what is inside them. -/
def isLayout (name : String) : Bool :=
  name == "row" || name == "column" || name == "column_inner"

/-- The nodes of an element that does not only arrange. -/
def toNodes (element : Element) : Drafting (List Node) :=
  match element.name with
  | "heading" => element.toHeading
  | "text" => element.toText
  | "image" => element.toImage
  | "button" => element.toButton
  | "divider" => element.toDivider
  | "spacer" => element.toSpacer
  | "box" => element.toBox
  | "pricing_tables" => toPricing (element.findAll "pricing_table")
  | "pricing_table" => toPricing [element]
  | "testimonial" => element.toTestimonial
  | "accordion" => toQuestions (element.findAll "toggle")
  | "toggle" => toQuestions [element]
  | "blurb" => toFeatures [element] 1
  | "counter" => toStatistics [element]
  | _ => element.toUnknown

/-- The grid of some rows, if there are any. -/
def flush (rows : List Element) : Drafting (List Node) :=
  if rows.isEmpty then return [] else toGrid rows

end Element

namespace Markup

/-- The nodes of a text between elements; a blank one is layout. -/
def looseText (content : String) : Drafting (List Node) := do
  return [(← Drafting.node .text).withProp "text" (.text (Element.rich content))]

mutual

/-- The nodes of an item that is no row of cells and no blank text. -/
def toNodes : Markup → Drafting (List Node)
  | .text content => looseText content
  | .element tag children => do
    if tag.name == "section" then
      Drafting.note .warn "Section nested inside a section; children flattened"
      toNodesAll [] children
    else if Element.isLayout tag.name then toNodesAll [] children
    else (Element.mk tag children).toNodes

/-- The nodes of some items, after the rows of cells that stand just before them. -/
def toNodesAll (rows : List Element) : List Markup → Drafting (List Node)
  | [] => Element.flush rows
  | .text content :: items => do
    if allBlank content.toList then toNodesAll rows items
    else
      let before ← Element.flush rows
      let here ← looseText content
      return before ++ here ++ (← toNodesAll [] items)
  | .element tag children :: items => do
    if tag.name == "row_inner" then toNodesAll (rows ++ [⟨tag, children⟩]) items
    else
      let before ← Element.flush rows
      let here ← toNodes (.element tag children)
      return before ++ here ++ (← toNodesAll [] items)

end

end Markup

namespace Forest

/-- The nodes of a forest; blank text is layout, and rows of cells that follow one another are one
grid. -/
def toNodes (forest : Forest) : Drafting (List Node) :=
  Markup.toNodesAll [] forest

end Forest

end PageMarkup
