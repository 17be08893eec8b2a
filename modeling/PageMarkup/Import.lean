import PageMarkup.Html
import PageMarkup.Import.Background
import PageMarkup.Import.Element
import PageMarkup.Markup.Reader

/-!
# From pages to documents

A page is read as markup of the theme where it uses its elements, and as rendered HTML otherwise.
Either way the outermost sections become sections of the document, with nodes in their zone, and what
stands outside of them is placed on the top level.
-/

namespace PageMarkup

open Text

namespace Import

/-- Place nodes on the top level, or in a zone, with an entry for each. -/
def place (zone : Option String) : List Node → Document → Drafting Document
  | [], doc => return doc
  | node :: nodes, doc => do
    Drafting.note .block (node.kind.name ++ " " ++ node.id ++ " imported")
    place zone nodes <|
      match zone with
      | some key => doc.pushZone key node
      | none => doc.push node

/-- Place a section with the nodes in it, which are made once the section is placed. -/
def placeSection (node : Node) (inside : Drafting (List Node)) (doc : Document) :
    Drafting Document := do
  let doc ← place none [node] doc
  place (some node.contentKey) (← inside) doc

/-! ### Markup -/

/-- The node of a section of the theme's markup.  Its image attribute keeps other sources from being
asked for a color. -/
def sectionNode (style : Background.PageStyle) (element : Element) : Drafting Node := do
  let color := (element.attribute? "bg_color").map fun value =>
    Background.Found.mk value .attributes
  let image := element.attribute? "bg_image"
  let id := (element.attribute? "module_id").orElse fun _ => element.attribute? "id"
  let classes := (element.attribute? "module_class").orElse fun _ => element.attribute? "class"
  let node ← Drafting.node .section
  let found :=
    if color.isNone && image.isSome then none else Background.find? style color id classes none
  let node ← node.withBackground found
  let node ← node.withBackgroundImage image
  node.styled "padding" .padding (element.attribute? "padding")

/-- Place what the items of a forest name. -/
def placeForest (style : Background.PageStyle) : Forest → Document → Drafting Document
  | [], doc => return doc
  | item :: items, doc => do
    let placeLoose := do place none (← Forest.toNodes [item]) doc
    let doc ← match item.element? with
      | some element =>
        if element.name == "section" then do
          placeSection (← sectionNode style element) (Forest.toNodes element.children) doc
        else placeLoose
      | none => placeLoose
    placeForest style items doc

/-! ### Rendered pages -/

/-- The node of a block. -/
def blockNode : Html.Block → Drafting Node
  | .heading level text align => do
    let node ← Drafting.node .heading
    let node ← (node.withProp "title" (.text text)).styled "level" .level (some (toString level))
    node.styled "align" .align align
  | .paragraph text align => do
    let node ← Drafting.node .text
    (node.withProp "text" (.text text)).styled "align" .align align
  | .image src alt => do
    let node ← Drafting.node .image
    (node.withText "alt" alt).styled "src" .src (some src)
  | .button href label => do
    let node ← Drafting.node .button
    (node.withProp "label" (.text label)).styled "href" .href href
  | .divider => Drafting.node .divider

/-- The nodes of some blocks. -/
def blockNodes : List Html.Block → Drafting (List Node)
  | [] => return []
  | block :: blocks => do
    let node ← blockNode block
    return node :: (← blockNodes blocks)

/-- The node of a section of a rendered page. -/
def htmlSectionNode (style : Background.PageStyle) (part : Html.Section) : Drafting Node := do
  let explicit := part.style.bind fun inline =>
    (Backgrounds.read inline.toList).first?.map (Background.Found.mk · .inlineStyle)
  let node ← Drafting.node .section
  node.withBackground
    (Background.find? style explicit part.id part.classes (some (part.start, part.stop)))

/-- Place what the items of a rendered page name. -/
def placeItems (style : Background.PageStyle) : List Html.Item → Document → Drafting Document
  | [], doc => return doc
  | item :: items, doc => do
    let doc ← match item with
      | .section part => do
        placeSection (← htmlSectionNode style part) (blockNodes part.blocks) doc
      | .block block => do place none [← blockNode block] doc
    placeItems style items doc

/-! ### All together -/

/-- The document that a page names, read as the theme's markup or as rendered HTML. -/
def drafted (isMarkup : Bool) (style : Background.PageStyle) (page : List Char) :
    Drafting Document := do
  if isMarkup then
    let forest := Forest.read page
    Drafting.note .parse ("Parsed " ++ toString forest.length ++ " top-level dialect items")
    placeForest style forest Document.empty
  else
    let items := Html.items page
    Drafting.note .parse ("Parsed " ++ toString items.length ++ " top-level HTML items")
    placeItems style items Document.empty

/-- The document that a page names, read as the theme's markup or as rendered HTML. -/
def pageAs (isMarkup : Bool) (content : String) : Traced Document := do
  let page := content.toList
  Traced.note .init
    ("Importing " ++ toString (size page) ++ " bytes as "
      ++ if isMarkup then "dialect markup" else "rendered HTML")
  let style ← Background.harvest page
  let (doc, _) ← (drafted isMarkup style page).run []
  let sections := doc.topLevel.countP (·.kind.isStructural)
  Traced.note .success
    ("Imported " ++ toString doc.nodes.length ++ " nodes in " ++ toString sections ++ " sections")
  return doc

/-- The document that a page names. -/
def page (content : String) : Traced Document :=
  pageAs (Markup.isSpokenIn content.toList) content

end Import

end PageMarkup
