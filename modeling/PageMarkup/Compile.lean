import PageMarkup.Template.Grid
import PageMarkup.Template.Group
import PageMarkup.Template.Leaf

/-!
# Documents as markup

The page is a sequence of sections.  A section of the document becomes one of them, with the nodes
of its zone inside; a run of other nodes on the top level is put into a section of its own.  A
section inside a section contributes the nodes of its zone.

Zones may refer to one another in circles.  A zone that is being expanded is not expanded again
inside itself, so expansions nest at most as deep as there are zones.
-/

namespace PageMarkup

/-- Markup together with the number of nodes that went into it. -/
structure Compiled where
  content : Forest
  converted : Nat
  deriving Repr, Inhabited

namespace Compiled

/-- No markup of no node. -/
def empty : Compiled := ⟨[], 0⟩

/-- Markup of several nodes, each on lines of its own; what is missing takes no line. -/
def lines (parts : List (Option Compiled)) : Compiled :=
  let present := parts.filterMap id
  ⟨Forest.lines (present.map content), present.foldr (·.converted + ·) 0⟩

end Compiled

/-- What the template of its kind makes of a node; a section has none. -/
def Node.template (node : Node) : Rendering :=
  match node.kind with
  | .section => return none
  | .heading => Template.headingNode node
  | .text => Template.textNode node
  | .image => Template.imageNode node
  | .button => Template.buttonNode node
  | .divider => Template.emptyNode "divider" node
  | .spacer => Template.emptyNode "spacer" node
  | .columns => Template.columnsNode node
  | .card => Template.cardNode node
  | .featureGrid => Template.featureGridNode node
  | .pricingCards => Template.pricingNode node
  | .testimonial => Template.testimonialNode node
  | .statsRow => Template.statsRowNode node
  | .faq => Template.faqNode node
  | .hero => Template.heroNode node
  | .unknown name => Template.unknownNode name node

namespace Node

/-- The markup of a node that is no section. -/
def compileTemplate (node : Node) : Traced (Option Compiled) := do
  match ← node.template with
  | none => return none
  | some content =>
    Traced.noteWith .block (node.kind.name ++ " " ++ node.id ++ " compiled") <|
      Json.ofFields [("id", .text node.id), ("type", .text node.kind.name)]
    return some ⟨content, 1⟩

/-- The markup of a node inside a section, where `expand` gives that of a zone.  The zone of a
section takes the place of the section; without markup in it nothing is there. -/
def compileInside (expand : String → Traced Compiled) (node : Node) : Traced (Option Compiled) := do
  if node.kind.isStructural then
    Traced.note .warn
      ("Section " ++ node.id ++ " nested inside a section; children flattened")
    let inner ← expand node.contentKey
    return if inner.content.isEmpty then none else some inner
  else node.compileTemplate

/-- The markup of the nodes of a zone. -/
def compileAll (expand : String → Traced Compiled) : List Node → Traced (List (Option Compiled))
  | [] => return []
  | node :: nodes => do
    let first ← node.compileInside expand
    return first :: (← compileAll expand nodes)

end Node

namespace Document

/-- The markup of a zone while the zones of `active` are being expanded; `room` bounds how deep
expansions nest.  A zone that was never filled, or one that is being expanded, has none. -/
def expand (doc : Document) : (room : Nat) → (active : List String) → String → Traced Compiled
  | 0, _, _ => return .empty
  | room + 1, active, key => do
    if active.contains key then
      Traced.note .warn ("Zone " ++ key ++ " refers back to itself; left empty")
      return .empty
    match doc.zone? key with
    | none =>
      Traced.note .block ("Zone " ++ key ++ " unresolved; empty content")
      return .empty
    | some children =>
      return .lines (← Node.compileAll (doc.expand room (key :: active)) children)

/-- The markup of a zone.  There is room for every zone to stand inside all others. -/
def compileZone (doc : Document) (key : String) : Traced Compiled :=
  doc.expand (doc.zones.length + 1) [] key

/-- The markup of a section on the top level. -/
def compileSection (doc : Document) (node : Node) : Traced Compiled := do
  let attributes ← node.attributes
  let inner ← doc.compileZone node.contentKey
  Traced.noteWith .block ("Section " ++ node.id ++ " compiled") <| Json.ofFields [
    ("id", .text node.id),
    ("type", .text node.kind.name),
    ("zone", .text node.contentKey),
    ("background", ((Template.valueOf? .bgColor attributes).map Json.text).getD .null)]
  return ⟨[.skeleton (Template.named attributes) inner.content], inner.converted + 1⟩

/-- The section around a run of other nodes on the top level, if there are any. -/
def wrapLoose (loose : List Compiled) : Traced (List Compiled) := do
  if loose.isEmpty then return []
  Traced.note .block
    ("Synthesized section around " ++ toString loose.length ++ " top-level nodes")
  let inner := Compiled.lines (loose.map some)
  return [⟨[.skeleton [] inner.content], inner.converted⟩]

/-- The sections of the page, from the nodes of the top level that are left; `loose` is the run of
other nodes just before them. -/
def compileSections (doc : Document) : (loose : List Compiled) → List Node → Traced (List Compiled)
  | loose, [] => wrapLoose loose
  | loose, node :: nodes => do
    if node.kind.isStructural then
      let before ← wrapLoose loose
      let this ← doc.compileSection node
      return before ++ [this] ++ (← doc.compileSections [] nodes)
    else
      let this ← node.compileTemplate
      doc.compileSections (loose ++ this.toList) nodes

/-- Leave an entry for each of some issues. -/
def noteIssues : List Issue → Traced Unit
  | [] => return ()
  | issue :: issues => do
    Traced.note .warn issue.message
    noteIssues issues

/-- The markup of a document as a forest. -/
def compileForest (doc : Document) : Traced Forest := do
  Traced.note .init
    ("Compiling document: " ++ toString doc.topLevel.length ++ " top-level nodes, "
      ++ toString doc.zones.length ++ " zones")
  noteIssues doc.issues
  let page := Compiled.lines ((← doc.compileSections [] doc.topLevel).map some)
  Traced.note .success
    ("Compiled " ++ toString page.converted ++ " nodes into "
      ++ toString (Text.size page.content.render) ++ " bytes")
  return page.content

/-- The markup of a document. -/
def compile (doc : Document) : Traced String :=
  (fun page : Forest => String.ofList page.render) <$> doc.compileForest

end Document

end PageMarkup
