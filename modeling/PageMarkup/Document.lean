import PageMarkup.Value

/-!
# Documents of the page editor

A document holds the nodes of the top level and, in zones, the nodes inside other nodes.  A zone is
found by its key, which names the node that owns it.  Nodes do not point at one another, so nothing
keeps the keys and the ids in step; `Document.issues` tells where they are not.
-/

namespace PageMarkup

/-! ### Kinds of nodes -/

/-- What a kind of node is turned into. -/
inductive Category where
  /-- Owns a zone and makes up the skeleton of the page. -/
  | structural
  /-- One element. -/
  | leaf
  /-- A fixed arrangement of elements. -/
  | composite
  /-- Outside the vocabulary. -/
  | unrecognized
  deriving DecidableEq, Repr, Inhabited

/-- The kinds of nodes that an editor places. -/
inductive Kind where
  | section
  | heading
  | text
  | image
  | button
  | divider
  | spacer
  | columns
  | card
  | featureGrid
  | pricingCards
  | testimonial
  | statsRow
  | faq
  | hero
  /-- Any other, by the name the editor gives it. -/
  | unknown (name : String)
  deriving DecidableEq, Repr, Inhabited

namespace Kind

/-- The kind with this name; three kinds have a second name. -/
def ofName (name : String) : Kind :=
  if name = "Section" then .section
  else if name = "Heading" then .heading
  else if name = "Text" || name = "Paragraph" then .text
  else if name = "Image" then .image
  else if name = "Button" then .button
  else if name = "Divider" then .divider
  else if name = "Spacer" then .spacer
  else if name = "Columns" then .columns
  else if name = "Card" then .card
  else if name = "FeatureGrid" then .featureGrid
  else if name = "PricingCards" then .pricingCards
  else if name = "Testimonial" then .testimonial
  else if name = "StatsRow" || name = "Stats" then .statsRow
  else if name = "Faq" || name = "FAQ" then .faq
  else if name = "Hero" then .hero
  else .unknown name

/-- The name of a kind. -/
def name : Kind → String
  | .section => "Section"
  | heading => "Heading"
  | text => "Text"
  | image => "Image"
  | button => "Button"
  | divider => "Divider"
  | spacer => "Spacer"
  | columns => "Columns"
  | card => "Card"
  | featureGrid => "FeatureGrid"
  | pricingCards => "PricingCards"
  | testimonial => "Testimonial"
  | statsRow => "StatsRow"
  | faq => "Faq"
  | hero => "Hero"
  | unknown name => name

/-- What a kind is turned into. -/
def category : Kind → Category
  | .section => .structural
  | heading | text | image | button | divider | spacer => .leaf
  | columns | card | featureGrid | pricingCards | testimonial | statsRow | faq | hero => .composite
  | unknown _ => .unrecognized

/-- The kind owns a zone. -/
def isStructural (kind : Kind) : Bool :=
  kind.category == .structural

/-- The kind is outside the vocabulary. -/
def isUnknown : Kind → Bool
  | unknown _ => true
  | _ => false

end Kind

/-! ### Zones -/

namespace Zone

/-- The name of the zone that holds the content of a node. -/
def content : String := "content"

/-- The key of the zone of a node. -/
def key (owner zone : String) : String :=
  owner ++ ":" ++ zone

/-- The parts of a key before and after its last colon. -/
def split? (key : String) : Option (String × String) :=
  let reversed := key.toList.reverse
  match reversed.dropWhile (· != ':') with
  | [] => none
  | _ :: owner =>
    some (String.ofList owner.reverse,
      String.ofList (reversed.takeWhile (· != ':')).reverse)

/-- The id of the node that owns a zone.  Ids may hold colons, so the last one counts; a key
without a colon is an id. -/
def owner (key : String) : String :=
  ((split? key).map Prod.fst).getD key

/-- The name of a zone within its node. -/
def name (key : String) : String :=
  ((split? key).map Prod.snd).getD ""

end Zone

/-! ### Documents -/

/-- A placed block. -/
structure Node where
  kind : Kind
  id : String
  props : Props
  deriving Repr, Inhabited

namespace Node

/-- The key of the zone of this node with the given name. -/
def zoneKey (node : Node) (zone : String) : String :=
  Zone.key node.id zone

/-- The key of the zone that holds the content of this node. -/
def contentKey (node : Node) : String :=
  node.zoneKey Zone.content

end Node

/-- A page. -/
structure Document where
  root : Props
  topLevel : List Node
  /-- The nodes inside others by zone key, in key order. -/
  zones : List (String × List Node)
  deriving Repr, Inhabited

/-- What is wrong with the placement of nodes. -/
inductive Issue where
  | missingId (kind : Kind)
  | duplicateId (id : String)
  | danglingZone (key : String)
  deriving DecidableEq, Repr

/-- An issue in words. -/
def Issue.message : Issue → String
  | missingId kind => kind.name ++ " node has no id"
  | duplicateId id => "node id '" ++ id ++ "' is placed more than once"
  | danglingZone key => "zone '" ++ key ++ "' belongs to no node in the document"

namespace Document

/-- The document without any node. -/
def empty : Document := ⟨[], [], []⟩

/-- The nodes of a zone, if it was ever filled. -/
def zone? (doc : Document) (key : String) : Option (List Node) :=
  Dict.get? key doc.zones

/-- The nodes of a zone of a node. -/
def children (doc : Document) (node : Node) (zone : String) : List Node :=
  (doc.zone? (node.zoneKey zone)).getD []

/-- All nodes: the top level, then the zones in key order. -/
def nodes (doc : Document) : List Node :=
  doc.topLevel ++ doc.zones.flatMap Prod.snd

/-- The first node with an id. -/
def find? (doc : Document) (id : String) : Option Node :=
  doc.nodes.find? (·.id == id)

/-- Place a node at the end of the top level. -/
def push (doc : Document) (node : Node) : Document :=
  { doc with topLevel := doc.topLevel ++ [node] }

/-- Place a node at the end of a zone. -/
def pushZone (doc : Document) (key : String) (node : Node) : Document :=
  { doc with zones := Dict.modify key [] (· ++ [node]) doc.zones }

/-- The issues of the nodes of a list, after nodes with the ids `seen`. -/
def nodeIssues (seen : List String) : List Node → List Issue
  | [] => []
  | node :: rest =>
    if node.id = "" then .missingId node.kind :: nodeIssues seen rest
    else if seen.contains node.id then .duplicateId node.id :: nodeIssues seen rest
    else nodeIssues (node.id :: seen) rest

/-- The zones that belong to no node with an id. -/
def danglingZones (doc : Document) : List String :=
  let ids := (doc.nodes.map Node.id).filter (· != "")
  (doc.zones.map Prod.fst).filter fun key => !ids.contains (Zone.owner key)

/-- Everything that is wrong with the placement of nodes: first the nodes, then the zones. -/
def issues (doc : Document) : List Issue :=
  nodeIssues [] doc.nodes ++ doc.danglingZones.map .danglingZone

end Document

end PageMarkup
