import PageMarkup.Document
import PageMarkup.Json.Printer
import PageMarkup.Json.Tree

/-!
# Documents as JSON

The stored form of a document.  A node keeps its id among its properties there.  Fields that are
not known are passed over, whatever they hold; a structure may also be stored as the array of its
fields in order.
-/

namespace PageMarkup

namespace Json.Tree

/-- The values of the named fields of a structure, each present at most once.  An array holds them
in this order and may leave out the last ones. -/
def slots? (names : List String) : Tree → Option (List (Option Tree))
  | .array items =>
    if names.length < items.length then none
    else some ((items.map some) ++ List.replicate (names.length - items.length) none)
  | .object fields => do
    let fields ← fields.mapM fun (name, tree) => name.map fun name => (name, tree)
    names.mapM fun name =>
      match (fields.filter (·.1 == name)).map Prod.snd with
      | [] => some none
      | [tree] => some (some tree)
      | _ => none
  | _ => none

/-- The room inside an array or object that has `room` itself. -/
def inside? (room : Nat) : Option Nat :=
  if room = 0 then none else some (room - 1)

end Json.Tree

open Json (Tree)

/-- The properties of a tree. -/
def Props.ofTree? (room : Nat) (tree : Tree) : Option Props := do
  match ← tree.value? room with
  | .object fields => some (Value.ofFields fields)
  | _ => none

/-- The properties of a field that may be missing. -/
def Props.ofSlot? (room : Nat) : Option Tree → Option Props
  | none => some []
  | some tree => Props.ofTree? room tree

/-- The node with this type name and these properties, of which one is its id. -/
def Node.ofProps (kind : String) (props : Props) : Node where
  kind := Kind.ofName kind
  id := ((Dict.get? "id" props).bind Value.text?).getD ""
  props := Dict.erase "id" props

/-- The node of a tree. -/
def Node.ofTree? (room : Nat) (tree : Tree) : Option Node := do
  let room ← Tree.inside? room
  match ← tree.slots? ["type", "props"] with
  | [some (.text kind), props] =>
    some (Node.ofProps (← kind) (← Props.ofSlot? room props))
  | _ => none

/-- The nodes of a tree. -/
def Node.listOfTree? (room : Nat) : Tree → Option (List Node)
  | .array items => do
    let room ← Tree.inside? room
    items.mapM (Node.ofTree? room)
  | _ => none

namespace Document

/-- The properties of the page itself. -/
def rootOfTree? (room : Nat) (tree : Tree) : Option Props := do
  let room ← Tree.inside? room
  match ← tree.slots? ["props"] with
  | [props] => Props.ofSlot? room props
  | _ => none

/-- The zones of a tree; of zones with one key the last counts. -/
def zonesOfTree? (room : Nat) : Tree → Option (List (String × List Node))
  | .object fields => do
    let room ← Tree.inside? room
    let zones ← fields.mapM fun (name, tree) => do
      some (← name, ← Node.listOfTree? room tree)
    some (Dict.ofList zones)
  | _ => none

/-- A field that may be missing. -/
def slot? {α : Type} (default : α) (read : Tree → Option α) : Option Tree → Option α
  | none => some default
  | some tree => read tree

/-- The document of a tree. -/
def ofTree? (tree : Tree) : Option Document := do
  let room ← Tree.inside? Json.greatestNesting
  match ← tree.slots? ["root", "content", "zones"] with
  | [root, content, zones] =>
    some {
      root := ← slot? [] (rootOfTree? room) root
      topLevel := ← slot? [] (Node.listOfTree? room) content
      zones := ← slot? [] (zonesOfTree? room) zones }
  | _ => none

/-- The document that a text spells. -/
def read? (text : String) : Option Document := do
  ofTree? (← Tree.read? text.toList)

/-- Why bytes are no document. -/
inductive ReadError where
  /-- They are no text. -/
  | encoding
  /-- The text does not have the form of a document. -/
  | form
  deriving DecidableEq, Repr

/-- The document that bytes in UTF-8 spell. -/
def ofBytes (bytes : ByteArray) : Except ReadError Document :=
  match String.fromUTF8? bytes with
  | none => .error .encoding
  | some text =>
    match read? text with
    | none => .error .form
    | some doc => .ok doc

end Document

/-- The node that a text spells. -/
def Node.read? (text : String) : Option Node := do
  Node.ofTree? Json.greatestNesting (← Tree.read? text.toList)

/-- A node as JSON, with its id among its properties. -/
def Node.toJson (node : Node) : Json :=
  .object [
    ("type", .text node.kind.name),
    ("props", .object (Value.toFields (Dict.insert "id" (.text node.id) node.props)))]

namespace Document

/-- A document as JSON. -/
def toJson (doc : Document) : Json :=
  .object [
    ("root", .object [("props", .object (Value.toFields doc.root))]),
    ("content", .array (doc.topLevel.map Node.toJson)),
    ("zones", .object (doc.zones.map fun (key, nodes) => (key, .array (nodes.map Node.toJson))))]

/-- The stored text of a document. -/
def print (doc : Document) : String :=
  doc.toJson.pretty

end Document

end PageMarkup
