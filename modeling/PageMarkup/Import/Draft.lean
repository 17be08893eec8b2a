import PageMarkup.Filter

/-!
# Nodes in the making

While a page is read, nodes get ids by kind and number, and every restricted value is checked before
it is stored.
-/

namespace PageMarkup

/-- A computation that makes nodes.  It keeps the kinds of the nodes made so far, by which their ids
are numbered, and leaves entries in the journal. -/
abbrev Drafting := StateT (List Kind) Traced

namespace Drafting

/-- Leave an entry. -/
def note (phase : Phase) (message : String) : Drafting Unit :=
  monadLift (Traced.note phase message)

/-- Leave an entry with data. -/
def noteWith (phase : Phase) (message : String) (data : Json) : Drafting Unit :=
  monadLift (Traced.noteWith phase message data)

/-- The id of the node of a kind with a number. -/
def idOf (kind : Kind) (number : Nat) : String :=
  Text.lowered kind.name ++ "-" ++ toString number

/-- A new node without properties. -/
def node (kind : Kind) : Drafting Node := do
  let made ← get
  set (kind :: made)
  return ⟨kind, idOf kind (made.count kind + 1), []⟩

end Drafting

namespace Node

/-- The node with a property. -/
def withProp (node : Node) (name : String) (value : Value) : Node :=
  { node with props := Dict.insert name value node.props }

/-- The node with a text property, unless there is no text. -/
def withText (node : Node) (name : String) (value : Option String) : Node :=
  match value with
  | some value => node.withProp name (.text value)
  | none => node

/-- The node with a restricted property, if there is a value and it is allowed. -/
def styled (node : Node) (name : String) (target : Restricted) (raw : Option String) :
    Drafting Node := do
  match raw with
  | none => return node
  | some raw => return node.withText name (← target.filterText raw (some node.id))

end Node

end PageMarkup
