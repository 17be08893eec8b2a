import PageMarkup.Template

/-!
# Templates of single elements

Headings, texts, images, buttons, dividers and spacers, and the stand-in for kinds outside the
vocabulary.
-/

namespace PageMarkup

namespace Template

/-- The level of a heading that does not say its level. -/
def defaultLevel : String := "2"

/-- The names of the text of a heading. -/
def headingNames : List String := ["title", "text", "content"]

/-- The names of the text of a text. -/
def textNames : List String := ["text", "content", "body"]

/-- The names of the label of a button. -/
def labelNames : List String := ["label", "text", "title"]

/-- A heading always says its level. -/
def headingNode (node : Node) : Rendering := do
  match node.props.text? headingNames with
  | none => skip node "text"
  | some title =>
    let attributes ← node.attributes
    let level := match valueOf? .level attributes with
      | some _ => []
      | none => [("level", defaultLevel)]
    return some [plainElement ⟨"heading", level ++ named attributes⟩ title]

/-- A text. -/
def textNode (node : Node) : Rendering := do
  match node.props.text? textNames with
  | none => skip node "text"
  | some body =>
    return some [richElement ⟨"text", named (← node.attributes)⟩ body]

/-- An image needs a source. -/
def imageNode (node : Node) : Rendering := do
  let attributes ← node.attributes
  match valueOf? .src attributes with
  | none => skip node "usable src"
  | some _ =>
    let alt := attribute? "alt" (node.props.text? ["alt", "caption"])
    return some [.element ⟨"image", named attributes ++ alt⟩ []]

/-- A button needs a label. -/
def buttonNode (node : Node) : Rendering := do
  match node.props.text? labelNames with
  | none => skip node "label"
  | some label =>
    return some [plainElement ⟨"button", named (← node.attributes)⟩ label]

/-- An element without content. -/
def emptyNode (name : String) (node : Node) : Rendering := do
  return some [.element ⟨name, named (← node.attributes)⟩ []]

/-- A node of an unknown kind shows its content as text, if it has any. -/
def unknownNode (name : String) (node : Node) : Rendering := do
  let start := "Unknown block type '" ++ name ++ "' (" ++ node.id ++ ")"
  match node.props.text? ["content"] with
  | some content =>
    Traced.note .warn (start ++ " degraded to text")
    return some [textElement content]
  | none =>
    Traced.note .warn (start ++ " skipped")
    return none

end Template

end PageMarkup
