import PageMarkup.Entity

/-!
# Page markup

The theme's markup is a forest of texts and elements.  An element is written
`[name attribute="value"]…[/name]`; four elements never hold anything and are written as their
opening tag alone.  Inside texts and values every bracket is written as a character reference, so a
bracket in markup always belongs to a tag.
-/

namespace PageMarkup

/-! ### Escapes -/

namespace Escape

/-- A character with brackets written as references. -/
def bracket (c : Char) : List Char :=
  match c with
  | '[' => ['&', '#', '9', '1', ';']
  | ']' => ['&', '#', '9', '3', ';']
  | c => [c]

/-- Text that may hold inline HTML: only brackets are replaced. -/
def rich (cs : List Char) : List Char :=
  cs.flatMap bracket

/-- Plain text: what HTML gives a meaning to is replaced as well. -/
def text (cs : List Char) : List Char :=
  rich (Entity.encode cs)

/-- An attribute value: quotes are replaced as well. -/
def value (cs : List Char) : List Char :=
  rich (Entity.encodeQuoted cs)

end Escape

/-! ### Tags -/

/-- The name and the attributes of an element, in the order in which they are written. -/
structure Tag where
  name : String
  attributes : List (String × String)
  deriving DecidableEq, Repr, Inhabited

namespace Tag

/-- One attribute with the space in front of it. -/
def attributeChars : String × String → List Char
  | (name, value) => [' '] ++ name.toList ++ ['=', '"'] ++ Escape.value value.toList ++ ['"']

/-- The opening tag. -/
def opening (tag : Tag) : List Char :=
  ['['] ++ tag.name.toList ++ tag.attributes.flatMap attributeChars ++ [']']

/-- The closing tag. -/
def closing (tag : Tag) : List Char :=
  ['[', '/'] ++ tag.name.toList ++ [']']

/-- The element around some markup. -/
def around (tag : Tag) (content : List Char) : List Char :=
  tag.opening ++ content ++ tag.closing

end Tag

/-- Markup on lines of its own; no markup takes no line. -/
def ownLines (content : List Char) : List Char :=
  if content.isEmpty then [] else ['\n'] ++ content ++ ['\n']

/-- The row of the skeleton. -/
def fullRow : Tag := ⟨"row", [("width", "full")]⟩

/-- The column of the skeleton. -/
def fullColumn : Tag := ⟨"column", [("span", "12")]⟩

/-- The skeleton that every section has, with some markup inside: one row with one column. -/
def sectionAround (attributes : List (String × String)) (content : List Char) : List Char :=
  Tag.around ⟨"section", attributes⟩ <|
    fullRow.around <| fullColumn.around <| ownLines content

/-! ### Forests -/

/-- A text or an element.  The text is kept as it is written, escapes and all. -/
inductive Markup where
  | text (content : String)
  | element (tag : Tag) (children : List Markup)
  deriving Repr, Inhabited

/-- A sequence of texts and elements. -/
abbrev Forest := List Markup

namespace Markup

/-- The elements that never hold anything. -/
def voidNames : List String := ["image", "divider", "spacer", "counter"]

/-- The element never holds anything. -/
def isVoid (name : String) : Bool :=
  voidNames.contains name

mutual

/-- The markup of a text or an element. -/
def render : Markup → List Char
  | text content => content.toList
  | element tag children =>
    if isVoid tag.name then tag.opening else tag.around (renderAll children)

/-- The markup of a forest. -/
def renderAll : List Markup → List Char
  | [] => []
  | item :: items => render item ++ renderAll items

end

@[simp] theorem renderAll_append (items others : List Markup) :
    renderAll (items ++ others) = renderAll items ++ renderAll others := by
  induction items with
  | nil => simp [renderAll]
  | cons item items ih => simp [renderAll, ih]

/-- An element that holds a text. -/
def holding (tag : Tag) (content : List Char) : Markup :=
  element tag (if content.isEmpty then [] else [text (String.ofList content)])

/-- The end of a line. -/
def newline : Markup := text "\n"

end Markup

namespace Forest

/-- The markup of a forest. -/
def render (forest : Forest) : List Char :=
  Markup.renderAll forest

/-- Forests with a line end between neighbours. -/
def lines : List Forest → Forest
  | [] => []
  | [forest] => forest
  | forest :: forests => forest ++ [Markup.newline] ++ lines forests

/-- A forest on lines of its own; the empty forest takes no line. -/
def ownLines (forest : Forest) : Forest :=
  if forest.isEmpty then [] else [Markup.newline] ++ forest ++ [Markup.newline]

end Forest

namespace Markup

/-- An element whose content stands on lines of its own. -/
def block (tag : Tag) (content : Forest) : Markup :=
  element tag content.ownLines

/-- A section with the skeleton that every section has. -/
def skeleton (attributes : List (String × String)) (content : Forest) : Markup :=
  element ⟨"section", attributes⟩ [element fullRow [block fullColumn content]]

end Markup

end PageMarkup
