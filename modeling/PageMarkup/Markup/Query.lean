import PageMarkup.Markup
import PageMarkup.Text.Basic

/-!
# Looking into markup

What the elements of a forest say: their attributes, the text inside them, and the elements inside
them by name.
-/

namespace PageMarkup

/-- An element of a forest. -/
structure Element where
  tag : Tag
  children : Forest
  deriving Repr, Inhabited

/-- An item of a forest as an element. -/
def Markup.element? : Markup → Option Element
  | .element tag children => some ⟨tag, children⟩
  | .text _ => none

namespace Markup

mutual

/-- The text inside an item, tags apart. -/
def textOf : Markup → String
  | .text content => content
  | .element _ children => textOfAll children

/-- The text inside some items, tags apart. -/
def textOfAll : List Markup → String
  | [] => ""
  | item :: items => textOf item ++ textOfAll items

end

mutual

/-- The item itself if it has the name, or else the first element with the name inside it. -/
def findIn? (name : String) : Markup → Option Element
  | .text _ => none
  | .element tag children =>
    if tag.name == name then some ⟨tag, children⟩ else findInAll? name children

/-- The first element with a name in some items, depth first. -/
def findInAll? (name : String) : List Markup → Option Element
  | [] => none
  | item :: items => (findIn? name item).orElse fun _ => findInAll? name items

end

mutual

/-- The item itself if it has the name, or else all elements with the name inside it. -/
def collect (name : String) : Markup → List Element
  | .text _ => []
  | .element tag children =>
    if tag.name == name then [⟨tag, children⟩] else collectAll name children

/-- All elements with a name in some items that stand in no other such element, in order. -/
def collectAll (name : String) : List Markup → List Element
  | [] => []
  | item :: items => collect name item ++ collectAll name items

end

end Markup

namespace Element

/-- The name of the element. -/
def name (element : Element) : String := element.tag.name

/-- The value of an attribute unless it is blank; of attributes with one name the last counts. -/
def attribute? (element : Element) (name : String) : Option String :=
  (element.tag.attributes.reverse.lookup name).filter fun value => !Text.allBlank value.toList

/-- The text inside the element, tags apart. -/
def text (element : Element) : String :=
  Markup.textOfAll element.children

/-- The elements directly inside the element. -/
def elements (element : Element) : List Element :=
  element.children.filterMap Markup.element?

/-- The first element with a name inside the element, depth first. -/
def find? (element : Element) (name : String) : Option Element :=
  Markup.findInAll? name element.children

/-- All elements with a name inside the element that stand in no other such element. -/
def findAll (element : Element) (name : String) : List Element :=
  Markup.collectAll name element.children

end Element

end PageMarkup
