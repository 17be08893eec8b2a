import PageMarkup.Html.Tag
import PageMarkup.Stylesheet

/-!
# Backgrounds in the structure of a page

Themes also set the background of a section in the page itself: on a wrapper element made for this,
or in the inline style of a section.
-/

namespace PageMarkup

namespace Html

open Text

/-- Where in the page a background was found. -/
inductive Origin where
  | wrapper
  | inlineStyle
  deriving DecidableEq, Repr, Inhabited

/-- The name of an origin. -/
def Origin.name : Origin → String
  | .wrapper => "wrapper"
  | .inlineStyle => "inline_style"

/-- A background found in the structure of a page. -/
structure Backdrop where
  /-- The id of the element, or else of the last element before it that has one, or else a name
  made from its offset. -/
  key : String
  background : String
  offset : Nat
  origin : Origin
  deriving DecidableEq, Repr, Inhabited

namespace Backdrop

/-- The classes of elements made for a background. -/
def wrapperClasses : List String := ["section-bg", "section-background", "section_bg"]

/-- The element is made for a background. -/
def isWrapper (tag : Tag) : Bool :=
  (classWords tag.attributes).any fun word => wrapperClasses.contains (String.ofList word)

/-- The element is a section or says so in its class. -/
def isSectionLike (tag : Tag) : Bool :=
  lower tag.name == "section".toList
    || contains "section".toList (lower ((attribute? "class" tag.attributes).getD []))

/-- The background in the inline style of an element. -/
def inline? (tag : Tag) : Option String := do
  (Backgrounds.read (← attribute? "style" tag.attributes)).first?

/-- The background that an element sets, with its origin. -/
def ofTag? (tag : Tag) : Option (String × Origin) :=
  let found :=
    if isWrapper tag then
      let data := (attribute? "data-bg" tag.attributes).orElse fun _ =>
        attribute? "data-bg-color" tag.attributes
      ((data.map String.ofList).orElse fun _ => inline? tag).map (·, .wrapper)
    else if isSectionLike tag then (inline? tag).map (·, .inlineStyle)
    else none
  (found.map fun (background, origin) => (trimmed background, origin)).filter (·.1 != "")

/-- The id of an element, unless it is blank. -/
def id? (tag : Tag) : Option String :=
  ((attribute? "id" tag.attributes).filter fun id => !allBlank id).map String.ofList

/-- The backgrounds that some opening tags set, where `last` is the last id before them. -/
def ofTags (last : Option String) : List (Nat × Tag) → List Backdrop
  | [] => []
  | (offset, tag) :: tags =>
    let last := (id? tag).orElse fun _ => last
    let rest := ofTags last tags
    match ofTag? tag with
    | none => rest
    | some (background, origin) =>
      let key := last.getD ("section-" ++ toString offset)
      ⟨key, background, offset, origin⟩ :: rest

/-- The backgrounds in the structure of a page, in order. -/
def findAll (page : List Char) : List Backdrop :=
  ofTags none (findAllAt readOpening page)

end Backdrop

end Html

end PageMarkup
