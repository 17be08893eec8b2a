import PageMarkup.Html.Backdrop
import PageMarkup.Import.Draft
import PageMarkup.Stylesheet

/-!
# Backgrounds of sections

The background of a section comes from its own attributes or inline style, or else from the
stylesheets of the page, or else from the structure of the page.  One value may name a color and an
image; they are told apart and stored as two properties.
-/

namespace PageMarkup

open Text

/-- The fields of a rule, as a stylesheet is listed. -/
def StyleRule.fields (rule : StyleRule) : List (String × Json) :=
  let field (name : String) (value : Option String) : List (String × Json) :=
    (value.map fun value => (name, Json.text value)).toList
  [("selector", .text rule.selector)]
    ++ field "background" rule.backgrounds.shorthand
    ++ field "backgroundColor" rule.backgrounds.color
    ++ field "backgroundImage" rule.backgrounds.image

/-- A rule as JSON. -/
def StyleRule.toJson (rule : StyleRule) : Json :=
  Json.ofFields rule.fields

/-- A background found in the structure of a page as JSON. -/
def Html.Backdrop.toJson (backdrop : Html.Backdrop) : Json :=
  Json.ofFields [
    ("key", .text backdrop.key),
    ("background", .text backdrop.background),
    ("offset", .int backdrop.offset),
    ("origin", .text backdrop.origin.name)]

namespace Background

/-- Where a background comes from. -/
inductive Origin where
  | attributes
  | inlineStyle
  | stylesheet
  | backdrop
  deriving DecidableEq, Repr, Inhabited

/-- The name of an origin. -/
def Origin.name : Origin → String
  | .attributes => "attribute"
  | .inlineStyle => "inline style"
  | .stylesheet => "stylesheet"
  | .backdrop => "structural wrapper"

/-- A background with its origin. -/
structure Found where
  value : String
  source : Origin
  deriving DecidableEq, Repr, Inhabited

/-! ### Style of a page -/

/-- The backgrounds that a page defines outside its sections. -/
structure PageStyle where
  rules : List StyleRule
  backdrops : List Html.Backdrop
  deriving Repr, Inhabited

/-- The content of a style element. -/
def readStyle (cs : List Char) : Option (List Char × List Char) := do
  let (_, rest) ← Html.readNamed "style" cs
  splitFirst? (Html.afterClosing? "style") rest

/-- The contents of the style elements of a page. -/
def styleBlocks (page : List Char) : List (List Char) :=
  findAll readStyle page

/-- What a page defines, with entries about it. -/
def harvest (page : List Char) : Traced PageStyle := do
  let blocks := styleBlocks page
  let rules := Stylesheet.rules (joinWith ['\n'] blocks)
  let backdrops := Html.Backdrop.findAll page
  if !rules.isEmpty then
    Traced.noteWith .style
      ("Extracted " ++ toString rules.length ++ " background rules from "
        ++ toString blocks.length ++ " style blocks")
      (.array (rules.map StyleRule.toJson))
  if !backdrops.isEmpty then
    Traced.noteWith .style
      ("Found " ++ toString backdrops.length ++ " structural backgrounds")
      (.array (backdrops.map Html.Backdrop.toJson))
  return ⟨rules, backdrops⟩

/-! ### Finding -/

/-- A background found in the structure of the page belongs to the section with its key as id, or
to the section around it. -/
def isAbout (id : Option String) (span : Option (Nat × Nat)) (backdrop : Html.Backdrop) : Bool :=
  id == some backdrop.key ||
    span.any fun (start, stop) => start ≤ backdrop.offset && backdrop.offset < stop

/-- The background of a section: its explicit one, or else one of the stylesheets, or else one of
the structure of the page. -/
def find? (style : PageStyle) (explicit : Option Found) (id classes : Option String)
    (span : Option (Nat × Nat)) : Option Found :=
  let ofRules := fun _ : Unit =>
    (Stylesheet.background? id classes style.rules).map (Found.mk · .stylesheet)
  let ofStructure := fun _ : Unit =>
    (style.backdrops.find? (isAbout id span)).map fun backdrop =>
      ⟨backdrop.background, .backdrop⟩
  (explicit.orElse ofRules).orElse ofStructure

/-! ### Colors and images -/

/-- An image in a background. -/
def readUrl (cs : List Char) : Option (List Char × List Char) := do
  let rest ← afterFolded? "url(".toList cs
  match rest.dropWhile (· != ')') with
  | _ :: after => some (cs.take (cs.length - after.length), after)
  | [] => none

/-- The color and the image that a background names.  A background that names neither is taken as a
color, which will not be allowed. -/
def split (value : String) : Option String × Option String :=
  let cs := trim value.toList
  if (Restricted.allowColor cs).isSome then (some (String.ofList cs), none)
  else
    let image := findFirst? readUrl cs
    let rest := replaceFound readUrl (fun _ _ => [' ']) cs
    let color := (words rest).find? fun word => (Restricted.allowColor word).isSome
    match color, image with
    | none, none => (some (String.ofList cs), none)
    | color, image => (color.map String.ofList, image.map String.ofList)

end Background

namespace Node

/-- The words about a background of a node. -/
def backgroundMessage (node : Node) (what : String) (source : Background.Origin) : String :=
  node.kind.name ++ " " ++ node.id ++ " " ++ what ++ " from " ++ source.name

/-- The node with the background that was found for it, if any. -/
def withBackground (node : Node) (found : Option Background.Found) : Drafting Node := do
  match found with
  | none => return node
  | some found =>
    Drafting.noteWith .style (node.backgroundMessage "background" found.source) <| Json.ofFields [
      ("id", .text node.id),
      ("background", .text found.value),
      ("source", .text found.source.name)]
    let (color, image) := Background.split found.value
    let node ← node.styled "backgroundColor" .bgColor color
    node.styled "backgroundImage" .bgImage image

/-- The node with the image that its attributes name as background, if any. -/
def withBackgroundImage (node : Node) (image : Option String) : Drafting Node := do
  match image with
  | none => return node
  | some image =>
    let source := Background.Origin.attributes
    Drafting.noteWith .style (node.backgroundMessage "background image" source) <| Json.ofFields [
      ("id", .text node.id),
      ("background_image", .text image),
      ("source", .text source.name)]
    node.styled "backgroundImage" .bgImage (some image)

end Node

end PageMarkup
