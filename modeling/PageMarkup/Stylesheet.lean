import PageMarkup.Text.Scan
import PageMarkup.Text.Basic

/-!
# Backgrounds in stylesheets

From a stylesheet only one thing is wanted: the backgrounds of sections.  Its rules are found by
their braces; groups such as `@media` contribute the rules inside them and other blocks with an `@`
are passed over.  Where the braces do not balance there are no rules.
-/

namespace PageMarkup

open Text

/-! ### Declarations -/

/-- A declaration may begin after this character. -/
def isDeclarationStart (c : Char) : Bool :=
  c == ';' || c == '\x7b' || isBlank c

/-- The value of a declaration of a property that begins here.  It reaches up to the next semicolon
or closing brace and has at least one character. -/
def declarationHere? (property : String) (cs : List Char) : Option (List Char) := do
  let rest ← afterFolded? property.toList cs
  let rest ← after? [':'] (trimStart rest)
  let value := rest.takeWhile fun c => c != ';' && c != '\x7d'
  if value.isEmpty then none else some value

/-- The value of the first declaration of a property that begins after a character of the text. -/
def declarationInside? (property : String) : List Char → Option (List Char)
  | [] => none
  | c :: cs =>
    match if isDeclarationStart c then declarationHere? property cs else none with
    | some value => some value
    | none => declarationInside? property cs

/-- The value of the first declaration of a property, without `!important`. -/
def declaration? (property : String) (cs : List Char) : Option String :=
  let value := (declarationHere? property cs).orElse fun _ => declarationInside? property cs
  value.map fun value =>
    String.ofList (trim (dropEndMarks "!important".toList (trim value)))

/-- The three declarations that set a background. -/
structure Backgrounds where
  shorthand : Option String
  color : Option String
  image : Option String
  deriving DecidableEq, Repr, Inhabited

namespace Backgrounds

/-- The backgrounds that some declarations set. -/
def read (declarations : List Char) : Backgrounds where
  shorthand := declaration? "background" declarations
  color := declaration? "background-color" declarations
  image := declaration? "background-image" declarations

/-- The declared values, by precedence. -/
def values (b : Backgrounds) : List String :=
  b.shorthand.toList ++ b.color.toList ++ b.image.toList

/-- The first declared value, be it empty. -/
def first? (b : Backgrounds) : Option String :=
  b.values.head?

/-- The first value that is not empty. -/
def effective? (b : Backgrounds) : Option String :=
  b.values.find? (· != "")

end Backgrounds

/-! ### Rules -/

/-- A rule, as far as it sets a background. -/
structure StyleRule where
  selector : String
  backgrounds : Backgrounds
  deriving DecidableEq, Repr, Inhabited

namespace Stylesheet

/-- A comment. -/
def readComment : Reader Unit
  | '/' :: '*' :: cs => (splitAt? ['*', '/'] cs).map fun (_, rest) => ((), rest)
  | _ => none

/-- The text without its comments. -/
def withoutComments (cs : List Char) : List Char :=
  replaceFound readComment (fun _ _ => []) cs

/-- The blocks whose content is a list of rules. -/
def groupMarks : List String := ["@media", "@supports"]

/-- The text before the brace opens a group of rules. -/
def isGroup (selector : List Char) : Bool :=
  groupMarks.any fun mark => (after? mark.toList selector).isSome

/-- The text before the brace opens a block that is no rule. -/
def isAtRule (selector : List Char) : Bool :=
  selector.head? == some '@'

/-- Where a walk through a stylesheet stands. -/
inductive Place where
  /-- Between rules, after the beginning of a selector, the last character first. -/
  | between (start : List Char)
  /-- In the body of a block, inside `depth` further braces, after the beginning of the body, the
  last character first. -/
  | body (selector : List Char) (depth : Nat) (start : List Char)
  deriving Repr, Inhabited

/-- The selectors and bodies of the rules from here on, `groups` groups being open.  There is no
answer where the braces do not balance. -/
def blocksFrom (groups : Nat) : Place → List Char → Option (List (List Char × List Char))
  | .between _, [] => if groups = 0 then some [] else none
  | .body .., [] => none
  | .between start, c :: cs =>
    if c = '\x7b' then
      let selector := trim start.reverse
      if isGroup selector then blocksFrom (groups + 1) (.between []) cs
      else blocksFrom groups (.body selector 0 []) cs
    else if c = '\x7d' then
      match groups with
      | 0 => none
      | groups + 1 => blocksFrom groups (.between []) cs
    else if c = ';' then blocksFrom groups (.between []) cs
    else blocksFrom groups (.between (c :: start)) cs
  | .body selector depth start, c :: cs =>
    if c = '\x7b' then blocksFrom groups (.body selector (depth + 1) (c :: start)) cs
    else if c = '\x7d' then
      match depth with
      | 0 =>
        (blocksFrom groups (.between []) cs).map fun rest =>
          if isAtRule selector then rest else (selector, start.reverse) :: rest
      | depth + 1 => blocksFrom groups (.body selector depth (c :: start)) cs
    else blocksFrom groups (.body selector depth (c :: start)) cs

/-- The selectors and bodies of the rules of a stylesheet without comments. -/
def blocks (cs : List Char) : Option (List (List Char × List Char)) :=
  blocksFrom 0 (.between []) cs

/-- Parts of selectors that speak of sections. -/
def sectionMarks : List String :=
  ["section", "hero", "banner", "band", "strip", "row", "container", "wrapper"]

/-- The selector speaks of a section. -/
def isSectionSelector (selector : List Char) : Bool :=
  sectionMarks.any fun mark => contains mark.toList (lower selector)

/-- The rules of a stylesheet that give a section a background, in order. -/
def rules (css : List Char) : List StyleRule :=
  let found := (blocks (withoutComments css)).getD []
  ((found.filter fun (selector, _) => isSectionSelector selector).map fun (selector, body) =>
    ⟨String.ofList selector, Backgrounds.read body⟩).filter fun rule =>
      rule.backgrounds.effective?.isSome

/-- The background of the first rule that applies and has one. -/
def firstBackground? (applies : List Char → Bool) (rules : List StyleRule) : Option String :=
  (rules.filter fun rule => applies rule.selector.toList).findSome? fun rule =>
    rule.backgrounds.effective?

/-- The background of an element: of a rule that names its id, or else of one that names any of its
classes. -/
def background? (id classes : Option String) (rules : List StyleRule) : Option String :=
  let byId :=
    match trim ((id.getD "").toList) with
    | [] => none
    | id => firstBackground? (contains ('#' :: id)) rules
  byId.orElse fun _ =>
    let marks := (words (classes.getD "").toList).map ('.' :: ·)
    firstBackground? (fun selector => marks.any (contains · selector)) rules

end Stylesheet

end PageMarkup
