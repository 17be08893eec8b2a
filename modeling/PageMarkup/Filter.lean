import PageMarkup.Document
import PageMarkup.Journal
import PageMarkup.Restricted

/-!
# Values on their way into restricted attributes

A property value is turned into text, checked, and dropped where it is not allowed.  Whenever the
value that is kept differs from the one that was given, the journal gets an entry.  A table for
each kind of node says which properties feed which attributes.
-/

namespace PageMarkup

namespace Value

/-- Numbers in the description of a value are plain from 10⁻⁴ up to below 10¹⁶. -/
def shownLayout : Binary64.Layout where
  leastPlain := -4
  greatestPlain := 15
  wholeFraction := true
  plusSign := false

mutual

/-- A value described with the types of its parts. -/
def shown : Value → List Char
  | null => "Null".toList
  | bool true => "Bool(true)".toList
  | bool false => "Bool(false)".toList
  | number x => "Number(".toList ++ shownLayout.text x ++ [')']
  | text s => "Text(".toList ++ Text.quoted s.toList ++ [')']
  | list items => "List([".toList ++ shownItems items ++ [']', ')']
  | record fields => "Map(\x7b".toList ++ shownFields fields ++ ['\x7d', ')']

/-- The items of a list. -/
def shownItems : List Value → List Char
  | [] => []
  | [item] => shown item
  | item :: items => shown item ++ [',', ' '] ++ shownItems items

/-- The fields of a record. -/
def shownFields : List (String × Value) → List Char
  | [] => []
  | [(name, value)] => Text.quoted name.toList ++ [':', ' '] ++ shown value
  | (name, value) :: fields =>
    Text.quoted name.toList ++ [':', ' '] ++ shown value ++ [',', ' '] ++ shownFields fields

end

end Value

namespace Restricted

/-- What the journal holds in place of a value that was dropped. -/
def blocked : String := "BLOCKED"

/-- Leave an entry about a value that was changed or dropped. -/
def record (target : Restricted) (raw : String) (allowed : Option String)
    (node : Option String) : Traced Unit := do
  let message ← match allowed with
    | some value => do
      let shown ← Traced.clipped raw
      pure (target.name ++ ": '" ++ shown ++ "' normalized to '" ++ value ++ "'")
    | none => pure (target.name ++ ": value blocked")
  Traced.noteWith .filter message <| Json.ofFields [
    ("node", (node.map Json.text).getD .null),
    ("property", .text target.name),
    ("original", .text raw),
    ("filtered", .text (allowed.getD blocked))]

/-- The allowed form of a text; a text that is blank is nothing. -/
def filterText (target : Restricted) (raw : String) (node : Option String) :
    Traced (Option String) := do
  if Text.allBlank raw.toList then return none
  let allowed := target.allow raw
  if allowed != some raw then target.record raw allowed node
  return allowed

/-- The allowed form of a property value; lists and records are never allowed. -/
def filterValue (target : Restricted) (value : Value) (node : Option String) :
    Traced (Option String) := do
  match value.text? with
  | some raw => target.filterText raw node
  | none =>
    if !value.isBlank then target.record (String.ofList value.shown) none node
    return none

end Restricted

/-- A row of a table: the names of a property, by preference, and the attribute it feeds. -/
structure AttributeRule where
  names : List String
  target : Restricted

namespace Kind

/-- The names of the background color. -/
def bgColorNames : List String := ["backgroundColor", "bgColor", "background"]

/-- The names of the background image. -/
def bgImageNames : List String := ["backgroundImage", "bgImage"]

/-- The rules of a kind, in the order in which attributes are written. -/
def attributeRules : Kind → List AttributeRule
  | .section => [
    ⟨bgColorNames, .bgColor⟩,
    ⟨bgImageNames, .bgImage⟩,
    ⟨["padding"], .padding⟩]
  | heading => [
    ⟨["level", "size"], .level⟩,
    ⟨["align", "textAlign"], .align⟩,
    ⟨["color"], .color⟩]
  | text => [
    ⟨["align", "textAlign"], .align⟩,
    ⟨["color"], .color⟩]
  | image => [
    ⟨["src", "url", "image"], .src⟩,
    ⟨["align"], .align⟩]
  | button => [
    ⟨["href", "url", "link"], .href⟩,
    ⟨["variant", "style"], .style⟩,
    ⟨["align"], .align⟩]
  | divider => [
    ⟨["color"], .color⟩,
    ⟨["margin", "spacing"], .margin⟩]
  | spacer => [⟨["height", "size"], .height⟩]
  | card | hero => [
    ⟨bgColorNames, .bgColor⟩,
    ⟨bgImageNames, .bgImage⟩,
    ⟨["padding"], .padding⟩,
    ⟨["align", "textAlign"], .align⟩]
  | columns | featureGrid | pricingCards | testimonial | statsRow | faq | unknown _ => []

end Kind

/-- The attributes that a list of rules takes from some properties. -/
def Props.attributes (props : Props) (node : String) :
    List AttributeRule → Traced (List (Restricted × String))
  | [] => return []
  | rule :: rules => do
    let value ← match props.value? rule.names with
      | none => pure none
      | some value => rule.target.filterValue value (some node)
    let rest ← props.attributes node rules
    return (value.map (rule.target, ·)).toList ++ rest

/-- The restricted attributes of a node, in the order of its kind's rules. -/
def Node.attributes (node : Node) : Traced (List (Restricted × String)) :=
  node.props.attributes node.id node.kind.attributeRules

end PageMarkup
