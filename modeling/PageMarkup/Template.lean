import PageMarkup.Filter
import PageMarkup.Markup

/-!
# Building blocks of templates

Every kind of node but the section has a template that turns its properties into markup.  Where the
properties leave nothing to show, the template gives nothing and says so in the journal.
-/

namespace PageMarkup

/-- What a template makes of a node, if anything. -/
abbrev Rendering := Traced (Option Forest)

namespace Template

/-- An element that holds plain text. -/
def plainElement (tag : Tag) (text : String) : Markup :=
  Markup.holding tag (Escape.text text.toList)

/-- An element that holds rich text. -/
def richElement (tag : Tag) (text : String) : Markup :=
  Markup.holding tag (Escape.rich text.toList)

/-- A heading of a fixed level. -/
def heading (level : String) (title : String) : Markup :=
  plainElement ⟨"heading", [("level", level)]⟩ title

/-- The text element. -/
def textElement (body : String) : Markup :=
  richElement ⟨"text", []⟩ body

/-- An attribute that may be missing. -/
def attribute? (name : String) (value : Option String) : List (String × String) :=
  (value.map fun value => (name, value)).toList

/-- Restricted attributes under their names. -/
def named (attributes : List (Restricted × String)) : List (String × String) :=
  attributes.map fun (target, value) => (target.name, value)

/-- The value of one of some restricted attributes. -/
def valueOf? (target : Restricted) (attributes : List (Restricted × String)) : Option String :=
  attributes.lookup target

/-- Give nothing, and say what is missing. -/
def skip (node : Node) (missing : String) : Rendering := do
  Traced.note .warn (node.kind.name ++ " " ++ node.id ++ " has no " ++ missing ++ "; skipped")
  return none

/-- The records of a property that holds a list; other items are passed over. -/
def records (names : List String) (props : Props) : List Props :=
  (((props.value? names).bind Value.items?).getD []).filterMap Value.fields?

/-- The names of a title. -/
def titleNames : List String := ["title", "heading"]

/-- The heading above a group. -/
def groupTitle (props : Props) : List Forest :=
  ((props.text? titleNames).map fun title =>
    [plainElement ⟨"heading", [("level", "2"), ("align", "center")]⟩ title]).toList

/-- The allowed form of a text property bound for a restricted attribute. -/
def restricted (target : Restricted) (names : List String) (node : Node) (props : Props) :
    Traced (Option String) :=
  match props.text? names with
  | none => return none
  | some raw => target.filterText raw (some node.id)

end Template

end PageMarkup
