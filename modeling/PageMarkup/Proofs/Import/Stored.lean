import PageMarkup.Proofs.Dict
import PageMarkup.Proofs.Import.Leaf

/-!
# What an import stores

An import stores restricted values under names of its own, each of which always stands for the same
restriction, and everything else under names that no restricted attribute is read from.  This file
lists both sorts of names and says what it means that properties are stored in this way.  Properties
are given one by one, so it is enough that each of them is.
-/

namespace PageMarkup

namespace Props

variable {names : List String} {props : Props}

/-- A value that is found under some names is stored under one of them. -/
theorem exists_mem_of_value? {value : Value} (h : props.value? names = some value) :
    ∃ name ∈ names, (name, value) ∈ props := by
  have hmem : value ∈ props.candidates names := List.mem_of_head? h
  obtain ⟨name, hname, hget⟩ := List.mem_filterMap.mp (List.mem_filter.mp hmem).1
  exact ⟨name, hname, Dict.mem_of_get? hget⟩

/-- A text that is found under some names is that of a value stored under one of them. -/
theorem exists_mem_of_text? {text : String} (h : props.text? names = some text) :
    ∃ name ∈ names, ∃ value, (name, value) ∈ props ∧ value.text? = some text := by
  obtain ⟨value, hmem, htext⟩ := List.exists_of_findSome?_eq_some h
  obtain ⟨name, hname, hget⟩ := List.mem_filterMap.mp (List.mem_filter.mp hmem).1
  exact ⟨name, hname, value, Dict.mem_of_get? hget, htext⟩

end Props

/-! ### Names -/

namespace Restricted

/-- The names under which restricted values are stored, with their restrictions. -/
def storedNames : List (String × Restricted) := [
  ("backgroundColor", .bgColor),
  ("backgroundImage", .bgImage),
  ("padding", .padding),
  ("margin", .margin),
  ("height", .height),
  ("align", .align),
  ("color", .color),
  ("level", .level),
  ("href", .href),
  ("src", .src),
  ("variant", .style),
  ("image", .src),
  ("avatar", .src),
  ("buttonHref", .href),
  ("ctaHref", .href)]

/-- The restriction of the values that are stored under this name. -/
def ofStored? (name : String) : Option Restricted :=
  storedNames.lookup name

/-- The names under which everything else is stored. -/
def freeNames : List String :=
  ["title", "text", "alt", "label", "subtitle", "ctaLabel", "buttonLabel", "quote", "author",
   "role", "features", "columns", "stats", "plans", "items", "icon", "description", "value",
   "content", "name", "price", "period", "highlighted", "question", "answer"]

/-- The name is one of those under which everything else is stored. -/
def IsFree (name : String) : Prop :=
  ofStored? name = none ∧ name ∈ freeNames

instance (name : String) : Decidable (IsFree name) :=
  inferInstanceAs (Decidable (_ ∧ _))

/-- Whatever is stored under one of these names has this restriction. -/
def Covers (target : Restricted) (names : List String) : Prop :=
  ∀ name ∈ names, ofStored? name = some target ∨ (ofStored? name = none ∧ name ∉ freeNames)

instance (target : Restricted) (names : List String) : Decidable (target.Covers names) :=
  inferInstanceAs (Decidable (∀ name ∈ names, _))

end Restricted

/-- What is allowed of a value that is found in something is in normal form. -/
theorem isNormal_bind_bind {α : Type} (target : Restricted) (found : Option α)
    (value : α → Option String) :
    IsNormal target (found.bind fun a => (value a).bind target.allow) := by
  rw [← Option.bind_assoc]
  exact isNormal_bind_allow target _

/-! ### Stored properties -/

namespace Value

/-- The value is in normal form where the name under which it is stored stands for a restriction: it
is a text, and the restriction maps the text to itself. -/
def IsInNormalForm (name : String) (value : Value) : Prop :=
  ∀ target, Restricted.ofStored? name = some target →
    ∃ text, value = .text text ∧ target.allow text = some text

/-- The property is as an import stores it: a restricted one is in normal form, and every other one
has a free name. -/
structure IsStored (name : String) (value : Value) : Prop where
  isInNormalForm : value.IsInNormalForm name
  isFree : Restricted.ofStored? name = none → name ∈ Restricted.freeNames

/-- The records in a list. -/
def records (value : Value) : List Props :=
  (value.items?.getD []).filterMap fields?

@[simp] theorem records_text (content : String) : (text content).records = [] := rfl

@[simp] theorem records_list_map_record (items : List Props) :
    (list (items.map record)).records = items := by
  rw [records, items?, Option.getD_some, List.filterMap_map]
  exact List.filterMap_some

theorem isStored_of_isFree {name : String} (h : Restricted.IsFree name) (value : Value) :
    value.IsStored name where
  isInNormalForm target htarget := by
    rw [h.1] at htarget
    exact absurd htarget (by simp)
  isFree _ := h.2

theorem isStored_of_allow {name text : String} {target : Restricted}
    (h : Restricted.ofStored? name = some target) (htext : target.allow text = some text) :
    (Value.text text).IsStored name where
  isInNormalForm other hother := by
    rw [h] at hother
    obtain rfl := Option.some.inj hother
    exact ⟨text, rfl, htext⟩
  isFree hnone := by
    rw [h] at hnone
    exact absurd hnone (by simp)

end Value

namespace Props

/-- All properties are as an import stores them. -/
def AreStored (props : Props) : Prop :=
  ∀ entry ∈ props, entry.2.IsStored entry.1

variable {props : Props} {target : Restricted} {names : List String}

theorem areStored_nil : AreStored [] := by
  intro entry hentry
  exact absurd hentry List.not_mem_nil

/-- One more property is stored. -/
theorem AreStored.insert (h : props.AreStored) {name : String} {value : Value}
    (hvalue : value.IsStored name) : AreStored (Dict.insert name value props) := by
  intro entry hentry
  rcases Dict.mem_insert hentry with rfl | hentry
  · exact hvalue
  · exact h entry hentry

/-- A value that a restricted attribute is read from is a text in normal form. -/
theorem AreStored.exists_text_of_mem (h : props.AreStored) (hnames : target.Covers names)
    {name : String} (hname : name ∈ names) {value : Value} (hvalue : (name, value) ∈ props) :
    ∃ text, value = .text text ∧ target.allow text = some text := by
  have hstored : value.IsStored name := h (name, value) hvalue
  rcases hnames name hname with hrestricted | ⟨hnone, hfree⟩
  · exact hstored.isInNormalForm target hrestricted
  · exact absurd (hstored.isFree hnone) hfree

/-- What a restricted attribute finds is a text in normal form. -/
theorem AreStored.exists_text_of_value? (h : props.AreStored) (hnames : target.Covers names)
    {value : Value} (hvalue : props.value? names = some value) :
    ∃ text, value = .text text ∧ target.allow text = some text := by
  obtain ⟨name, hname, hmem⟩ := exists_mem_of_value? hvalue
  exact h.exists_text_of_mem hnames hname hmem

/-- The text that a restricted attribute finds is in normal form. -/
theorem AreStored.allow_of_text? (h : props.AreStored) (hnames : target.Covers names)
    {text : String} (htext : props.text? names = some text) : target.allow text = some text := by
  obtain ⟨name, hname, value, hmem, hvalue⟩ := exists_mem_of_text? htext
  obtain ⟨stored, rfl, hallow⟩ := h.exists_text_of_mem hnames hname hmem
  obtain rfl : stored = text := Option.some.inj hvalue
  exact hallow

end Props

namespace Element

/-- The fields of a record are stored if each of them is. -/
theorem areStored_fieldsOf {fields : List (String × Option Value)}
    (h : ∀ field ∈ fields, ∀ value ∈ field.2, value.IsStored field.1) :
    (fieldsOf fields).AreStored := by
  intro entry hentry
  obtain ⟨field, hfield, hvalue⟩ := List.mem_filterMap.mp (Dict.mem_of_mem_ofList hentry)
  obtain ⟨value, hmem, rfl⟩ := Option.map_eq_some_iff.mp hvalue
  exact h field hfield value hmem

/-- The fields of a record with free names are stored. -/
theorem areStored_fieldsOf_of_isFree {fields : List (String × Option Value)} {names : List String}
    (hnames : fields.map Prod.fst = names) (h : ∀ name ∈ names, Restricted.IsFree name) :
    (fieldsOf fields).AreStored := by
  refine areStored_fieldsOf fun field hfield value _ => ?_
  exact Value.isStored_of_isFree (h field.1 (hnames ▸ List.mem_map_of_mem hfield)) value

end Element

/-! ### Nodes with stored properties -/

namespace Node

/-- The properties of the node are as an import stores them, and so are the fields of the records in
its lists. -/
structure IsStored (node : Node) : Prop where
  own : node.props.AreStored
  records : ∀ entry ∈ node.props, ∀ fields ∈ entry.2.records, fields.AreStored

variable {node : Node}

/-- A new node has no properties. -/
theorem isStored_next (made : List Kind) (kind : Kind) : (next made kind).IsStored where
  own := Props.areStored_nil
  records _ hentry := absurd hentry List.not_mem_nil

/-- One more property is stored. -/
theorem IsStored.withProp (h : node.IsStored) {name : String} {value : Value}
    (hvalue : value.IsStored name) (hrecords : ∀ fields ∈ value.records, fields.AreStored) :
    (node.withProp name value).IsStored where
  own := h.own.insert hvalue
  records entry hentry fields hfields := by
    rcases Dict.mem_insert hentry with rfl | hentry
    · exact hrecords fields hfields
    · exact h.records entry hentry fields hfields

/-- One more text under a free name is stored. -/
theorem IsStored.withFree (h : node.IsStored) {name : String} (hname : Restricted.IsFree name)
    (value : Option String) : (node.withText name value).IsStored := by
  cases value with
  | none => exact h
  | some text => exact h.withProp (Value.isStored_of_isFree hname _) (by simp)

/-- One more restricted value in normal form is stored. -/
theorem IsStored.withNormal (h : node.IsStored) {name : String} {target : Restricted}
    (hname : Restricted.ofStored? name = some target) {value : Option String}
    (hvalue : IsNormal target value) : (node.withText name value).IsStored := by
  cases value with
  | none => exact h
  | some text => exact h.withProp (Value.isStored_of_allow hname hvalue) (by simp)

/-- What is allowed of one more restricted value is stored. -/
theorem IsStored.withAllowed (h : node.IsStored) {name : String} {target : Restricted}
    (hname : Restricted.ofStored? name = some target) (raw : Option String) :
    (node.withText name (raw.bind target.allow)).IsStored :=
  h.withNormal hname (isNormal_bind_allow target raw)

/-- One more list of records is stored under a free name. -/
theorem IsStored.withRecords (h : node.IsStored) {name : String} (hname : Restricted.IsFree name)
    {items : List Props} (hitems : ∀ fields ∈ items, fields.AreStored) :
    (node.withProp name (.list (items.map Value.record))).IsStored := by
  refine h.withProp (Value.isStored_of_isFree hname _) ?_
  rw [Value.records_list_map_record]
  exact hitems

end Node

end PageMarkup
