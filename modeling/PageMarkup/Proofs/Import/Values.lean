import PageMarkup.Proofs.Binary64.Notation
import PageMarkup.Proofs.Dict
import PageMarkup.Proofs.Import.Drafting
import PageMarkup.Proofs.Markup.Query

/-!
# Values that are read back

What a template writes into an attribute or a text comes back when the element is read: an attribute
unless its value is blank, and a text if it is trimmed.  What is read is stored under one name, and
the template finds it there.
-/

namespace PageMarkup

open Text

/-! ### Looking properties up -/

/-- A text, unless it is blank. -/
def nonblank? (text : Option String) : Option String :=
  text.filter fun text => !allBlank text.toList

namespace Props

/-- The value under the first name counts unless it is blank. -/
theorem value?_cons (name : String) (names : List String) (props : Props) :
    value? (name :: names) props =
      ((Dict.get? name props).filter fun value => !value.isBlank).or (value? names props) := by
  rw [value?, candidates, List.filterMap_cons]
  cases Dict.get? name props with
  | none => rfl
  | some value =>
    dsimp only
    rw [List.filter_cons, Option.filter_some]
    cases value.isBlank <;> rfl

/-- The text under the first name counts unless it is blank. -/
theorem text?_cons (name : String) (names : List String) (props : Props) :
    text? (name :: names) props =
      (((Dict.get? name props).filter fun value => !value.isBlank).bind Value.text?).or
        (text? names props) := by
  rw [text?, candidates, List.filterMap_cons]
  cases Dict.get? name props with
  | none => rfl
  | some value =>
    dsimp only
    rw [List.filter_cons, Option.filter_some]
    cases value.isBlank with
    | true => rfl
    | false =>
      simp only [Bool.not_false, if_true, List.findSome?_cons, Option.bind_some]
      cases value.text? <;> rfl

end Props

namespace Value

/-- A stored text is found unless it is blank. -/
@[simp] theorem filter_map_text (text : Option String) :
    ((text.map Value.text).filter fun value => !value.isBlank) =
      (nonblank? text).map Value.text := by
  cases text with
  | none => rfl
  | some text =>
    rw [nonblank?, Option.map_some, Option.filter_some, Option.filter_some, isBlank]
    cases allBlank text.toList <;> rfl

@[simp] theorem bind_map_text (text : Option String) :
    (text.map Value.text).bind Value.text? = text := by
  cases text <;> rfl

end Value

/-- The text of a scalar that is not blank is not blank. -/
theorem Value.allBlank_of_text? {value : Value} {text : String} (h : value.text? = some text)
    (hvalue : value.isBlank = false) : allBlank text.toList = false := by
  cases value with
  | text content =>
    obtain rfl := Option.some.inj h
    exact hvalue
  | number x =>
    obtain rfl := Option.some.inj h
    exact Binary64.allBlank_numberText x
  | bool switch =>
    cases switch with
    | true =>
      obtain rfl := Option.some.inj h
      decide
    | false =>
      obtain rfl := Option.some.inj h
      decide
  | null => exact absurd h (by simp [text?])
  | list items => exact absurd h (by simp [text?])
  | record fields => exact absurd h (by simp [text?])

/-- A text that is found under some names is not blank. -/
theorem Props.allBlank_of_text? {names : List String} {props : Props} {text : String}
    (h : props.text? names = some text) : allBlank text.toList = false := by
  obtain ⟨value, hvalue, htext⟩ := List.exists_of_findSome?_eq_some h
  have hshown : value.isBlank = false := by
    simpa using (List.mem_filter.mp hvalue).2
  exact Value.allBlank_of_text? htext hshown

/-- A text that is not blank stays. -/
theorem nonblank?_some {text : String} (h : allBlank text.toList = false) :
    nonblank? (some text) = some text := by
  rw [nonblank?, Option.filter_some, h]
  rfl

/-- A text that stays is not blank. -/
theorem allBlank_of_nonblank? {text : String} (h : nonblank? (some text) = some text) :
    allBlank text.toList = false := by
  simpa [nonblank?, Option.filter_some] using h

@[simp] theorem nonblank?_text? (names : List String) (props : Props) :
    nonblank? (props.text? names) = props.text? names := by
  cases htext : props.text? names with
  | none => rfl
  | some text => exact nonblank?_some (Props.allBlank_of_text? htext)

/-- A text that may be missing is missing or not blank. -/
theorem Props.getD_text? (names : List String) (props : Props) :
    (props.text? names).getD "" = "" ∨ allBlank ((props.text? names).getD "").toList = false := by
  cases htext : props.text? names with
  | none => exact .inl rfl
  | some text => exact .inr (Props.allBlank_of_text? htext)

/-! ### Values in normal form -/

/-- The value, if there is one, is allowed and in its normal form. -/
def IsNormal (target : Restricted) (value : Option String) : Prop :=
  value.bind target.allow = value

/-- A value that is allowed as it is is in normal form. -/
theorem isNormal_some {target : Restricted} {value : String}
    (h : target.allow value = some value) : IsNormal target (some value) :=
  h

/-- Without a value nothing can be wrong. -/
theorem isNormal_none (target : Restricted) : IsNormal target none :=
  rfl

/-- A value in normal form is allowed as it is. -/
theorem IsNormal.allow_of_mem {target : Restricted} {value : Option String}
    (h : IsNormal target value) : ∀ text ∈ value, target.allow text = some text := by
  rintro text rfl
  exact h

/-- A value in normal form is not blank. -/
theorem IsNormal.nonblank?_eq {target : Restricted} {value : Option String}
    (h : IsNormal target value) : nonblank? value = value := by
  cases value with
  | none => rfl
  | some text => exact nonblank?_some (Restricted.allBlank_of_allow_eq_some h)

/-- What is allowed is in normal form. -/
theorem isNormal_bind_allow (target : Restricted) (raw : Option String) :
    IsNormal target (raw.bind target.allow) := by
  cases hvalue : raw.bind target.allow with
  | none => rfl
  | some value =>
    obtain ⟨text, -, htext⟩ := Option.bind_eq_some_iff.mp hvalue
    exact Restricted.allow_allow htext

namespace Props

/-- What properties give to a rule is in normal form. -/
theorem isNormal_kept? (props : Props) (rule : AttributeRule) :
    IsNormal rule.target (props.kept? rule) :=
  isNormal_bind_allow rule.target _

/-- A restricted property that is stored under the first name of its rule is kept. -/
theorem kept?_of_get? {props : Props} {name : String} {names : List String} {target : Restricted}
    {v : Option String} (h : Dict.get? name props = v.map Value.text)
    (hrest : ∀ other ∈ names, Dict.get? other props = none) (hvalue : IsNormal target v) :
    props.kept? ⟨name :: names, target⟩ = v := by
  have hnone : props.value? names = none := by
    rw [value?, candidates, List.filterMap_eq_nil_iff.mpr hrest]
    rfl
  rw [kept?, value?_cons, h, hnone, Option.or_none, Value.filter_map_text, Value.bind_map_text,
    hvalue.nonblank?_eq]
  exact hvalue

/-- A text property that is stored under the first of some names is found under them. -/
theorem text?_of_get? {props : Props} {name : String} {names : List String}
    {v : Option String} (h : Dict.get? name props = v.map Value.text)
    (hrest : ∀ other ∈ names, Dict.get? other props = none) :
    props.text? (name :: names) = nonblank? v := by
  have hnone : props.text? names = none := by
    rw [text?, candidates, List.filterMap_eq_nil_iff.mpr hrest]
    rfl
  rw [text?_cons, h, hnone, Option.or_none, Value.filter_map_text, Value.bind_map_text]

end Props

namespace Template

/-- A restricted property that is stored under the first of some names is allowed. -/
theorem allowed?_of_get? {props : Props} {name : String} {names : List String}
    {target : Restricted} {v : Option String}
    (h : Dict.get? name props = v.map Value.text)
    (hrest : ∀ other ∈ names, Dict.get? other props = none) (hvalue : IsNormal target v) :
    allowed? target (name :: names) props = v := by
  rw [allowed?, Props.text?_of_get? h hrest, hvalue.nonblank?_eq]
  exact hvalue

/-- What properties give to a restricted attribute is in normal form. -/
theorem isNormal_allowed? (target : Restricted) (names : List String) (props : Props) :
    IsNormal target (allowed? target names props) :=
  isNormal_bind_allow target _

end Template

/-! ### Attributes that may be missing -/

/-- A name that is not there is not found. -/
theorem lookup_eq_none_of_not_mem {α : Type} {name : String} {entries : List (String × α)}
    (h : name ∉ entries.map Prod.fst) : entries.lookup name = none := by
  induction entries with
  | nil => rfl
  | cons entry entries ih =>
    rw [List.map_cons, List.mem_cons, not_or] at h
    have hne : (name == entry.1) = false := by simpa using h.1
    rw [List.lookup_cons, hne]
    exact ih h.2

/-- The entries that have a value. -/
def given {α : Type} (entries : List (String × Option α)) : List (String × α) :=
  entries.filterMap fun (name, value) => value.map fun value => (name, value)

/-- Where all names are different, an entry that has a value is found by its name from the end as
well as from the beginning. -/
theorem lookup_given {α : Type} {entries : List (String × Option α)}
    (h : (entries.map Prod.fst).Nodup) (name : String) :
    (given entries).reverse.lookup name = (entries.lookup name).join := by
  induction entries with
  | nil => rfl
  | cons entry entries ih =>
    obtain ⟨first, value⟩ := entry
    rw [List.map_cons, List.nodup_cons] at h
    have hcons : given ((first, value) :: entries) =
        (value.map fun value => (first, value)).toList ++ given entries := by
      cases value <;> rfl
    have hreverse (item : Option (String × α)) : item.toList.reverse = item.toList := by
      cases item <;> rfl
    rw [hcons, List.reverse_append, List.lookup_append, ih h.2, hreverse, List.lookup_cons]
    by_cases hname : name = first
    · subst hname
      rw [lookup_eq_none_of_not_mem h.1]
      cases value <;> simp
    · have hne : (name == first) = false := by simpa using hname
      rw [hne]
      cases value <;> simp [List.lookup_cons, hne]

namespace Template

/-- Attributes of which some may be missing. -/
def attributesOf (entries : List (String × Option String)) : List (String × String) :=
  entries.flatMap fun entry => attribute? entry.1 entry.2

/-- They are those that have a value. -/
theorem attributesOf_eq_given (entries : List (String × Option String)) :
    attributesOf entries = given entries := by
  induction entries with
  | nil => rfl
  | cons entry entries ih =>
    obtain ⟨name, value⟩ := entry
    rw [attributesOf] at ih
    rw [attributesOf, List.flatMap_cons, ih]
    cases value <;> rfl

/-- Attributes that are kept are attributes of which some may be missing. -/
theorem named_kept_eq (props : Props) (rules : List AttributeRule) :
    named (props.kept rules) =
      attributesOf (rules.map fun rule => (rule.target.name, props.kept? rule)) := by
  rw [named_kept, attributesOf, List.flatMap_map]

/-- The value of an attribute is found by its name. -/
theorem lookup_attributesOf {entries : List (String × Option String)}
    (h : (entries.map Prod.fst).Nodup) (name : String) :
    (attributesOf entries).reverse.lookup name = (entries.lookup name).join := by
  rw [attributesOf_eq_given, lookup_given h]

end Template

namespace Element

/-- An attribute of an element is read back unless its value is blank. -/
theorem attribute?_attributesOf {name : String} {entries : List (String × Option String)}
    (h : (entries.map Prod.fst).Nodup) (children : Forest) (key : String) :
    (Element.mk ⟨name, Template.attributesOf entries⟩ children).attribute? key =
      nonblank? (entries.lookup key).join := by
  rw [attribute?, Template.lookup_attributesOf h, nonblank?]

end Element

namespace Element

variable {name : String} {entries : List (String × Option String)} {children : Forest}

/-- A value that is not blank is read back from the attribute it was written into. -/
theorem attribute?_eq (h : (entries.map Prod.fst).Nodup) {key : String} {value : Option String}
    (hkey : entries.lookup key = some value) (hvalue : nonblank? value = value) :
    (Element.mk ⟨name, Template.attributesOf entries⟩ children).attribute? key = value := by
  rw [attribute?_attributesOf h, hkey, Option.join_some, hvalue]

/-- A value in normal form is allowed when it is read back. -/
theorem bind_attribute?_eq (h : (entries.map Prod.fst).Nodup) {key : String}
    {target : Restricted} {value : Option String} (hkey : entries.lookup key = some value)
    (hvalue : IsNormal target value) :
    ((Element.mk ⟨name, Template.attributesOf entries⟩ children).attribute? key).bind
      target.allow = value := by
  rw [attribute?_eq h hkey hvalue.nonblank?_eq]
  exact hvalue

end Element

/-! ### Records of fields that may be missing -/

namespace Element

/-- The fields of a record. -/
def fieldsOf (fields : List (String × Option Value)) : Props :=
  Dict.ofList (fields.filterMap fun (name, value) => value.map fun value => (name, value))

/-- The value of a field is found by its name. -/
theorem get?_fieldsOf (fields : List (String × Option Value)) (h : (fields.map Prod.fst).Nodup)
    (key : String) : Dict.get? key (fieldsOf fields) = (fields.lookup key).join := by
  have hgiven : fieldsOf fields = Dict.ofList (given fields) := rfl
  rw [hgiven, Dict.get?_ofList, lookup_given h]

section Fields

variable {fields : List (String × Option Value)} {names : List String} {key : String}
  {others : List String}

/-- A field is found under its name, if the other names that may be used name no field. -/
theorem value?_fieldsOf (hnames : fields.map Prod.fst = names) {value : Option Value}
    (hkey : fields.lookup key = some value)
    (h : names.Nodup ∧ ∀ other ∈ others, other ∉ names) :
    (fieldsOf fields).value? (key :: others) = value.filter fun value => !value.isBlank := by
  have hnodup : (fields.map Prod.fst).Nodup := hnames ▸ h.1
  have hnone : (fieldsOf fields).value? others = none := by
    rw [Props.value?, Props.candidates, List.filterMap_eq_nil_iff.mpr fun other hother => ?_]
    · rfl
    · rw [get?_fieldsOf fields hnodup, lookup_eq_none_of_not_mem (hnames ▸ h.2 other hother)]
      rfl
  rw [Props.value?_cons, get?_fieldsOf fields hnodup, hkey, hnone, Option.or_none,
    Option.join_some]

/-- A text field is found under its name, if the other names that may be used name no field. -/
theorem text?_fieldsOf (hnames : fields.map Prod.fst = names) {v : Option String}
    (hkey : fields.lookup key = some (v.map Value.text))
    (h : names.Nodup ∧ ∀ other ∈ others, other ∉ names) :
    (fieldsOf fields).text? (key :: others) = nonblank? v := by
  have hnodup : (fields.map Prod.fst).Nodup := hnames ▸ h.1
  refine Props.text?_of_get? ?_ fun other hother => ?_
  · rw [get?_fieldsOf fields hnodup, hkey, Option.join_some]
  · rw [get?_fieldsOf fields hnodup, lookup_eq_none_of_not_mem (hnames ▸ h.2 other hother)]
    rfl

end Fields

end Element

/-! ### Texts -/

namespace Element

/-- Plain text that was written is read back without the blanks around it. -/
@[simp] theorem plain_text (cs : List Char) :
    plain (String.ofList (Escape.text cs)) = String.ofList (trim cs) := by
  rw [plain, Entity.decoded, trimmed, String.toList_ofList, String.toList_ofList, Escape.trim_text,
    Escape.decode_text]

/-- A trimmed text stays. -/
theorem trimmed_eq_self {text : String} (h : IsTrimmed text.toList) : trimmed text = text := by
  rw [trimmed, h.trim_eq, String.ofList_toList]

/-- A text that is not blank is not empty. -/
theorem nonempty?_eq_some {text : String} (h : allBlank text.toList = false) :
    nonempty? text = some text := by
  rw [nonempty?, if_neg]
  rintro rfl
  exact absurd h (by decide)

/-- Plain text that an element holds is read back without the blanks around it. -/
@[simp] theorem plainText_held (tag : Tag) (body : String) :
    (Element.mk tag (Markup.held (Escape.text body.toList))).plainText = trimmed body := by
  rw [plainText, text, Markup.textOfAll_held, plain_text, trimmed]

/-- Trimmed plain text that an element holds is read back. -/
theorem nonempty?_plainText_held {body : String} (htrim : IsTrimmed body.toList)
    (hblank : allBlank body.toList = false) (tag : Tag) :
    nonempty? (Element.mk tag (Markup.held (Escape.text body.toList))).plainText = some body := by
  rw [plainText_held, trimmed_eq_self htrim, nonempty?_eq_some hblank]

/-- Rich text is read by trimming and putting the brackets back. -/
theorem toList_rich (text : String) :
    (rich text).toList = Escape.unbracket (trim text.toList) :=
  String.toList_ofList

/-- Rich text that was read is written as it was, without the blanks around it. -/
theorem rich_toList_rich (cs : List Char) :
    Escape.rich (rich (String.ofList (Escape.rich cs))).toList = Escape.rich (trim cs) := by
  have hcs : (String.ofList (Escape.rich cs)).toList = Escape.rich cs := String.toList_ofList
  rw [toList_rich, hcs, Escape.trim_rich]
  refine Escape.rich_unbracket (fun h => ?_) fun h => ?_
  · exact (Escape.not_bracket_of_mem_rich h).1 rfl
  · exact (Escape.not_bracket_of_mem_rich h).2 rfl

/-- Each escape is undone by its reader, whatever the text is, even one that looks escaped already.
A value comes back, plain text comes back without the blanks around it, and rich text that was read
is written as before without these blanks.  What is escaped holds no bracket, a value holds no
quote, and neither a value nor plain text holds an angle bracket. -/
theorem escapes_are_undone (s : String) :
    Entity.decoded (String.ofList (Escape.value s.toList)) = s ∧
    plain (String.ofList (Escape.text s.toList)) = trimmed s ∧
    Escape.rich (rich (String.ofList (Escape.rich s.toList))).toList =
      trim (Escape.rich s.toList) ∧
    (∀ c ∈ Escape.value s.toList, c ∉ ['[', ']', '"', '<', '>']) ∧
    (∀ c ∈ Escape.text s.toList, c ∉ ['[', ']', '<', '>']) ∧
    ∀ c ∈ Escape.rich s.toList, c ∉ ['[', ']'] := by
  have hvalue : Entity.decoded (String.ofList (Escape.value s.toList)) = s := by
    rw [Entity.decoded, String.toList_ofList, Escape.decode_value, String.ofList_toList]
  have hrich : Escape.rich (rich (String.ofList (Escape.rich s.toList))).toList =
      trim (Escape.rich s.toList) := by
    rw [rich_toList_rich, Escape.trim_rich]
  refine ⟨hvalue, plain_text s.toList, hrich, ?_, ?_, ?_⟩
  · intro c hc
    obtain ⟨hopen, hclose⟩ := Escape.not_bracket_of_mem_value hc
    obtain ⟨hless, hgreater⟩ := Escape.not_angle_of_mem_value hc
    simp [hopen, hclose, Escape.ne_quote_of_mem_value hc, hless, hgreater]
  · intro c hc
    obtain ⟨hopen, hclose⟩ := Escape.not_bracket_of_mem_text hc
    obtain ⟨hless, hgreater⟩ := Escape.not_angle_of_mem_text hc
    simp [hopen, hclose, hless, hgreater]
  · intro c hc
    obtain ⟨hopen, hclose⟩ := Escape.not_bracket_of_mem_rich hc
    simp [hopen, hclose]

/-- Rich text is blank when what is written for it is. -/
theorem allBlank_rich (cs : List Char) : allBlank (Escape.rich cs) = allBlank cs := by
  rw [Bool.eq_iff_iff, ← trim_eq_nil_iff, ← trim_eq_nil_iff, Escape.trim_rich]
  constructor
  · intro h
    rw [Escape.rich, List.flatMap_eq_nil_iff] at h
    rw [List.eq_nil_iff_forall_not_mem]
    exact fun c hc => Escape.keepsBlanks_bracket.ne_nil c (h c hc)
  · intro h
    rw [h]
    rfl

/-- Rich text that an element holds is read back as a text that is written in the same way, but for
the blanks around it. -/
theorem exists_richText_trim {body : String} (hblank : allBlank body.toList = false) :
    ∃ text, allBlank text.toList = false ∧
      Escape.rich text.toList = Escape.rich (trim body.toList) ∧
        ∀ tag, nonempty? (Element.mk tag (Markup.held (Escape.rich body.toList))).richText =
          some text := by
  have hrich := rich_toList_rich body.toList
  have hread : allBlank (rich (String.ofList (Escape.rich body.toList))).toList = false := by
    rw [← allBlank_rich, hrich, allBlank_rich, allBlank_trim]
    exact hblank
  refine ⟨_, hread, hrich, fun tag => ?_⟩
  rw [richText, text, Markup.textOfAll_held]
  exact nonempty?_eq_some hread

/-- Trimmed rich text that an element holds is read back as a text that is written in the same
way. -/
theorem exists_richText {body : String} (htrim : IsTrimmed body.toList)
    (hblank : allBlank body.toList = false) :
    ∃ text, allBlank text.toList = false ∧
      Escape.rich text.toList = Escape.rich body.toList ∧
        ∀ tag, nonempty? (Element.mk tag (Markup.held (Escape.rich body.toList))).richText =
          some text := by
  have hread := exists_richText_trim hblank
  rwa [htrim.trim_eq] at hread

/-- In an element that holds nothing there is no rich text. -/
theorem nonempty?_richText_held_empty (tag : Tag) :
    nonempty? (Element.mk tag (Markup.held (Escape.rich "".toList))).richText = none := by
  have hnone : nonempty? (rich (String.ofList (Escape.rich "".toList))) = none := by
    decide
  rw [richText, text, Markup.textOfAll_held, hnone]

/-- Trimmed rich text that may be missing is read back as one that is written in the same way. -/
theorem exists_richText? {body : String} (htrim : IsTrimmed body.toList)
    (hbody : body = "" ∨ allBlank body.toList = false) :
    ∃ text : Option String, nonblank? text = text ∧
      Escape.rich (text.getD "").toList = Escape.rich body.toList ∧
        ∀ tag, nonempty? (Element.mk tag (Markup.held (Escape.rich body.toList))).richText =
          text := by
  rcases hbody with rfl | hblank
  · exact ⟨none, rfl, rfl, nonempty?_richText_held_empty⟩
  · obtain ⟨text, htext, hsame, hread⟩ := exists_richText htrim hblank
    exact ⟨some text, nonblank?_some htext, hsame, hread⟩

end Element

end PageMarkup
