import PageMarkup.Proofs.Html.Tags
import PageMarkup.Proofs.Markup.Spelling
import PageMarkup.Proofs.Text.Occurrences
import PageMarkup.Proofs.Text.Trimming

/-!
# Attributes as they are written

An attribute is written as blanks, a name, and perhaps a value, which may stand between quotes.  Of
these only attributes with a quoted value are read, each with its name and the text between the
quotes.  So an attribute with a quoted value is found by its name, whatever attributes of other
names are written before it and whatever stands behind it.
-/

namespace PageMarkup

namespace Html

open Text

/-- No character of the text begins or ends a tag. -/
def IsPlain (cs : List Char) : Prop :=
  ∀ c ∈ cs, c ≠ '<' ∧ c ≠ '>'

instance (cs : List Char) : Decidable (IsPlain cs) :=
  List.decidableBAll (fun c : Char => c ≠ '<' ∧ c ≠ '>') cs

theorem isPlain_append_iff {cs ds : List Char} : IsPlain (cs ++ ds) ↔ IsPlain cs ∧ IsPlain ds :=
  List.forall_mem_append

theorem isPlain_cons_iff {c : Char} {cs : List Char} :
    IsPlain (c :: cs) ↔ (c ≠ '<' ∧ c ≠ '>') ∧ IsPlain cs :=
  List.forall_mem_cons

theorem isPlain_nil : IsPlain [] := List.forall_mem_nil _

theorem isPlain_of_forall {p : Char → Bool} {cs : List Char} (h : ∀ c ∈ cs, p c = true)
    (hopen : p '<' = false) (hclose : p '>' = false) : IsPlain cs := by
  intro c hc
  have hp := h c hc
  constructor
  · rintro rfl
    simp [hopen] at hp
  · rintro rfl
    simp [hclose] at hp

/-! ### How attributes are written -/

/-- Blanks, as many as one likes. -/
structure Blanks where
  text : List Char
  allBlank : allBlank text = true

/-- The name of an attribute. -/
structure AttributeName where
  first : Char
  more : List Char
  isStart : isAttributeStart first = true
  isMore : ∀ c ∈ more, isAttributeChar c = true

/-- The name as it is written. -/
def AttributeName.text (name : AttributeName) : List Char :=
  name.first :: name.more

/-- A value between quotes, with the mark before it. -/
structure Quotation where
  left : Blanks
  right : Blanks
  quote : Char
  isQuote : quote = '"' ∨ quote = '\x27'
  text : List Char
  isQuoted : quote ∉ text
  isPlain : IsPlain text

/-- The value as it is written. -/
def Quotation.source (value : Quotation) : List Char :=
  value.left.text ++ '=' :: (value.right.text ++ value.quote :: (value.text ++ [value.quote]))

/-- A character of a value without quotes. -/
def isBareChar (c : Char) : Bool :=
  !(isBlank c || ['"', '\x27', '=', '<', '>'].contains c)

/-- A value without quotes, with the mark before it. -/
structure BareValue where
  left : Blanks
  right : Blanks
  first : Char
  more : List Char
  isBare : ∀ c ∈ first :: more, isBareChar c = true

/-- The value as it is written. -/
def BareValue.source (value : BareValue) : List Char :=
  value.left.text ++ '=' :: (value.right.text ++ value.first :: value.more)

/-- What is written behind the name of an attribute. -/
inductive AttributeValue where
  | absent
  | bare (value : BareValue)
  | quoted (value : Quotation)

/-- The value as it is written. -/
def AttributeValue.source : AttributeValue → List Char
  | absent => []
  | bare value => value.source
  | quoted value => value.source

/-- An attribute, with the blanks before it. -/
structure Attribute where
  gap : Blanks
  isApart : gap.text ≠ []
  name : AttributeName
  value : AttributeValue

/-- The attribute as it is written. -/
def Attribute.source (attr : Attribute) : List Char :=
  attr.gap.text ++ (attr.name.text ++ attr.value.source)

/-- What is read of an attribute: its name and its value, if this stands between quotes. -/
def Attribute.read? (attr : Attribute) : Option (List Char × List Char) :=
  match attr.value with
  | .quoted value => some (attr.name.text, value.text)
  | _ => none

/-! ### They hold no angle brackets -/

theorem Blanks.isPlain (blanks : Blanks) : IsPlain blanks.text :=
  isPlain_of_forall (List.all_eq_true.mp blanks.allBlank) (by decide) (by decide)

theorem isAttributeChar_of_isAttributeStart {c : Char} (h : isAttributeStart c = true) :
    isAttributeChar c = true := by
  simp [isAttributeChar, h]

theorem AttributeName.isMore_text (name : AttributeName) :
    ∀ c ∈ name.text, isAttributeChar c = true :=
  List.forall_mem_cons.mpr ⟨isAttributeChar_of_isAttributeStart name.isStart, name.isMore⟩

theorem AttributeName.isPlain (name : AttributeName) : IsPlain name.text :=
  isPlain_of_forall name.isMore_text (by decide) (by decide)

theorem Quotation.quote_ne (value : Quotation) : value.quote ≠ '<' ∧ value.quote ≠ '>' := by
  rcases value.isQuote with h | h
  · rw [h]
    decide
  · rw [h]
    decide

theorem Quotation.isPlain_source (value : Quotation) : IsPlain value.source := by
  simp only [Quotation.source, isPlain_append_iff, isPlain_cons_iff]
  exact ⟨value.left.isPlain, by decide, value.right.isPlain, value.quote_ne, value.isPlain,
    value.quote_ne, isPlain_nil⟩

theorem BareValue.isPlain_source (value : BareValue) : IsPlain value.source := by
  simp only [BareValue.source, isPlain_append_iff, isPlain_cons_iff]
  have htext : IsPlain (value.first :: value.more) :=
    isPlain_of_forall value.isBare (by decide) (by decide)
  exact ⟨value.left.isPlain, by decide, value.right.isPlain, isPlain_cons_iff.mp htext⟩

theorem AttributeValue.isPlain_source (value : AttributeValue) : IsPlain value.source := by
  cases value with
  | absent => exact isPlain_nil
  | bare value => exact value.isPlain_source
  | quoted value => exact value.isPlain_source

theorem Attribute.isPlain_source (attr : Attribute) : IsPlain attr.source := by
  simp only [Attribute.source, isPlain_append_iff]
  exact ⟨attr.gap.isPlain, attr.name.isPlain, attr.value.isPlain_source⟩

theorem isPlain_flatMap_source (attributes : List Attribute) :
    IsPlain (attributes.flatMap Attribute.source) := by
  intro c hc
  obtain ⟨attr, -, hmem⟩ := List.mem_flatMap.mp hc
  exact attr.isPlain_source c hmem

/-! ### Where no attribute is read -/

/-- Blanks stand in no name. -/
theorem isAttributeChar_eq_false_of_isBlank {c : Char} (h : isBlank c = true) :
    isAttributeChar c = false := by
  have hapart := Markup.isAttributeChar_of_isBlank h
  simp only [Markup.isAttributeChar, Markup.isAttributeStart, Bool.or_eq_false_iff] at hapart
  have hother : c ≠ ':' ∧ c ≠ '.' := by
    constructor
    · rintro rfl
      exact absurd h (by decide)
    · rintro rfl
      exact absurd h (by decide)
  simp [isAttributeChar, isAttributeStart, hapart, hother]

theorem isBlank_eq_false_of_isAttributeStart {c : Char} (h : isAttributeStart c = true) :
    isBlank c = false := by
  refine Bool.eq_false_iff.mpr fun hblank => ?_
  have hmore := isAttributeChar_of_isAttributeStart h
  rw [isAttributeChar_eq_false_of_isBlank hblank] at hmore
  cases hmore

/-- An attribute begins with the first character of a name. -/
theorem readAttribute_of_not_start {c : Char} (h : isAttributeStart c = false) (cs : List Char) :
    readAttribute (c :: cs) = none := by
  simp [readAttribute, spanWhile, h]

/-- Behind the name, the mark of a value is looked for. -/
theorem readAttribute_of_no_mark {c : Char} {cs : List Char}
    (h : '=' ∉ (trimStart (cs.dropWhile isAttributeChar)).head?) :
    readAttribute (c :: cs) = none := by
  have hmark : after? ['='] (trimStart (cs.dropWhile isAttributeChar)) = none := by
    cases htrim : trimStart (cs.dropWhile isAttributeChar) with
    | nil => rfl
    | cons d rest =>
      have hd : '=' ≠ d := by
        rintro rfl
        exact h (by rw [htrim]; rfl)
      simp [after?, hd]
  simp [readAttribute, spanWhile, hmark]

/-- The text does not go on with a name, nor with a value behind blanks. -/
structure EndsAttribute (rest : List Char) : Prop where
  isApart : ∀ c ∈ rest.head?, isAttributeChar c = false
  unmarked : '=' ∉ (trimStart rest).head?

variable {rest : List Char}

theorem EndsAttribute.dropWhile (h : EndsAttribute rest) {name : List Char}
    (hname : ∀ c ∈ name, isAttributeChar c = true) :
    (name ++ rest).dropWhile isAttributeChar = rest :=
  congrArg Prod.snd (spanWhile_append_of_forall hname h.isApart)

/-- No attribute begins among blanks. -/
theorem Blanks.misses_readAttribute (blanks : Blanks) (rest : List Char) :
    Misses readAttribute blanks.text rest := by
  refine misses_of_forall fun c hc => readAttribute_of_not_start ?_
  have hblank : isBlank c = true := List.all_eq_true.mp blanks.allBlank c hc
  refine Bool.eq_false_iff.mpr fun hstart => ?_
  have hmore := isAttributeChar_of_isAttributeStart hstart
  rw [isAttributeChar_eq_false_of_isBlank hblank] at hmore
  cases hmore

/-- A name alone is no attribute that is read. -/
theorem AttributeName.misses_readAttribute (name : AttributeName) (h : EndsAttribute rest) :
    Misses readAttribute name.text rest := by
  intro before c after htext
  have hafter : ∀ d ∈ after, isAttributeChar d = true := by
    intro d hd
    exact name.isMore_text d (by rw [htext]; simp [hd])
  apply readAttribute_of_no_mark
  rw [h.dropWhile hafter]
  exact h.unmarked

theorem trimStart_blanks_append (blanks : Blanks) (hrest : ∀ c ∈ rest.head?, isBlank c = false) :
    trimStart (blanks.text ++ rest) = rest := by
  have hblank : ∀ c ∈ blanks.text, isBlank c = true := List.all_eq_true.mp blanks.allBlank
  exact congrArg Prod.snd (spanWhile_append_of_forall hblank hrest)

/-- Behind a name, blanks and the mark, whatever stands between quotes is the value. -/
theorem readAttribute_marked {c : Char} {more : List Char} (hc : isAttributeStart c = true)
    (hmore : ∀ d ∈ more, isAttributeChar d = true) (left right : Blanks) (value : List Char)
    (hvalue : ∀ d ∈ value.head?, isBlank d = false) :
    readAttribute (c :: (more ++ (left.text ++ '=' :: (right.text ++ value)))) =
      (readQuoted value).map fun (text, rest) => ((c :: more, text), rest) := by
  -- the name ends at a blank or, where there is none, at the equals sign
  have hapart : ∀ d ∈ (left.text ++ '=' :: (right.text ++ value)).head?,
      isAttributeChar d = false := by
    intro d hd
    cases hleft : left.text with
    | nil =>
      rw [hleft] at hd
      obtain rfl : '=' = d := Option.some.inj hd
      decide
    | cons blank blanks =>
      rw [hleft] at hd
      obtain rfl : blank = d := Option.some.inj hd
      exact isAttributeChar_eq_false_of_isBlank
        (List.all_eq_true.mp left.allBlank blank (by rw [hleft]; exact List.mem_cons_self))
  have hname := spanWhile_append_of_forall hmore hapart
  have hmark : trimStart (left.text ++ '=' :: (right.text ++ value)) =
      '=' :: (right.text ++ value) := trimStart_blanks_append left (by simp [isBlank])
  have hopen : trimStart (right.text ++ value) = value := trimStart_blanks_append right hvalue
  rw [readAttribute, hname]
  simp only [hc, hmark, hopen, after?, Bool.not_true, Bool.false_eq_true, if_false, if_true,
    Option.bind_eq_bind, Option.bind_some]
  cases readQuoted value with
  | none => rfl
  | some found => rfl

/-- A value between quotes ends at the next quote of its sort. -/
theorem Quotation.readQuoted_append (value : Quotation) (rest : List Char) :
    readQuoted (value.quote :: (value.text ++ value.quote :: rest)) = some (value.text, rest) := by
  have hrun : ∀ c ∈ value.text, (c != value.quote) = true := by
    intro c hc
    rw [bne_iff_ne]
    rintro rfl
    exact value.isQuoted hc
  have hspan : spanWhile (· != value.quote) (value.text ++ value.quote :: rest) =
      (value.text, value.quote :: rest) := spanWhile_append_of_forall hrun (by simp)
  obtain ⟨htake, hdrop⟩ := Prod.mk.inj hspan
  have hquote : (value.quote == '"' || value.quote == '\x27') = true := by
    simpa using value.isQuote
  simp only [readQuoted, hquote, htake, hdrop, if_true]

theorem isBareChar_iff {c : Char} : isBareChar c = true ↔
    isBlank c = false ∧ c ≠ '"' ∧ c ≠ '\x27' ∧ c ≠ '=' ∧ c ≠ '<' ∧ c ≠ '>' := by
  simp [isBareChar]

/-- No quote opens a value that is written without quotes. -/
theorem BareValue.readQuoted_append (value : BareValue) (rest : List Char) :
    readQuoted (value.first :: value.more ++ rest) = none := by
  obtain ⟨-, hdouble, hsingle, -⟩ := isBareChar_iff.mp (value.isBare _ List.mem_cons_self)
  simp [readQuoted, hdouble, hsingle]

/-- No attribute begins in a value without quotes. -/
theorem BareValue.misses_text (value : BareValue) (h : EndsAttribute rest) :
    Misses readAttribute (value.first :: value.more) rest := by
  intro before c after htext
  have hafter : ∀ d ∈ after, isBareChar d = true := by
    intro d hd
    exact value.isBare d (by rw [htext]; simp [hd])
  apply readAttribute_of_no_mark
  rw [List.dropWhile_append]
  cases hdrop : after.dropWhile isAttributeChar with
  | nil =>
    have hrest : rest.dropWhile isAttributeChar = rest := h.dropWhile (List.forall_mem_nil _)
    rw [List.isEmpty_nil, if_pos rfl, hrest]
    exact h.unmarked
  | cons d tail =>
    have hmem : d ∈ after := (List.dropWhile_sublist _).mem (hdrop ▸ List.mem_cons_self)
    obtain ⟨hblank, -, -, hmark, -⟩ := isBareChar_iff.mp (hafter d hmem)
    rw [List.isEmpty_cons, if_neg (by simp), List.cons_append,
      trimStart_eq_self (by simpa using hblank)]
    simpa using hmark

/-- An attribute whose value stands without quotes is not read, nor anything in it. -/
theorem misses_readAttribute_bare (name : AttributeName) (value : BareValue)
    (h : EndsAttribute rest) : Misses readAttribute (name.text ++ value.source) rest := by
  refine Misses.append ?_ ?_
  · intro before c after htext
    have hafter : ∀ d ∈ after, isAttributeChar d = true := by
      intro d hd
      exact name.isMore_text d (by rw [htext]; simp [hd])
    by_cases hc : isAttributeStart c = true
    · have hfirst := isBareChar_iff.mp (value.isBare _ List.mem_cons_self)
      have hread := readAttribute_marked hc hafter value.left value.right
        (value.first :: value.more ++ rest) (by simpa using hfirst.1)
      rw [value.readQuoted_append] at hread
      simpa [BareValue.source] using hread
    · exact readAttribute_of_not_start (Bool.not_eq_true _ ▸ hc) _
  · refine Misses.append (value.left.misses_readAttribute _) ?_
    have hmark : Misses readAttribute ['=']
        (value.right.text ++ value.first :: value.more ++ rest) :=
      misses_of_forall (List.forall_mem_singleton.mpr (readAttribute_of_not_start (by decide)))
    refine Misses.append hmark ?_
    exact Misses.append (value.right.misses_readAttribute _) (value.misses_text h)

/-! ### What is read of attributes -/

/-- A further attribute ends the one before it. -/
theorem EndsAttribute.of_gap (gap : Blanks) (hgap : gap.text ≠ []) (name : AttributeName)
    (rest : List Char) : EndsAttribute (gap.text ++ (name.text ++ rest)) := by
  have hfirst := isBlank_eq_false_of_isAttributeStart name.isStart
  have hname : trimStart (gap.text ++ (name.text ++ rest)) = name.text ++ rest :=
    trimStart_blanks_append gap (by simpa [AttributeName.text] using hfirst)
  obtain ⟨blank, blanks, hblanks⟩ := List.exists_cons_of_ne_nil hgap
  constructor
  · intro c hc
    rw [hblanks] at hc
    obtain rfl : blank = c := Option.some.inj hc
    exact isAttributeChar_eq_false_of_isBlank
      (List.all_eq_true.mp gap.allBlank blank (by rw [hblanks]; exact List.mem_cons_self))
  · rw [hname]
    intro hmark
    have hstart := name.isStart
    rw [show name.first = '=' from Option.some.inj hmark] at hstart
    exact absurd hstart (by decide)

theorem EndsAttribute.of_source (attr : Attribute) (rest : List Char) :
    EndsAttribute (attr.source ++ rest) := by
  have h := EndsAttribute.of_gap attr.gap attr.isApart attr.name (attr.value.source ++ rest)
  simpa [Attribute.source] using h

theorem EndsAttribute.of_flatMap_source (attrs : List Attribute) (h : EndsAttribute rest) :
    EndsAttribute (attrs.flatMap Attribute.source ++ rest) := by
  cases attrs with
  | nil => exact h
  | cons attr attrs =>
    rw [List.flatMap_cons, List.append_assoc]
    exact .of_source attr _

/-- A quoted value is found with its name. -/
theorem findAll_readAttribute_quoted (gap : Blanks) (name : AttributeName) (value : Quotation)
    (rest : List Char) :
    findAll readAttribute (gap.text ++ (name.text ++ (value.source ++ rest))) =
      (name.text, value.text) :: findAll readAttribute rest := by
  have hquote : isBlank value.quote = false := by
    rcases value.isQuote with h | h
    · rw [h]
      decide
    · rw [h]
      decide
  have hread := readAttribute_marked name.isStart name.isMore value.left value.right
    (value.quote :: (value.text ++ value.quote :: rest)) (by simpa using hquote)
  rw [value.readQuoted_append] at hread
  rw [findAll_append_of_misses (gap.misses_readAttribute _), ← List.append_assoc]
  apply findAll_append_of_some (by simp [AttributeName.text])
  simpa [AttributeName.text, Quotation.source] using hread

theorem Attribute.name_of_read? {attr : Attribute} {found : List Char × List Char}
    (h : attr.read? = some found) : found.1 = attr.name.text := by
  unfold Attribute.read? at h
  split at h
  · obtain rfl := Option.some.inj h
    rfl
  · cases h

/-- Of an attribute with more behind it, the name and the quoted value are found. -/
theorem findAll_readAttribute_source (attr : Attribute) (h : EndsAttribute rest) :
    findAll readAttribute (attr.source ++ rest) =
      attr.read?.toList ++ findAll readAttribute rest := by
  obtain ⟨gap, hgap, name, value⟩ := attr
  have hskip (run : List Char) : findAll readAttribute (gap.text ++ run) =
      findAll readAttribute run := findAll_append_of_misses (gap.misses_readAttribute run)
  simp only [Attribute.source, Attribute.read?, List.append_assoc]
  cases value with
  | absent =>
    rw [hskip]
    exact findAll_append_of_misses (name.misses_readAttribute h)
  | bare value =>
    rw [hskip, ← List.append_assoc]
    exact findAll_append_of_misses (misses_readAttribute_bare name value h)
  | quoted value => exact findAll_readAttribute_quoted gap name value rest

theorem findAll_readAttribute_append (attrs : List Attribute) (h : EndsAttribute rest) :
    findAll readAttribute (attrs.flatMap Attribute.source ++ rest) =
      attrs.filterMap Attribute.read? ++ findAll readAttribute rest := by
  induction attrs with
  | nil => rfl
  | cons attr attrs ih =>
    rw [List.flatMap_cons, List.append_assoc,
      findAll_readAttribute_source attr (.of_flatMap_source attrs h), ih]
    cases hread : attr.read? with
    | none => simp [hread]
    | some found => simp [hread]

/-- The first attribute with a name gives its value. -/
theorem attribute?_written {name : String} {before : List Attribute}
    (hbefore : ∀ attr ∈ before, lower attr.name.text ≠ name.toList) (gap : Blanks)
    (hgap : gap.text ≠ []) {written : AttributeName} (hname : lower written.text = name.toList)
    (value : Quotation) (behind : List Char) :
    attribute? name (before.flatMap Attribute.source ++
      (gap.text ++ (written.text ++ (value.source ++ behind)))) =
        some (Entity.decode value.text) := by
  have hnone : (before.filterMap Attribute.read?).find?
      (fun (found, _) => lower found == name.toList) = none := by
    rw [List.find?_eq_none]
    intro found hfound
    obtain ⟨attr, hattr, hread⟩ := List.mem_filterMap.mp hfound
    simpa [Attribute.name_of_read? hread] using hbefore attr hattr
  rw [attribute?, findAll_readAttribute_append before (.of_gap gap hgap written _),
    findAll_readAttribute_quoted, List.find?_append, hnone]
  simp [hname]

end Html

end PageMarkup
