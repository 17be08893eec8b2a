import PageMarkup.Markup.Reader
import PageMarkup.Proofs.Markup.Escaping
import PageMarkup.Proofs.Markup.Spelling

/-!
# Reading a tag that was written

A tag whose names are identifiers in small letters is read back as it was written, whatever its
attributes hold: their values are written without quotes and brackets, so the value ends where its
quote stands and the tag where its bracket stands.  What is spelled as a tag is read as one, so it
is enough that a tag is spelled as it should be when it is written, and that it says what was meant.
-/

namespace PageMarkup

open Text

namespace Markup

/-! ### Names -/

/-- A character of the name of an element in small letters. -/
def isSmallNameChar (c : Char) : Bool :=
  isSmallLetter c || isAsciiDigit c || c == '_'

/-- A character of the name of an attribute in small letters. -/
def isSmallAttributeChar (c : Char) : Bool :=
  isSmallNameChar c || c == '-'

/-- The name of an element in small letters. -/
def isElementName (name : String) : Bool :=
  match name.toList with
  | [] => false
  | c :: cs => isSmallLetter c && cs.all isSmallNameChar

/-- The name of an attribute in small letters. -/
def isAttributeName (name : String) : Bool :=
  match name.toList with
  | [] => false
  | c :: cs => (isSmallLetter c || c == '_') && cs.all isSmallAttributeChar

/-- The characters of attribute names as numbers. -/
theorem isSmallAttributeChar_iff {c : Char} : isSmallAttributeChar c = true ↔
    ((97 ≤ c.toNat ∧ c.toNat ≤ 122) ∨ (48 ≤ c.toNat ∧ c.toNat ≤ 57) ∨ c = '_') ∨ c = '-' := by
  simp [isSmallAttributeChar, isSmallNameChar, isSmallLetter_iff, isAsciiDigit_iff, or_assoc]

/-- The characters of names are no capitals. -/
theorem toLower_of_isSmallAttributeChar {c : Char} (h : isSmallAttributeChar c = true) :
    c.toLower = c := by
  rcases isSmallAttributeChar_iff.mp h with (hletter | hdigit | rfl) | rfl
  · exact toLower_eq_self (by omega)
  · exact toLower_eq_self (by omega)
  · decide
  · decide

/-- A character of an element name in small letters continues a name. -/
theorem isNameChar_of_isSmallNameChar {c : Char} (h : isSmallNameChar c = true) :
    isNameChar c = true := by
  simp only [isSmallNameChar, Bool.or_eq_true] at h
  rcases h with (h | h) | h
  · simp [isNameChar, isLetter_of_isSmallLetter h]
  · simp [isNameChar, h]
  · simp [isNameChar, h]

/-- A character of an attribute name in small letters continues a name. -/
theorem isAttributeChar_of_isSmallAttributeChar {c : Char}
    (h : isSmallAttributeChar c = true) : isAttributeChar c = true := by
  simp only [isSmallAttributeChar, isSmallNameChar, Bool.or_eq_true] at h
  rcases h with ((h | h) | h) | h
  · simp [isAttributeChar, isAttributeStart, isLetter_of_isSmallLetter h]
  · simp [isAttributeChar, h]
  · simp [isAttributeChar, isAttributeStart, h]
  · simp [isAttributeChar, h]

/-- A character of an element name may stand in an attribute name. -/
theorem isSmallAttributeChar_of_isSmallNameChar {c : Char} (h : isSmallNameChar c = true) :
    isSmallAttributeChar c = true := by
  simp [isSmallAttributeChar, h]

/-- A small letter continues the name of an element. -/
theorem isSmallNameChar_of_isSmallLetter {c : Char} (h : isSmallLetter c = true) :
    isSmallNameChar c = true := by
  simp [isSmallNameChar, h]

/-- The parts of the name of an element. -/
theorem exists_cons_of_isElementName {name : String} (h : isElementName name = true) :
    ∃ c cs, name.toList = c :: cs ∧ isSmallLetter c = true ∧
      ∀ d ∈ cs, isSmallNameChar d = true := by
  unfold isElementName at h
  split at h
  · exact absurd h (by decide)
  · rename_i c cs hname
    simp only [Bool.and_eq_true, List.all_eq_true] at h
    exact ⟨c, cs, hname, h.1, h.2⟩

/-- The parts of the name of an attribute. -/
theorem exists_cons_of_isAttributeName {name : String} (h : isAttributeName name = true) :
    ∃ c cs, name.toList = c :: cs ∧ (isSmallLetter c = true ∨ c = '_') ∧
      ∀ d ∈ cs, isSmallAttributeChar d = true := by
  unfold isAttributeName at h
  split at h
  · exact absurd h (by decide)
  · rename_i c cs hname
    simp only [Bool.and_eq_true, Bool.or_eq_true, beq_iff_eq, List.all_eq_true] at h
    exact ⟨c, cs, hname, h.1, h.2⟩

/-- The name of an element may be the name of an attribute. -/
theorem isAttributeName_of_isElementName {name : String} (h : isElementName name = true) :
    isAttributeName name = true := by
  obtain ⟨c, cs, hname, hc, hcs⟩ := exists_cons_of_isElementName h
  have hall : cs.all isSmallAttributeChar = true :=
    List.all_eq_true.mpr fun d hd => isSmallAttributeChar_of_isSmallNameChar (hcs d hd)
  simp [isAttributeName, hname, hc, hall]

/-- What begins the name of an attribute in small letters. -/
theorem isAttributeStart_of_begins {c : Char} (h : isSmallLetter c = true ∨ c = '_') :
    isAttributeStart c = true ∧ isSmallAttributeChar c = true := by
  rcases h with h | rfl
  · have hchar := isSmallAttributeChar_of_isSmallNameChar (isSmallNameChar_of_isSmallLetter h)
    exact ⟨by simp [isAttributeStart, isLetter_of_isSmallLetter h], hchar⟩
  · decide

section Names

variable {name : String}

/-- The characters of the name of an attribute. -/
theorem isSmallAttributeChar_of_mem (h : isAttributeName name = true) {c : Char}
    (hc : c ∈ name.toList) : isSmallAttributeChar c = true := by
  obtain ⟨first, cs, hname, hfirst, hcs⟩ := exists_cons_of_isAttributeName h
  rw [hname] at hc
  rcases List.mem_cons.mp hc with rfl | hc
  · exact (isAttributeStart_of_begins hfirst).2
  · exact hcs c hc

/-- The name of an attribute is not changed by writing it in small letters. -/
theorem lower_of_isAttributeName (h : isAttributeName name = true) :
    lower name.toList = name.toList :=
  lower_eq_self fun _ hc => toLower_of_isSmallAttributeChar (isSmallAttributeChar_of_mem h hc)

/-- The name of an attribute is a run of characters of such names. -/
theorem isRun_of_isAttributeName (h : isAttributeName name = true) :
    IsRun isAttributeStart isAttributeChar name.toList := by
  obtain ⟨c, cs, hname, hc, hcs⟩ := exists_cons_of_isAttributeName h
  rw [hname]
  exact ⟨(isAttributeStart_of_begins hc).1,
    fun d hd => isAttributeChar_of_isSmallAttributeChar (hcs d hd)⟩

/-- The name of an element is a run of characters of such names. -/
theorem isRun_of_isElementName (h : isElementName name = true) :
    IsRun isLetter isNameChar name.toList := by
  obtain ⟨c, cs, hname, hc, hcs⟩ := exists_cons_of_isElementName h
  rw [hname]
  exact ⟨isLetter_of_isSmallLetter hc, fun d hd => isNameChar_of_isSmallNameChar (hcs d hd)⟩

end Names

/-! ### Attributes -/

namespace SpelledAttribute

/-- An attribute as it is written: one space stands in front of it and no other blank in it, and
its value is escaped. -/
def ofEntry (entry : String × String) : SpelledAttribute :=
  ⟨[' '], entry.1.toList, [], [], Escape.value entry.2.toList⟩

theorem chars_ofEntry (entry : String × String) :
    (ofEntry entry).chars = Tag.attributeChars entry := by
  simp [ofEntry, chars, Tag.attributeChars]

variable {entry : String × String}

/-- An attribute with a proper name is spelled as it should be, whatever its value: escaped, the
value holds no quote. -/
theorem isProper_ofEntry (h : isAttributeName entry.1 = true) : (ofEntry entry).IsProper where
  gap := ⟨List.cons_ne_nil _ _, rfl⟩
  name := isRun_of_isAttributeName h
  before := rfl
  after := rfl
  value := fun hquote => Escape.ne_quote_of_mem_value hquote rfl

/-- What is written says what was meant. -/
theorem entry_ofEntry (h : isAttributeName entry.1 = true) : (ofEntry entry).entry = entry := by
  simp only [ofEntry, SpelledAttribute.entry, lower_of_isAttributeName h, Escape.decode_value,
    String.ofList_toList]

end SpelledAttribute

end Markup

/-! ### Tags -/

namespace Tag

/-- The names of a tag are identifiers in small letters, and none of its attributes occurs
twice. -/
structure IsProper (tag : Tag) : Prop where
  isElementName : Markup.isElementName tag.name = true
  isAttributeName : ∀ entry ∈ tag.attributes, Markup.isAttributeName entry.1 = true
  nodup : (tag.attributes.map Prod.fst).Nodup

end Tag

namespace Markup

namespace SpelledTag

/-- A tag as it is written, with its bracket right behind its attributes. -/
def ofTag (closing : Bool) (tag : Tag) : SpelledTag :=
  ⟨closing, tag.name.toList, tag.attributes.map SpelledAttribute.ofEntry, [], false⟩

theorem chars_ofTag_opening (tag : Tag) : (ofTag false tag).chars = tag.opening := by
  simp [ofTag, chars, body, ending, Tag.opening, List.flatMap_map,
    SpelledAttribute.chars_ofEntry]

theorem chars_ofTag_closing (name : String) :
    (ofTag true ⟨name, []⟩).chars = Tag.closing ⟨name, []⟩ := by
  simp [ofTag, chars, body, ending, Tag.closing]

variable {tag : Tag}

theorem isProper_ofTag (h : tag.IsProper) (closing : Bool) : (ofTag closing tag).IsProper where
  name := isRun_of_isElementName h.isElementName
  attributes := by
    intro item hitem
    obtain ⟨entry, hentry, rfl⟩ := List.mem_map.mp hitem
    exact SpelledAttribute.isProper_ofEntry (h.isAttributeName entry hentry)
  gap := rfl

theorem token_ofTag (h : tag.IsProper) (closing : Bool) :
    (ofTag closing tag).token = ⟨closing, tag⟩ := by
  have hattributes : (tag.attributes.map SpelledAttribute.ofEntry).map SpelledAttribute.entry =
      tag.attributes := by
    rw [List.map_map]
    exact (List.map_congr_left fun entry hentry =>
      SpelledAttribute.entry_ofEntry (h.isAttributeName entry hentry)).trans (List.map_id _)
  have hname : lower tag.name.toList = tag.name.toList :=
    lower_of_isAttributeName (isAttributeName_of_isElementName h.isElementName)
  simp only [ofTag, token, hattributes, hname, String.ofList_toList]

end SpelledTag

variable {tag : Tag}

/-- A tag is read back as it was written. -/
theorem readTag_ofTag (h : tag.IsProper) (closing : Bool) (rest : List Char) :
    readTag ((SpelledTag.ofTag closing tag).chars ++ rest) = some (⟨closing, tag⟩, rest) :=
  readTag_eq_some_iff.mpr ⟨SpelledTag.ofTag closing tag, SpelledTag.isProper_ofTag h closing, rfl,
    (SpelledTag.token_ofTag h closing).symm⟩

/-- An opening tag is read back as it was written. -/
theorem readTag_opening (h : tag.IsProper) (rest : List Char) :
    readTag (tag.opening ++ rest) = some (⟨false, tag⟩, rest) := by
  rw [← SpelledTag.chars_ofTag_opening]
  exact readTag_ofTag h false rest

/-- A closing tag is read back as it was written. -/
theorem readTag_closing (h : tag.IsProper) (rest : List Char) :
    readTag (tag.closing ++ rest) = some (⟨true, ⟨tag.name, []⟩⟩, rest) := by
  have hproper : (Tag.mk tag.name []).IsProper := ⟨h.isElementName, by simp, by simp⟩
  have hclosing : tag.closing = (SpelledTag.ofTag true ⟨tag.name, []⟩).chars :=
    (SpelledTag.chars_ofTag_closing tag.name).symm
  rw [hclosing]
  exact readTag_ofTag hproper true rest

/-- A character other than an opening bracket begins no tag. -/
theorem readTag_cons_of_ne {c : Char} (hc : c ≠ '[') (cs : List Char) :
    readTag (c :: cs) = none := by
  unfold readTag
  split <;> simp_all

end Markup

end PageMarkup
