import PageMarkup.Proofs.Markup.RoundTrip
import PageMarkup.Restricted

/-!
# The shape of generated markup

Markup inside a section is put together from few patterns: elements that hold nothing, elements that
hold an escaped text, blocks with lines inside, and lines of such things.  A forest is solid when it
can stand on a line of such a pattern.  This file proves that the patterns keep forests solid, and
what the markup of a forest looks like to a scan for tags: its tags are those of the forest, and
every bracket is the first or the last character of one of them.
-/

namespace PageMarkup

open Text

/-! ### Attributes and tags -/

namespace Restricted

/-- The restriction of the attributes with this name.  Two attributes of composite elements name an
address as well. -/
def ofAttribute? (name : String) : Option Restricted :=
  if name = "button_url" then some href
  else if name = "portrait" then some src
  else ofName? name

/-- Every value of a restricted attribute is allowed, and in its normal form. -/
def AreClean (attributes : List (String × String)) : Prop :=
  ∀ entry ∈ attributes, ∀ target, ofAttribute? entry.1 = some target →
    target.allow entry.2 = some entry.2

theorem areClean_nil : AreClean [] := by
  simp [AreClean]

theorem AreClean.append {attributes others : List (String × String)} (h : AreClean attributes)
    (hothers : AreClean others) : AreClean (attributes ++ others) := by
  intro entry hentry
  rcases List.mem_append.mp hentry with hentry | hentry
  · exact h entry hentry
  · exact hothers entry hentry

/-- An attribute without a restriction is clean. -/
theorem areClean_of_none {name : String} (h : ofAttribute? name = none) (value : String) :
    AreClean [(name, value)] := by
  intro entry hentry target htarget
  obtain rfl := List.mem_singleton.mp hentry
  rw [h] at htarget
  exact absurd htarget (by simp)

/-- An attribute with an allowed value is clean. -/
theorem areClean_of_allow {name value : String} (target : Restricted)
    (h : ofAttribute? name = some target) (hvalue : target.allow value = some value) :
    AreClean [(name, value)] := by
  intro entry hentry other hother
  obtain rfl := List.mem_singleton.mp hentry
  rw [h] at hother
  obtain rfl := Option.some.inj hother
  exact hvalue

end Restricted

namespace Markup

/-- The elements of the skeleton of a page. -/
def frameNames : List String := ["section", "row", "column"]

/-- The names of the vocabulary are identifiers in small letters. -/
theorem isElementName_of_mem_vocabulary {name : String} (h : name ∈ vocabulary) :
    isElementName name = true := by
  revert name
  decide

end Markup

namespace Tag

/-- A tag of generated markup: its name is in the vocabulary, no attribute occurs twice, and every
restricted attribute has an allowed value. -/
structure IsSound (tag : Tag) : Prop where
  vocabulary : tag.name ∈ Markup.vocabulary
  isAttributeName : ∀ entry ∈ tag.attributes, Markup.isAttributeName entry.1 = true
  nodup : (tag.attributes.map Prod.fst).Nodup
  clean : Restricted.AreClean tag.attributes

/-- A tag of generated markup that does not belong to the skeleton of a page. -/
structure IsInner (tag : Tag) : Prop extends IsSound tag where
  notFrame : tag.name ∉ Markup.frameNames

theorem IsSound.isProper {tag : Tag} (h : tag.IsSound) : tag.IsProper where
  isElementName := Markup.isElementName_of_mem_vocabulary h.vocabulary
  isAttributeName := h.isAttributeName
  nodup := h.nodup

end Tag

/-! ### Tags and texts of a forest -/

namespace Markup

mutual

/-- The tags of an item. -/
def tags : Markup → List Tag
  | text _ => []
  | element tag children => tag :: tagsAll children

/-- The tags of some items. -/
def tagsAll : List Markup → List Tag
  | [] => []
  | item :: items => tags item ++ tagsAll items

end

mutual

/-- The texts of an item. -/
def texts : Markup → List String
  | text content => [content]
  | element _ children => textsAll children

/-- The texts of some items. -/
def textsAll : List Markup → List String
  | [] => []
  | item :: items => texts item ++ textsAll items

end

@[simp] theorem tagsAll_append (items others : List Markup) :
    tagsAll (items ++ others) = tagsAll items ++ tagsAll others := by
  induction items with
  | nil => rfl
  | cons item items ih => simp [tagsAll, ih]

@[simp] theorem textsAll_append (items others : List Markup) :
    textsAll (items ++ others) = textsAll items ++ textsAll others := by
  induction items with
  | nil => rfl
  | cons item items ih => simp [textsAll, ih]

/-- The tags of an element are its own and those of what it holds. -/
theorem tagsAll_element (tag : Tag) (children : List Markup) :
    tagsAll [element tag children] = tag :: tagsAll children := by
  simp [tagsAll, tags]

end Markup

namespace Forest

/-- What holds of a forest holds of each of its items and of what is inside them. -/
structure IsHereditary (H : Forest → Prop) : Prop where
  head : ∀ {item items}, H (item :: items) → H [item]
  tail : ∀ {item items}, H (item :: items) → H items
  inside : ∀ {tag children}, H [.element tag children] → H children

/-- The tags of an item are among those of the forest. -/
theorem isHereditary_tags (C : Tag → Prop) :
    IsHereditary fun forest => ∀ tag ∈ Markup.tagsAll forest, C tag where
  head {item items} h tag htag := by
    rw [Markup.tagsAll, Markup.tagsAll, List.append_nil] at htag
    exact h tag (List.mem_append_left _ htag)
  tail h tag htag := h tag (List.mem_append_right _ htag)
  inside {tag children} h inner hinner := by
    rw [Markup.tagsAll_element] at h
    exact h inner (List.mem_cons_of_mem tag hinner)

end Forest

/-! ### Lines of lines -/

namespace Forest

/-- Lines of a forest and of others that follow. -/
theorem lines_cons {forests : List Forest} (hne : forests ≠ []) (forest : Forest) :
    lines (forest :: forests) = forest ++ [Markup.newline] ++ lines forests := by
  cases forests with
  | nil => exact absurd rfl hne
  | cons next forests => rfl

/-- What is read of a forest is read of one item after the other, and nothing of a line end. -/
structure ReadsItems {α : Type} (read : Forest → List α) : Prop where
  nil : read [] = []
  append : ∀ items others, read (items ++ others) = read items ++ read others
  newline : read [Markup.newline] = []

namespace ReadsItems

variable {α : Type} {read : Forest → List α}

/-- Of lines it is what is read of each. -/
theorem lines (h : ReadsItems read) (forests : List Forest) :
    read (Forest.lines forests) = forests.flatMap read := by
  induction forests with
  | nil => exact h.nil
  | cons forest forests ih =>
    by_cases hrest : forests = []
    · subst hrest
      simp [Forest.lines]
    · rw [lines_cons hrest, h.append, h.append, ih, h.newline, List.append_nil, List.flatMap_cons]

/-- Of lines of its own it is what is read of the forest. -/
theorem ownLines (h : ReadsItems read) (forest : Forest) :
    read forest.ownLines = read forest := by
  rw [Forest.ownLines]
  split
  · rename_i hempty
    rw [List.isEmpty_iff.mp hempty]
  · rw [h.append, h.append, h.newline, List.append_nil, List.nil_append]

end ReadsItems

/-- The tags of a forest are those of its items. -/
theorem readsItems_tagsAll : ReadsItems Markup.tagsAll where
  nil := rfl
  append := Markup.tagsAll_append
  newline := rfl

/-- Lines of two groups of forests. -/
theorem lines_append {forests others : List Forest} (hforests : forests ≠ [])
    (hothers : others ≠ []) :
    lines (forests ++ others) = lines forests ++ [Markup.newline] ++ lines others := by
  induction forests with
  | nil => exact absurd rfl hforests
  | cons forest forests ih =>
    by_cases hrest : forests = []
    · subst hrest
      exact lines_cons hothers forest
    · rw [List.cons_append, lines_cons (by simp [hrest]), ih hrest, lines_cons hrest]
      simp

/-- Lines of some forests, if there are any. -/
def lines? (forests : List Forest) : Option Forest :=
  if forests.isEmpty then none else some (lines forests)

/-- Groups of forests on lines of their own are the lines of all their forests; an empty group takes
no line. -/
theorem lines_flatten (groups : List (List Forest)) :
    lines (groups.filterMap lines?) = lines groups.flatten := by
  induction groups with
  | nil => rfl
  | cons group groups ih =>
    cases group with
    | nil => exact ih
    | cons forest forests =>
      have hfirst : lines? (forest :: forests) = some (lines (forest :: forests)) := rfl
      rw [List.filterMap_cons_some hfirst, List.flatten_cons]
      by_cases hrest : groups.flatten = []
      · have hnone : groups.filterMap lines? = [] := by
          simpa [List.filterMap_eq_nil_iff, List.flatten_eq_nil_iff, lines?] using hrest
        rw [hnone, hrest, List.append_nil]
        rfl
      · have hsome : groups.filterMap lines? ≠ [] := by
          simpa [List.filterMap_eq_nil_iff, List.flatten_eq_nil_iff, lines?] using hrest
        rw [lines_cons hsome, ih, lines_append (List.cons_ne_nil forest forests) hrest]

end Forest

/-! ### Solid forests -/

namespace Forest

open Markup

/-- What may stand inside a section: its markup is read back, its tags do not belong to the
skeleton, and its texts hold no bracket. -/
structure IsContent (forest : Forest) : Prop where
  isWellFormed : forest.IsWellFormed
  tags : ∀ tag ∈ tagsAll forest, tag.IsInner
  texts : ∀ content ∈ textsAll forest, ']' ∉ content.toList

/-- Content that can stand on a line: it begins and ends with an element. -/
structure IsSolid (forest : Forest) : Prop extends IsContent forest where
  ne_nil : forest ≠ []
  begins : beginsWithText forest = false
  ends : endsWithText forest = false

theorem isContent_nil : IsContent [] where
  isWellFormed := trivial
  tags := by simp [tagsAll]
  texts := by simp [textsAll]

theorem isContent_newline : IsContent [newline] where
  isWellFormed := by decide
  tags := by simp [newline, tagsAll, Markup.tags]
  texts := by
    intro content hcontent
    obtain rfl := List.mem_singleton.mp hcontent
    decide

/-- Content followed by content is content unless two texts meet. -/
theorem IsContent.append {forest other : Forest} (h : forest.IsContent) (hother : other.IsContent)
    (hseam : ¬ (endsWithText forest = true ∧ beginsWithText other = true)) :
    IsContent (forest ++ other) where
  isWellFormed := areWellFormed_append h.isWellFormed hother.isWellFormed hseam
  tags tag htag := by
    rw [tagsAll_append, List.mem_append] at htag
    exact htag.elim (h.tags tag) (hother.tags tag)
  texts content hcontent := by
    rw [textsAll_append, List.mem_append] at hcontent
    exact hcontent.elim (h.texts content) (hother.texts content)

theorem endsWithText_append {items others : List Markup} (h : others ≠ []) :
    endsWithText (items ++ others) = endsWithText others := by
  rw [endsWithText, endsWithText, List.getLast?_append_of_ne_nil _ h]

theorem beginsWithText_append {items others : List Markup} (h : items ≠ []) :
    beginsWithText (items ++ others) = beginsWithText items := by
  rw [beginsWithText, beginsWithText, List.head?_append_of_ne_nil _ h]

/-- A line end joins two solid forests. -/
theorem IsSolid.append_newline {forest other : Forest} (h : forest.IsSolid)
    (hother : other.IsSolid) : IsSolid (forest ++ [newline] ++ other) := by
  have hfront : IsContent (forest ++ [newline]) :=
    h.toIsContent.append isContent_newline (by simp [h.ends])
  refine ⟨hfront.append hother.toIsContent (by simp [hother.begins]), by simp, ?_, ?_⟩
  · rw [List.append_assoc, beginsWithText_append h.ne_nil, h.begins]
  · rw [endsWithText_append hother.ne_nil, hother.ends]

/-- Lines of solid forests are solid, if there are any. -/
theorem isSolid_lines {forests : List Forest} (hne : forests ≠ [])
    (h : ∀ forest ∈ forests, forest.IsSolid) : (lines forests).IsSolid := by
  induction forests with
  | nil => exact absurd rfl hne
  | cons forest forests ih =>
    cases forests with
    | nil => exact h forest List.mem_cons_self
    | cons next forests =>
      have hrest := ih (by simp) fun other hother => h other (List.mem_cons_of_mem forest hother)
      exact (h forest List.mem_cons_self).append_newline hrest

/-- What may stand on lines of its own: nothing, or a solid forest. -/
def IsLines (forest : Forest) : Prop :=
  forest = [] ∨ forest.IsSolid

/-- Lines of solid forests may stand on lines of their own. -/
theorem isLines_lines {forests : List Forest} (h : ∀ forest ∈ forests, forest.IsSolid) :
    (lines forests).IsLines := by
  by_cases hne : forests = []
  · subst hne
    exact .inl rfl
  · exact .inr (isSolid_lines hne h)

theorem IsLines.isContent_ownLines {forest : Forest} (h : forest.IsLines) :
    forest.ownLines.IsContent := by
  rcases h with rfl | h
  · exact isContent_nil
  · have hfront : IsContent ([newline] ++ forest) :=
      isContent_newline.append h.toIsContent (by simp [h.begins])
    rw [ownLines, if_neg (by simp [h.ne_nil])]
    refine hfront.append isContent_newline ?_
    rw [endsWithText_append h.ne_nil]
    simp [h.ends]

/-- An element around content is solid. -/
theorem isSolid_element {tag : Tag} {children : Forest} (htag : tag.IsInner)
    (hvoid : isVoid tag.name = true → children = []) (h : children.IsContent) :
    IsSolid [element tag children] where
  isWellFormed := ⟨⟨htag.isProper, hvoid, h.isWellFormed⟩, by simp [isText], trivial⟩
  tags other hother := by
    simp only [tagsAll, Markup.tags, List.append_nil, List.mem_cons] at hother
    rcases hother with rfl | hother
    · exact htag
    · exact h.tags other hother
  texts content hcontent := by
    simp only [textsAll, Markup.texts, List.append_nil] at hcontent
    exact h.texts content hcontent
  ne_nil := by simp
  begins := rfl
  ends := rfl

/-- An element that holds nothing is solid. -/
theorem isSolid_empty {tag : Tag} (htag : tag.IsInner) : IsSolid [element tag []] :=
  isSolid_element htag (fun _ => rfl) isContent_nil

/-- An element that holds a text without brackets is solid. -/
theorem isSolid_holding {tag : Tag} {content : List Char} (htag : tag.IsInner)
    (hvoid : isVoid tag.name = false) (h : ∀ c ∈ content, c ≠ '[' ∧ c ≠ ']') :
    IsSolid [holding tag content] := by
  refine isSolid_element htag (by simp [hvoid]) ?_
  split
  · exact isContent_nil
  · rename_i hne
    have hne : content ≠ [] := by simpa using hne
    refine ⟨⟨⟨?_, ?_⟩, by simp [beginsWithText], trivial⟩, by simp [tagsAll, Markup.tags], ?_⟩
    · simpa [String.ext_iff] using hne
    · rw [String.toList_ofList]
      exact fun hmem => (h _ hmem).1 rfl
    · intro other hother
      obtain rfl : other = String.ofList content := by
        simpa [textsAll, Markup.texts] using hother
      rw [String.toList_ofList]
      exact fun hmem => (h _ hmem).2 rfl

/-- A block around lines is solid. -/
theorem isSolid_block {tag : Tag} {content : Forest} (htag : tag.IsInner)
    (hvoid : isVoid tag.name = false) (h : content.IsLines) : IsSolid [block tag content] :=
  isSolid_element htag (by simp [hvoid]) h.isContent_ownLines

end Forest

/-! ### What a scan finds -/

/-- A part of a scanned text whose brackets delimit tags: a character that is no bracket, or a tag
whose first and last characters are its only brackets. -/
def Piece.IsDelimited : Piece Markup.TagToken → Prop
  | .char c => c ≠ '[' ∧ c ≠ ']'
  | .found _ source => ∃ inside, source = '[' :: (inside ++ [']']) ∧ '[' ∉ inside ∧ ']' ∉ inside

namespace Markup

/-- No bracket is a character of an attribute name. -/
theorem not_bracket_of_mem_attributeName {name : String} (h : isAttributeName name = true) :
    '[' ∉ name.toList ∧ ']' ∉ name.toList :=
  ⟨fun hmem => absurd (isSmallAttributeChar_of_mem h hmem) (by decide),
    fun hmem => absurd (isSmallAttributeChar_of_mem h hmem) (by decide)⟩

/-- No bracket is a character of an element name. -/
theorem not_bracket_of_mem_elementName {name : String} (h : isElementName name = true) :
    '[' ∉ name.toList ∧ ']' ∉ name.toList :=
  not_bracket_of_mem_attributeName (isAttributeName_of_isElementName h)

/-- No bracket is a character of the attributes of a tag. -/
theorem not_bracket_of_mem_attributes {tag : Tag} (h : tag.IsProper) :
    '[' ∉ tag.attributes.flatMap Tag.attributeChars ∧
      ']' ∉ tag.attributes.flatMap Tag.attributeChars := by
  refine ⟨fun hmem => ?_, fun hmem => ?_⟩
  all_goals
    obtain ⟨⟨name, value⟩, hentry, hc⟩ := List.mem_flatMap.mp hmem
    have hname := not_bracket_of_mem_attributeName (h.isAttributeName _ hentry)
    simp only [Tag.attributeChars, List.mem_append, List.mem_cons, List.not_mem_nil, or_false] at hc
  · rcases hc with (((hc | hc) | hc | hc) | hc) | hc
    · exact absurd hc (by decide)
    · exact hname.1 hc
    · exact absurd hc (by decide)
    · exact absurd hc (by decide)
    · exact (Escape.not_bracket_of_mem_value hc).1 rfl
    · exact absurd hc (by decide)
  · rcases hc with (((hc | hc) | hc | hc) | hc) | hc
    · exact absurd hc (by decide)
    · exact hname.2 hc
    · exact absurd hc (by decide)
    · exact absurd hc (by decide)
    · exact (Escape.not_bracket_of_mem_value hc).2 rfl
    · exact absurd hc (by decide)

/-- The brackets of an opening tag are its delimiters. -/
theorem isDelimited_opening {tag : Tag} (h : tag.IsProper) (token : TagToken) :
    Piece.IsDelimited (.found token tag.opening) := by
  have hname := not_bracket_of_mem_elementName h.isElementName
  have hattributes := not_bracket_of_mem_attributes h
  refine ⟨tag.name.toList ++ tag.attributes.flatMap Tag.attributeChars, by simp [Tag.opening],
    ?_, ?_⟩
  · exact fun hmem => (List.mem_append.mp hmem).elim hname.1 hattributes.1
  · exact fun hmem => (List.mem_append.mp hmem).elim hname.2 hattributes.2

/-- The brackets of a closing tag are its delimiters. -/
theorem isDelimited_closing {tag : Tag} (h : tag.IsProper) (token : TagToken) :
    Piece.IsDelimited (.found token tag.closing) := by
  have hname := not_bracket_of_mem_elementName h.isElementName
  refine ⟨'/' :: tag.name.toList, by simp [Tag.closing], ?_, ?_⟩
  · simpa using hname.1
  · simpa using hname.2

mutual

/-- The brackets of the markup of an item whose texts hold none delimit its tags. -/
theorem isDelimited_pieces : (item : Markup) → IsWellFormed item →
    (∀ content ∈ texts item, ']' ∉ content.toList) → ∀ piece ∈ pieces item, piece.IsDelimited
  | text content, h, htexts, piece, hpiece => by
    obtain ⟨c, hc, rfl⟩ := List.mem_map.mp hpiece
    refine ⟨?_, ?_⟩
    · rintro rfl
      exact h.2 hc
    · rintro rfl
      exact htexts content (by simp [texts]) hc
  | element tag children, ⟨hproper, _, hchildren⟩, htexts, piece, hpiece => by
    rw [pieces] at hpiece
    split at hpiece
    · obtain rfl := List.mem_singleton.mp hpiece
      exact isDelimited_opening hproper _
    · simp only [List.mem_cons, List.mem_append, List.not_mem_nil, or_false] at hpiece
      rcases hpiece with rfl | hpiece | rfl
      · exact isDelimited_opening hproper _
      · exact isDelimited_piecesAll children hchildren htexts piece hpiece
      · exact isDelimited_closing hproper _

/-- The brackets of the markup of a forest whose texts hold none delimit its tags. -/
theorem isDelimited_piecesAll : (items : List Markup) → AreWellFormed items →
    (∀ content ∈ textsAll items, ']' ∉ content.toList) →
    ∀ piece ∈ piecesAll items, piece.IsDelimited
  | [], _, _, piece, hpiece => by simp [piecesAll] at hpiece
  | item :: items, ⟨hitem, _, hitems⟩, htexts, piece, hpiece => by
    rcases List.mem_append.mp hpiece with hpiece | hpiece
    · refine isDelimited_pieces item hitem (fun content hcontent => ?_) piece hpiece
      exact htexts content (List.mem_append_left _ hcontent)
    · refine isDelimited_piecesAll items hitems (fun content hcontent => ?_) piece hpiece
      exact htexts content (List.mem_append_right _ hcontent)

end

mutual

/-- A tag found in the markup of an item opens one of its elements, or has no attribute. -/
theorem mem_tags_of_mem_pieces : (item : Markup) → {token : TagToken} → {source : List Char} →
    .found token source ∈ pieces item → token.tag ∈ tags item ∨ token.tag.attributes = []
  | text content, token, source, h => by simp [pieces] at h
  | element tag children, token, source, h => by
    rw [pieces] at h
    split at h
    · obtain ⟨rfl, -⟩ := Piece.found.inj (List.mem_singleton.mp h)
      exact .inl List.mem_cons_self
    · simp only [List.mem_cons, List.mem_append, List.not_mem_nil, or_false] at h
      rcases h with h | h | h
      · obtain ⟨rfl, -⟩ := Piece.found.inj h
        exact .inl List.mem_cons_self
      · exact (mem_tagsAll_of_mem_piecesAll children h).imp_left (List.mem_cons_of_mem tag)
      · obtain ⟨rfl, -⟩ := Piece.found.inj h
        exact .inr rfl

/-- A tag found in the markup of a forest opens one of its elements, or has no attribute. -/
theorem mem_tagsAll_of_mem_piecesAll : (items : List Markup) → {token : TagToken} →
    {source : List Char} → .found token source ∈ piecesAll items →
    token.tag ∈ tagsAll items ∨ token.tag.attributes = []
  | [], token, source, h => by simp [piecesAll] at h
  | item :: items, token, source, h => by
    rcases List.mem_append.mp h with h | h
    · exact (mem_tags_of_mem_pieces item h).imp_left (List.mem_append_left _)
    · exact (mem_tagsAll_of_mem_piecesAll items h).imp_left (List.mem_append_right _)

end

end Markup

end PageMarkup
