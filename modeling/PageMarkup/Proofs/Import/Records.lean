import PageMarkup.Proofs.Import.Grid

/-!
# The records of a grid are read back

Features, statistics and columns keep their texts in records.  The cell of a record is read as a
record again, by a grid of its own kind as one with the same texts, up to the blanks around them and
the spelling of brackets.  A grid of columns may also hold the cells of features and statistics; it
keeps nothing of these.
-/

namespace PageMarkup

open Text Template

/-! ### What texts say -/

/-- What a text says: what is written for it, without the blanks around it. -/
def said (text : String) : List Char :=
  Escape.rich (trim text.toList)

/-- What the text says that properties hold under some names. -/
def Props.said? (names : List String) (props : Props) : Option (List Char) :=
  (props.text? names).map said

/-- Without the blanks around it a text says the same. -/
@[simp] theorem said_trimmed (text : String) : said (trimmed text) = said text := by
  rw [said, trimmed, String.toList_ofList, trim_trim, said]

/-- Without the blanks around it a text that may be missing says the same. -/
theorem map_said_trimmed (text : Option String) : (text.map trimmed).map said = text.map said := by
  cases text with
  | none => rfl
  | some content => rw [Option.map_some, Option.map_some, said_trimmed, Option.map_some]

/-- A text that is not blank is not blank without the blanks around it. -/
theorem nonblank?_map_trimmed {text : Option String} (h : nonblank? text = text) :
    nonblank? (text.map trimmed) = text.map trimmed := by
  cases text with
  | none => rfl
  | some content =>
    have hblank := allBlank_of_nonblank? h
    exact nonblank?_some (by rw [trimmed, String.toList_ofList, allBlank_trim, hblank])

/-- A text that is written as another one without its blanks says the same. -/
theorem said_eq_of_rich {text other : String}
    (h : Escape.rich text.toList = Escape.rich (trim other.toList)) : said text = said other := by
  rw [said, ← Escape.trim_rich, h, Escape.trim_rich, trim_trim, said]

namespace Element

/-- Rich text that an element holds is read back as a text that says the same. -/
theorem exists_richText_said {text : Option String} (h : nonblank? text = text) (tag : Tag) :
    ∃ read : Option String, nonblank? read = read ∧ read.map said = text.map said ∧
      nonempty? (Element.mk tag (Markup.held (Escape.rich (text.getD "").toList))).richText =
        read := by
  cases text with
  | none => exact ⟨none, rfl, rfl, nonempty?_richText_held_empty tag⟩
  | some content =>
    have hblank := allBlank_of_nonblank? h
    obtain ⟨read, hread, hsame, hback⟩ := exists_richText_trim hblank
    refine ⟨some read, nonblank?_some hread, ?_, hback tag⟩
    rw [Option.map_some, Option.map_some, said_eq_of_rich hsame]

/-- Rich text of an element that may be missing is read back as a text that says the same. -/
theorem exists_bind_richText_said {text : Option String} (h : nonblank? text = text) (tag : Tag) :
    ∃ read : Option String, nonblank? read = read ∧ read.map said = text.map said ∧
      ((text.map fun content => Element.mk tag (Markup.held (Escape.rich content.toList))).bind
        fun element => nonempty? element.richText) = read := by
  cases text with
  | none => exact ⟨none, rfl, rfl, rfl⟩
  | some content =>
    simpa only [Option.map_some, Option.bind_some, Option.getD_some] using
      exists_richText_said h tag

/-- Plain text of an element that may be missing is read back without the blanks around it. -/
theorem bind_plainText_trimmed {text : Option String} (h : nonblank? text = text) (tag : Tag) :
    ((text.map fun content => Element.mk tag (Markup.held (Escape.text content.toList))).bind
      fun element => nonempty? element.plainText) = text.map trimmed := by
  cases text with
  | none => rfl
  | some content =>
    have hblank := allBlank_of_nonblank? h
    rw [Option.map_some, Option.bind_some, plainText_held, Option.map_some]
    exact nonempty?_eq_some (by rw [trimmed, String.toList_ofList, allBlank_trim, hblank])

end Element

/-! ### Records and cells -/

namespace Kind

/-- The texts in the records of a grid, each with the names under which it is kept. -/
def recordTexts : Kind → List (List String)
  | featureGrid => [["title", "name"], ["icon"], ["description", "text", "content"]]
  | statsRow => [["value", "number"], ["label", "title"]]
  | columns => [titleNames, ["content", "text"]]
  | _ => []

/-- The cell of a record of a grid. -/
def cell (kind : Kind) (record : Props) : Forest :=
  match kind with
  | featureGrid => featureCell record
  | statsRow => statisticCell record
  | columns => columnCell record
  | _ => []

/-- The elements in the cell of a record. -/
def cellElements (kind : Kind) (record : Props) : List Element :=
  match kind with
  | featureGrid => [Element.ofFeature record]
  | statsRow => [Element.ofStatistic record]
  | columns => Element.ofColumn record
  | _ => []

variable (kind : Kind) (record : Props)

/-- The elements in the cell of a record are read back. -/
theorem elements_cell : Forest.elements (kind.cell record) = kind.cellElements record := by
  unfold cell cellElements
  split
  · exact Element.elements_featureCell record
  · exact Element.elements_statisticCell record
  · exact Element.elements_columnCell record
  · rfl

variable {kind record}

/-- The names of the elements in cells tell features and statistics from columns. -/
theorem name_of_mem_cellElements {element : Element} (h : element ∈ kind.cellElements record) :
    (kind = .featureGrid ∧ element.name = "blurb") ∨
      (kind = .statsRow ∧ element.name = "counter") ∨ element.name ∈ ["heading", "text"] := by
  unfold cellElements at h
  split at h
  · obtain rfl := List.mem_singleton.mp h
    exact .inl ⟨rfl, rfl⟩
  · obtain rfl := List.mem_singleton.mp h
    exact .inr (.inl ⟨rfl, rfl⟩)
  · exact .inr (.inr (by simpa using Element.name_of_mem_ofColumn h))
  · exact absurd h List.not_mem_nil

/-- Blurbs stand in the cells of features only. -/
theorem eq_featureGrid_of_name {element : Element} (h : element ∈ kind.cellElements record)
    (hname : element.name = "blurb") : kind = .featureGrid := by
  rcases name_of_mem_cellElements h with ⟨hkind, -⟩ | ⟨-, hother⟩ | hother
  · exact hkind
  · exact absurd (hname.symm.trans hother) (by decide)
  · exact absurd (hname ▸ hother) (by decide)

/-- Counters stand in the cells of statistics only. -/
theorem eq_statsRow_of_name {element : Element} (h : element ∈ kind.cellElements record)
    (hname : element.name = "counter") : kind = .statsRow := by
  rcases name_of_mem_cellElements h with ⟨-, hother⟩ | ⟨hkind, -⟩ | hother
  · exact absurd (hname.symm.trans hother) (by decide)
  · exact hkind
  · exact absurd (hname ▸ hother) (by decide)

/-- The cell of a record with a text is not empty. -/
theorem cellElements_ne_nil (h : ∃ names ∈ kind.recordTexts, (record.text? names).isSome = true) :
    kind.cellElements record ≠ [] := by
  obtain ⟨names, hnames, hshown⟩ := h
  unfold recordTexts at hnames
  unfold cellElements
  split at hnames
  · exact List.cons_ne_nil _ _
  · exact List.cons_ne_nil _ _
  · simp only [List.mem_cons, List.not_mem_nil, or_false] at hnames
    obtain ⟨content, hcontent⟩ := Option.isSome_iff_exists.mp hshown
    rcases hnames with rfl | rfl <;>
      simp [Element.ofColumn, columnTitle?, columnText?, hcontent]
  · exact absurd hnames List.not_mem_nil

end Kind

/-! ### Records that are read back -/

/-- The record that a grid of a kind keeps of a record that stood in a grid of the first kind: in a
grid of that kind one whose texts say the same, in another grid an empty one. -/
def IsReadBack (kind : Kind) (source : Kind × Props) (read : Props) : Prop :=
  if source.1 = kind then ∀ names ∈ kind.recordTexts, read.said? names = source.2.said? names
  else read = []

namespace Element

/-- A feature is read back. -/
theorem isReadBack_featureFields (feature : Props) :
    IsReadBack .featureGrid (.featureGrid, feature) (featureFields (ofFeature feature)) := by
  obtain ⟨read, hread, hsame, hback⟩ := exists_richText_said
    (nonblank?_text? ["description", "text", "content"] feature)
    ⟨"blurb", attributesOf (featureEntries (feature.text? ["title", "name"])
      (feature.text? ["icon"]))⟩
  have hdescription : nonempty? (ofFeature feature).richText = read := hback
  have hnames : [textField "title" (feature.text? ["title", "name"]),
    textField "icon" (feature.text? ["icon"]),
    textField "description" read].map Prod.fst = ["title", "icon", "description"] := rfl
  rw [IsReadBack, if_pos rfl, featureFields_ofFeature, hdescription]
  simp only [Kind.recordTexts, List.forall_mem_cons, Props.said?]
  refine ⟨?_, ?_, ?_, fun names hnone => absurd hnone List.not_mem_nil⟩
  · rw [text?_fieldsOf hnames (v := feature.text? ["title", "name"]) rfl (by decide),
      nonblank?_text?]
  · rw [text?_fieldsOf hnames (v := feature.text? ["icon"]) rfl (by decide), nonblank?_text?]
  · rw [text?_fieldsOf hnames (v := read) rfl (by decide), hread, hsame]

/-- A statistic is read back. -/
theorem isReadBack_statisticFields (statistic : Props) :
    IsReadBack .statsRow (.statsRow, statistic) (statisticFields (ofStatistic statistic)) := by
  have hnames : [textField "value" (statistic.text? ["value", "number"]),
    textField "label" (statistic.text? ["label", "title"])].map Prod.fst = ["value", "label"] := rfl
  rw [IsReadBack, if_pos rfl, statisticFields_ofStatistic]
  simp only [Kind.recordTexts, List.forall_mem_cons, Props.said?]
  refine ⟨?_, ?_, fun names hnone => absurd hnone List.not_mem_nil⟩
  · rw [text?_fieldsOf hnames (v := statistic.text? ["value", "number"]) rfl (by decide),
      nonblank?_text?]
  · rw [text?_fieldsOf hnames (v := statistic.text? ["label", "title"]) rfl (by decide),
      nonblank?_text?]

/-- A column is read back. -/
theorem isReadBack_columnFields_ofColumn (item : Props) :
    IsReadBack .columns (.columns, item) (columnFields (ofColumn item)) := by
  obtain ⟨read, hread, hsame, hback⟩ :=
    exists_bind_richText_said (nonblank?_text? ["content", "text"] item) ⟨"text", []⟩
  let title := (item.text? titleNames).map trimmed
  have htitle : nonblank? title = title := nonblank?_map_trimmed (nonblank?_text? titleNames item)
  have hnames : [textField "title" title, textField "content" read].map Prod.fst =
    ["title", "content"] := rfl
  have hfields : columnFields (ofColumn item) =
      fieldsOf [textField "title" title, textField "content" read] := by
    rw [columnFields_ofColumn, columnTitle?, columnText?, hback,
      bind_plainText_trimmed (nonblank?_text? titleNames item)]
  have htitleRead : (fieldsOf [textField "title" title, textField "content" read]).text?
      titleNames = title := by
    rw [titleNames, text?_fieldsOf hnames (v := title) rfl (by decide), htitle]
  rw [IsReadBack, if_pos rfl, hfields]
  simp only [Kind.recordTexts, List.forall_mem_cons, Props.said?]
  refine ⟨?_, ?_, fun names hnone => absurd hnone List.not_mem_nil⟩
  · rw [htitleRead, map_said_trimmed]
  · rw [text?_fieldsOf hnames (v := read) rfl (by decide), hread, hsame]

/-- A grid of columns reads back the records of columns, and keeps nothing of others. -/
theorem isReadBack_columnFields (kind : Kind) (item : Props) :
    IsReadBack .columns (kind, item) (columnFields (kind.cellElements item)) := by
  by_cases hkind : kind = .columns
  · subst hkind
    exact isReadBack_columnFields_ofColumn item
  · rw [IsReadBack, if_neg hkind]
    unfold Kind.cellElements
    split
    · rfl
    · rfl
    · exact absurd rfl hkind
    · rfl

end Element

end PageMarkup
