import PageMarkup.Proofs.Import.Content
import PageMarkup.Proofs.Markup.LineEnds
import PageMarkup.Proofs.Text.Spacing

/-!
# Line ends around markup are passed over

Texts are read without the blanks around them, blank texts are layout, and plans have no empty
lines.  So an element with a line end more at the end of what it holds is read as it is without it,
wherever the line end stands, and markup is read on lines of its own as it is read alone.
-/

namespace PageMarkup

open Text

/-! ### Elements that differ in a line end -/

/-- The elements are the same, up to a line end more at the end of what the second one holds. -/
inductive Element.Alike : Element → Element → Prop
  | same (element : Element) : Alike element element
  | trailing (tag : Tag) {children children' : Forest} (h : Forest.Trails children children') :
      Alike ⟨tag, children⟩ ⟨tag, children'⟩

namespace Forest

variable {forest forest' : Forest}

/-- The line end stands at the end of the text. -/
theorem Trails.textOfAll_eq (h : Trails forest forest') :
    Markup.textOfAll forest' = Markup.textOfAll forest ++ "\n" := by
  induction h with
  | own => rfl
  | text content => simp [Markup.textOfAll, Markup.textOf]
  | inside tag _ ih => simp [Markup.textOfAll, Markup.textOf, ih]
  | cons item _ ih => rw [Markup.textOfAll, Markup.textOfAll, ih, String.append_assoc]

/-- The elements in the forests are alike one by one. -/
theorem Trails.elements (h : Trails forest forest') :
    List.Forall₂ Element.Alike (Forest.elements forest) (Forest.elements forest') := by
  induction h with
  | own => exact .nil
  | text content => exact .nil
  | inside tag h _ => exact .cons (.trailing tag h) .nil
  | cons item _ ih =>
    cases item with
    | text content => exact ih
    | element tag children => exact .cons (.same ⟨tag, children⟩) ih

/-- The elements with a name are alike one by one. -/
theorem Trails.collectAll (h : Trails forest forest') (name : String) :
    List.Forall₂ Element.Alike (Markup.collectAll name forest)
      (Markup.collectAll name forest') := by
  induction h with
  | own => exact .nil
  | text content => exact .nil
  | inside tag h ih =>
    simp only [Markup.collectAll, Markup.collect, List.append_nil]
    split
    · exact .cons (.trailing tag h) .nil
    · exact ih
  | cons item _ ih =>
    exact List.rel_append (List.forall₂_same.mpr fun element _ => .same element) ih

/-- Of the elements with a name the first ones are alike. -/
theorem Trails.findInAll? (h : Trails forest forest') (name : String) :
    Option.Rel Element.Alike (Markup.findInAll? name forest)
      (Markup.findInAll? name forest') := by
  induction h with
  | own => exact .none
  | text content => exact .none
  | inside tag h ih =>
    simp only [Markup.findInAll?, Markup.findIn?, Option.orElse_eq_or, Option.or_none]
    split
    · exact .some (.trailing tag h)
    · exact ih
  | cons item _ ih =>
    rw [Markup.findInAll?, Markup.findInAll?]
    cases Markup.findIn? name item with
    | none => exact ih
    | some element => exact .some (.same element)

end Forest

/-! ### What elements say -/

/-- A line end more at the end of a plan names no feature. -/
theorem Element.planFeatures_append_newline (text : String) :
    planFeatures (text ++ "\n") = planFeatures text := by
  have hlines : splitWhere (· == '\n') (text.toList ++ ['\n']) =
      splitWhere (· == '\n') text.toList ++ [[]] :=
    splitWhere_append_of_cut (by decide) _ []
  have hchars : (text ++ "\n").toList = text.toList ++ ['\n'] := String.toList_append
  rw [planFeatures, hchars, hlines, List.map_append, List.filter_append]
  exact congrArg (List.map _) (List.append_nil _)

/-- A line end behind a text is trimmed away. -/
theorem trim_toList_append_newline (text : String) :
    trim (text ++ "\n").toList = trim text.toList := by
  rw [String.toList_append]
  exact trim_append_allBlank (by decide) _

section Lists

variable {α β : Type} {R : α → α → Prop} {items items' : List α}

/-- What is the same of related items is the same of lists of them. -/
theorem map_eq_of_forall₂ (h : List.Forall₂ R items items') {f : α → β}
    (hf : ∀ item item', R item item' → f item' = f item) : items'.map f = items.map f := by
  induction h with
  | nil => rfl
  | cons hitem _ ih => rw [List.map_cons, List.map_cons, ih, hf _ _ hitem]

theorem isEmpty_eq_of_forall₂ (h : List.Forall₂ R items items') :
    items'.isEmpty = items.isEmpty := by
  cases h <;> rfl

end Lists

namespace Element

variable {element element' : Element}

theorem rich_append_newline (text : String) : rich (text ++ "\n") = rich text := by
  rw [rich, trim_toList_append_newline, rich]

namespace Alike

theorem tag_eq (h : Alike element element') : element'.tag = element.tag := by
  cases h <;> rfl

theorem name_eq (h : Alike element element') : element'.name = element.name :=
  congrArg Tag.name h.tag_eq

theorem attribute?_eq (h : Alike element element') (key : String) :
    element'.attribute? key = element.attribute? key := by
  rw [attribute?, h.tag_eq, attribute?]

/-- What does not see a line end at the end of a text is the same of the texts of both. -/
theorem text_eq {β : Type} (h : Alike element element') {f : String → β}
    (hf : ∀ text, f (text ++ "\n") = f text) : f element'.text = f element.text := by
  cases h with
  | same => rfl
  | trailing tag h =>
    show f (Markup.textOfAll _) = _
    rw [h.textOfAll_eq]
    exact hf _

theorem plainText_eq (h : Alike element element') : element'.plainText = element.plainText :=
  h.text_eq fun text => by rw [plain, trimmed, trim_toList_append_newline, plain, trimmed]

theorem richText_eq (h : Alike element element') : element'.richText = element.richText :=
  h.text_eq rich_append_newline

theorem elements (h : Alike element element') :
    List.Forall₂ Alike element.elements element'.elements := by
  cases h with
  | same => exact List.forall₂_same.mpr fun inner _ => .same inner
  | trailing tag h => exact h.elements

theorem findAll (h : Alike element element') (name : String) :
    List.Forall₂ Alike (element.findAll name) (element'.findAll name) := by
  cases h with
  | same => exact List.forall₂_same.mpr fun inner _ => .same inner
  | trailing tag h => exact h.collectAll name

/-- Neither holds an element with the name, or the first ones are alike. -/
theorem find?_cases (h : Alike element element') (name : String) :
    (element.find? name = none ∧ element'.find? name = none) ∨
      ∃ inner inner', element.find? name = some inner ∧ element'.find? name = some inner' ∧
        Alike inner inner' := by
  have hrel : Option.Rel Alike (element.find? name) (element'.find? name) := by
    cases h with
    | same =>
      cases element.find? name with
      | none => exact .none
      | some inner => exact .some (.same inner)
    | trailing tag h => exact h.findInAll? name
  generalize element.find? name = found, element'.find? name = found' at hrel
  cases hrel with
  | none => exact .inl ⟨rfl, rfl⟩
  | some hinner => exact .inr ⟨_, _, rfl, rfl, hinner⟩

/-- What is the same of elements that are alike is the same of the first ones with a name. -/
theorem bind_find?_eq {β : Type} (h : Alike element element') (name : String)
    {f : Element → Option β} (hf : ∀ inner inner', Alike inner inner' → f inner' = f inner) :
    (element'.find? name).bind f = (element.find? name).bind f := by
  rcases h.find?_cases name with ⟨hnone, hnone'⟩ | ⟨inner, inner', hsome, hsome', hinner⟩
  · rw [hnone, hnone']
  · rw [hsome, hsome']
    exact hf inner inner' hinner

end Alike

/-! ### What elements are read as -/

section Lists

variable {elements elements' : List Element} (h : List.Forall₂ Alike elements elements')
include h

theorem toFeatures_eq_of_alike (columns : Nat) :
    toFeatures elements' columns = toFeatures elements columns := by
  have hrecords := map_eq_of_forall₂ h (f := fun blurb => recordOf [
    textField "title" (blurb.attribute? "title"),
    textField "icon" (blurb.attribute? "icon"),
    textField "description" (nonempty? blurb.richText)]) fun blurb blurb' hblurb => by
      simp only [hblurb.attribute?_eq, hblurb.richText_eq]
  rw [toFeatures, hrecords, toFeatures]

theorem toStatistics_eq_of_alike : toStatistics elements' = toStatistics elements := by
  have hrecords := map_eq_of_forall₂ h (f := fun counter => recordOf [
    textField "value" (counter.attribute? "number"),
    textField "label" (counter.attribute? "title")]) fun counter counter' hcounter => by
      simp only [hcounter.attribute?_eq]
  rw [toStatistics, hrecords, toStatistics]

theorem planRecords_eq_of_alike (node : Node) :
    planRecords node elements' = planRecords node elements := by
  induction h with
  | nil => rfl
  | cons htable _ ih =>
    have hfeatures := htable.text_eq planFeatures_append_newline
    simp only [planRecords, htable.attribute?_eq, hfeatures, ih]

theorem toPricing_eq_of_alike : toPricing elements' = toPricing elements := by
  simp only [toPricing, isEmpty_eq_of_forall₂ h, planRecords_eq_of_alike h]

theorem toQuestions_eq_of_alike : toQuestions elements' = toQuestions elements := by
  have hrecords := map_eq_of_forall₂ h (f := questionRecord?) fun toggle toggle' htoggle => by
    rw [questionRecord?, htoggle.attribute?_eq, htoggle.richText_eq, questionRecord?]
  have hquestions : elements'.filterMap questionRecord? = elements.filterMap questionRecord? := by
    have hid (toggles : List Element) :
        toggles.filterMap questionRecord? = (toggles.map questionRecord?).filterMap id := by
      rw [List.filterMap_map]
      rfl
    rw [hid, hrecords, hid]
  rw [toQuestions, hquestions, toQuestions]

/-- The cell has the same first element with a name, up to a line end. -/
theorem columnRecord_eq_of_alike : columnRecord elements' = columnRecord elements := by
  have hfirst {f : Element → Option String}
      (hf : ∀ inner inner', Alike inner inner' → f inner' = f inner) (name : String) :
      (elements'.find? fun element => element.name == name).bind f =
        (elements.find? fun element => element.name == name).bind f := by
    induction h with
    | nil => rfl
    | cons hinner _ ih =>
      rw [List.find?_cons, List.find?_cons, hinner.name_eq]
      split
      · exact hf _ _ hinner
      · exact ih
  have htitle := hfirst (f := fun heading => nonempty? heading.plainText)
    (fun inner inner' hinner => by rw [hinner.plainText_eq]) "heading"
  have htext := hfirst (f := fun text => nonempty? text.richText)
    (fun inner inner' hinner => by rw [hinner.richText_eq]) "text"
  simp only [columnRecord, htitle, htext]

end Lists

/-- Rows that are alike have alike cells. -/
theorem Alike.cells (h : Alike element element') :
    List.Forall₂ (List.Forall₂ Alike) element.cells element'.cells := by
  have hcolumns : List.Forall₂ Alike (element.elements.filter (·.name == "column_inner"))
      (element'.elements.filter (·.name == "column_inner")) :=
    List.rel_filter (fun inner inner' hinner => by simp [hinner.name_eq]) h.elements
  rw [Element.cells, Element.cells]
  generalize element.elements.filter (·.name == "column_inner") = columns,
    element'.elements.filter (·.name == "column_inner") = columns' at hcolumns
  cases hcolumns with
  | nil => exact List.rel_map (fun _ _ hinner => .cons hinner .nil) h.elements
  | cons hcolumn hrest =>
    exact List.rel_map (fun _ _ hinner => hinner.elements) (.cons hcolumn hrest)

section Cells

variable {cells cells' : List (List Element)} (h : List.Forall₂ (List.Forall₂ Alike) cells cells')
include h

theorem reportDropped_eq_of_alike (node : Node) :
    reportDropped node cells' = reportDropped node cells := by
  induction h with
  | nil => rfl
  | @cons cell cell' _ _ hcell _ ih =>
    have hnames := map_eq_of_forall₂ hcell (f := Element.name) fun _ _ hinner => hinner.name_eq
    have hcount (p : String → Bool) : (cell'.countP fun element => p element.name) =
        cell.countP fun element => p element.name := by
      have hmap := congrArg (List.countP p) hnames
      rwa [List.countP_map, List.countP_map] at hmap
    simp only [reportDropped, hcount fun name => name != "heading" && name != "text", ih]

end Cells

/-- Rows that are alike one by one make the same grid. -/
theorem toGrid_eq_of_alike {rows rows' : List Element} (h : List.Forall₂ Alike rows rows') :
    toGrid rows' = toGrid rows := by
  have hrows : List.Forall₂ (List.Forall₂ (List.Forall₂ Alike)) (rows.map cells)
      (rows'.map cells) := List.rel_map (fun _ _ hrow => hrow.cells) h
  have hcells := List.rel_flatten hrows
  have hcontents := List.rel_flatten hcells
  have hnames := map_eq_of_forall₂ hcontents (f := Element.name) fun _ _ hinner => hinner.name_eq
  have hall (name : String) : ((rows'.map cells).flatten.flatten.all fun element =>
      element.name == name) = (rows.map cells).flatten.flatten.all fun element =>
        element.name == name := by
    have hmap := congrArg (fun names => names.all (· == name)) hnames
    rwa [List.all_map, List.all_map] at hmap
  have hlengths := map_eq_of_forall₂ hrows (f := List.length)
    fun _ _ hcells => hcells.length_eq.symm
  have hrecords := map_eq_of_forall₂ hcells fun _ _ hcell => columnRecord_eq_of_alike hcell
  simp only [toGrid, isEmpty_eq_of_forall₂ hcontents, hall, hlengths, hrecords,
    toFeatures_eq_of_alike hcontents, toStatistics_eq_of_alike hcontents,
    reportDropped_eq_of_alike hcells]

theorem flush_eq_of_alike {rows rows' : List Element} (h : List.Forall₂ Alike rows rows') :
    flush rows' = flush rows := by
  rw [flush, isEmpty_eq_of_forall₂ h, toGrid_eq_of_alike h, flush]

/-- Boxes that are alike are read as the same node. -/
theorem toBox_eq_of_alike (h : Alike element element') : element'.toBox = element.toBox := by
  have hlevel := h.bind_find?_eq "heading" (f := (·.attribute? "level"))
    fun _ _ hinner => hinner.attribute?_eq "level"
  have htitle := h.bind_find?_eq "heading" (f := fun heading => nonempty? heading.plainText)
    fun _ _ hinner => by rw [hinner.plainText_eq]
  have hbody := h.bind_find?_eq "text" (f := fun text => nonempty? text.richText)
    fun _ _ hinner => by rw [hinner.richText_eq]
  simp only [toBox, hlevel, htitle, hbody, h.attribute?_eq]
  generalize ((element.find? "heading").bind (·.attribute? "level") == some "1") = isHero
  rcases h.find?_cases "button" with ⟨hbutton, hbutton'⟩ | ⟨_, _, hbutton, hbutton', hlabel⟩
  · rcases h.find?_cases "image" with ⟨himage, himage'⟩ | ⟨_, _, himage, himage', hsrc⟩
    · simp only [hbutton, hbutton', himage, himage']
    · cases isHero <;> simp [hbutton, hbutton', himage, himage', hsrc.attribute?_eq]
  · rcases h.find?_cases "image" with ⟨himage, himage'⟩ | ⟨_, _, himage, himage', hsrc⟩
    · simp only [hbutton, hbutton', himage, himage', hlabel.plainText_eq, hlabel.attribute?_eq]
    · cases isHero <;> simp [hbutton, hbutton', himage, himage', hlabel.plainText_eq,
        hlabel.attribute?_eq, hsrc.attribute?_eq]

/-- Elements that are alike are read as the same nodes. -/
theorem toNodes_eq_of_alike (h : Alike element element') : element'.toNodes = element.toNodes := by
  have hone : List.Forall₂ Alike [element] [element'] := .cons h .nil
  unfold toNodes
  rw [h.name_eq]
  split
  · simp only [toHeading, h.plainText_eq, h.attribute?_eq]
  · simp only [toText, h.richText_eq, h.attribute?_eq]
  · simp only [toImage, h.attribute?_eq]
  · simp only [toButton, h.plainText_eq, h.attribute?_eq]
  · simp only [toDivider, h.attribute?_eq]
  · simp only [toSpacer, h.attribute?_eq]
  · exact toBox_eq_of_alike h
  · exact toPricing_eq_of_alike (h.findAll "pricing_table")
  · exact toPricing_eq_of_alike hone
  · simp only [toTestimonial, h.plainText_eq, h.attribute?_eq]
  · exact toQuestions_eq_of_alike (h.findAll "toggle")
  · exact toQuestions_eq_of_alike hone
  · exact toFeatures_eq_of_alike hone 1
  · exact toStatistics_eq_of_alike hone
  · simp only [toUnknown, h.richText_eq, h.name_eq]

end Element

/-! ### What forests are read as -/

namespace Markup

/-- A blank text has no text in a line end more. -/
theorem allBlank_append_newline (content : String) :
    allBlank (content ++ "\n").toList = allBlank content.toList := by
  rw [← allBlank_trim, trim_toList_append_newline, allBlank_trim]

/-- A line end behind markup is passed over. -/
theorem toNodesAll_eq_of_trails {items items' : Forest} (h : Forest.Trails items items')
    (rows : List Element) : toNodesAll rows items' = toNodesAll rows items := by
  induction h generalizing rows with
  | own => exact toNodesAll_newline rows []
  | text content =>
    simp only [toNodesAll, looseText, allBlank_append_newline, Element.rich_append_newline]
  | @inside tag children children' h ih =>
    have halike : Element.Alike ⟨tag, children⟩ ⟨tag, children'⟩ := .trailing tag h
    have hrows : List.Forall₂ Element.Alike (rows ++ [⟨tag, children⟩])
        (rows ++ [⟨tag, children'⟩]) :=
      List.rel_append (List.forall₂_same.mpr fun row _ => .same row) (.cons halike .nil)
    simp only [toNodesAll, toNodes, Element.flush_eq_of_alike hrows,
      Element.toNodes_eq_of_alike halike, ih]
  | cons item _ ih =>
    cases item with
    | text content => simp only [toNodesAll, ih]
    | element tag children => simp only [toNodesAll, ih]

/-- A line end in front of markup is passed over. -/
theorem toNodesAll_eq_of_leads {items items' : Forest} (h : Forest.Leads items items')
    (rows : List Element) : toNodesAll rows items' = toNodesAll rows items := by
  cases h with
  | own => exact toNodesAll_newline rows items
  | text content items =>
    have htrim : trim ("\n" ++ content).toList = trim content.toList := by
      rw [String.toList_append]
      exact trim_append_of_allBlank (by decide) _
    have hblank : allBlank ("\n" ++ content).toList = allBlank content.toList := by
      rw [← allBlank_trim, htrim, allBlank_trim]
    simp only [toNodesAll, looseText, hblank, Element.rich, htrim]

end Markup

/-- Markup on lines of its own is read as it is read alone. -/
theorem Forest.toNodes_read_lines (cs : List Char) :
    (read ('\n' :: cs ++ ['\n'])).toNodes = (read cs).toNodes := by
  rw [toNodes, Markup.toNodesAll_eq_of_trails (trails_read ('\n' :: cs)),
    Markup.toNodesAll_eq_of_leads (leads_read cs), toNodes]

end PageMarkup
