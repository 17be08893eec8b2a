import PageMarkup.Proofs.Import.Drafts
import PageMarkup.Proofs.Import.Readings
import PageMarkup.Proofs.Markup.Standing

/-!
# Elements that keep what they read

An element that is read without a warning keeps what it reads of a run of text: some text in the
node that is made contains it.  Single elements read all of the text inside them, groups that of the
parts they are looked through for, and rows that of the elements in their cells.
-/

namespace PageMarkup

open Text

/-! ### Texts in a value -/

namespace Value

mutual

/-- The texts in a value, however deep. -/
def texts : Value → List String
  | .text content => [content]
  | .list items => itemTexts items
  | .record fields => fieldTexts fields
  | _ => []

/-- The texts in some values. -/
def itemTexts : List Value → List String
  | [] => []
  | item :: items => texts item ++ itemTexts items

/-- The texts in the values of some fields. -/
def fieldTexts : List (String × Value) → List String
  | [] => []
  | (_, value) :: fields => texts value ++ fieldTexts fields

end

/-- Some text in the value contains the part. -/
def Shows (part : List Char) (value : Value) : Prop :=
  ∃ content ∈ value.texts, part <:+: content.toList

instance (part : List Char) (value : Value) : Decidable (value.Shows part) :=
  inferInstanceAs (Decidable (∃ content ∈ value.texts, part <:+: content.toList))

variable {part : List Char}

theorem shows_text {content : String} (h : part <:+: content.toList) :
    (Value.text content).Shows part :=
  ⟨content, List.mem_singleton_self content, h⟩

/-- A list shows what one of its items shows. -/
theorem Shows.list {item : Value} {items : List Value} (hitem : item ∈ items)
    (h : item.Shows part) : (Value.list items).Shows part := by
  obtain ⟨content, hcontent, hpart⟩ := h
  have hmem : ∀ items : List Value, item ∈ items → content ∈ itemTexts items := by
    intro items hitem
    induction items with
    | nil => exact absurd hitem List.not_mem_nil
    | cons first items ih =>
      rcases List.mem_cons.mp hitem with rfl | hitem
      · exact List.mem_append_left _ hcontent
      · exact List.mem_append_right _ (ih hitem)
  exact ⟨content, hmem items hitem, hpart⟩

/-- A record shows what one of its fields shows. -/
theorem Shows.record {name : String} {value : Value} {fields : Props}
    (hfield : Dict.get? name fields = some value) (h : value.Shows part) :
    (Value.record fields).Shows part := by
  obtain ⟨content, hcontent, hpart⟩ := h
  have hmem : ∀ fields : Props, (name, value) ∈ fields → content ∈ fieldTexts fields := by
    intro fields hfield
    induction fields with
    | nil => exact absurd hfield List.not_mem_nil
    | cons first fields ih =>
      rcases List.mem_cons.mp hfield with rfl | hfield
      · exact List.mem_append_left _ hcontent
      · exact List.mem_append_right _ (ih hfield)
  exact ⟨content, hmem fields (Dict.mem_of_get? hfield), hpart⟩

end Value

namespace Node

/-- Some text in the values of the properties contains the part. -/
def Holds (part : List Char) (node : Node) : Prop :=
  ∃ entry ∈ node.props, entry.2.Shows part

instance (part : List Char) (node : Node) : Decidable (node.Holds part) :=
  inferInstanceAs (Decidable (∃ entry ∈ node.props, entry.2.Shows part))

variable {part : List Char} {node : Node}

theorem holds_of_get? (name : String) {value : Value} (h : Dict.get? name node.props = some value)
    (hvalue : value.Shows part) : node.Holds part :=
  ⟨(name, value), Dict.mem_of_get? h, hvalue⟩

/-- A node holds what a record in one of its properties shows. -/
theorem holds_of_record (name key : String) {records : List Value} {fields : Props} {value : Value}
    (h : Dict.get? name node.props = some (.list records)) (hrecord : .record fields ∈ records)
    (hfield : Dict.get? key fields = some value) (hvalue : value.Shows part) : node.Holds part :=
  holds_of_get? name h (.list hrecord (.record hfield hvalue))

end Node

/-! ### Drafting without a warning -/

namespace Drafting

variable {α β : Type} {limit : Nat} {made : List Kind}

/-- The computation leaves no warning when it starts with nodes of the kinds `made`. -/
def IsQuiet (limit : Nat) (made : List Kind) (x : Drafting α) : Prop :=
  ∀ entry ∈ (x.run made).entries limit, entry.phase ≠ .warn

theorem isQuiet_bind_iff {x : Drafting α} {f : α → Drafting β} :
    (x >>= f).IsQuiet limit made ↔ x.IsQuiet limit made ∧
      (f (x.result limit made).1).IsQuiet limit (x.result limit made).2 :=
  List.forall_mem_append

/-- A warning is not quiet. -/
theorem not_isQuiet_warn (message : String) : ¬ (note .warn message).IsQuiet limit made :=
  fun h => h ⟨.warn, message, none⟩ (List.mem_singleton_self _) rfl

variable {P : Node → Prop} {x y z : Drafting (List Node)}

/-- Some node that is made has the property, unless there is a warning. -/
def Keeps (P : Node → Prop) (x : Drafting (List Node)) : Prop :=
  ∀ limit made, x.IsQuiet limit made → ∃ node ∈ (x.result limit made).1, P node

theorem Ensures.keeps (h : x.Ensures fun nodes => ∃ node ∈ nodes, P node) : x.Keeps P :=
  fun limit made _ => h limit made

/-- Whatever follows a warning, nothing is said about it. -/
theorem keeps_warn (message : String) (x : Drafting (List Node)) :
    Keeps P (do
      note .warn message
      x) :=
  fun _ _ hquiet => absurd (isQuiet_bind_iff.mp hquiet).1 (not_isQuiet_warn message)

/-- Of computations one after another, the first keeps what it keeps. -/
theorem Keeps.before (h : x.Keeps P) : Keeps P (do
    let before ← x
    let here ← y
    return before ++ here ++ (← z)) := by
  intro limit made hquiet
  obtain ⟨node, hnode, hP⟩ := h limit made (isQuiet_bind_iff.mp hquiet).1
  exact ⟨node, List.mem_append_left _ (List.mem_append_left _ hnode), hP⟩

/-- Of computations one after another, the second keeps what it keeps. -/
theorem Keeps.here (h : y.Keeps P) : Keeps P (do
    let before ← x
    let here ← y
    return before ++ here ++ (← z)) := by
  intro limit made hquiet
  obtain ⟨-, hrest⟩ := isQuiet_bind_iff.mp hquiet
  obtain ⟨node, hnode, hP⟩ := h limit _ (isQuiet_bind_iff.mp hrest).1
  exact ⟨node, List.mem_append_left _ (List.mem_append_right _ hnode), hP⟩

/-- Of computations one after another, the last keeps what it keeps. -/
theorem Keeps.after (h : z.Keeps P) : Keeps P (do
    let before ← x
    let here ← y
    return before ++ here ++ (← z)) := by
  intro limit made hquiet
  obtain ⟨-, hrest⟩ := isQuiet_bind_iff.mp hquiet
  obtain ⟨-, hlast⟩ := isQuiet_bind_iff.mp hrest
  obtain ⟨node, hnode, hP⟩ := h limit _ (isQuiet_bind_iff.mp hlast).1
  exact ⟨node, List.mem_append_right _ hnode, hP⟩

end Drafting

/-! ### Parts of a text that is read -/

namespace Element

variable {element : Element} {run part : List Char}

/-- A text that contains something is not empty. -/
theorem nonempty?_of_isInfix {text : String} (hne : part ≠ []) (h : part <:+: text.toList) :
    nonempty? text = some text := by
  rw [nonempty?, if_neg]
  rintro rfl
  exact hne (List.eq_nil_of_infix_nil h)

/-- What is kept of a run that is not blank is not empty. -/
theorem ne_nil_of_mem_kept {reading : Reading} (hrun : allBlank run = false)
    (hpart : part ∈ reading.kept run) : part ≠ [] := by
  have hne : trim run ≠ [] := fun hnil => by simp [trim_eq_nil_iff.mp hnil] at hrun
  have hbracket : Escape.unbracket (trim run) ≠ [] := by
    rw [Escape.unbracket_eq]
    exact replaceFound_ne_nil Escape.progresses_readBracket hne
  cases reading with
  | loose => exact List.mem_singleton.mp hpart ▸ hbracket
  | plain =>
    rw [List.mem_singleton.mp hpart]
    exact replaceFound_ne_nil Entity.progresses_reference? hne
  | rich => exact List.mem_singleton.mp hpart ▸ hbracket
  | lines =>
    obtain ⟨line, hline, rfl⟩ := List.mem_map.mp hpart
    have hshown : line ≠ [] := by simpa using (List.mem_filter.mp hline).2
    exact replaceFound_ne_nil Entity.progresses_reference? hshown

/-- What is kept of a whole run shows in the plain text around it. -/
theorem isInfix_plainText (hrun : allBlank run = false)
    (hwhole : IsWholeIn (IsRecognized Reading.plain.reference?) run element.text.toList)
    (hpart : part ∈ Reading.plain.kept run) : part <:+: element.plainText.toList :=
  List.mem_singleton.mp hpart ▸ isInfix_plain hwhole hrun

/-- What is kept of a whole run shows in the rich text around it. -/
theorem isInfix_richText (hrun : allBlank run = false)
    (hwhole : IsWholeIn (IsRecognized Reading.rich.reference?) run element.text.toList)
    (hpart : part ∈ Reading.rich.kept run) : part <:+: element.richText.toList :=
  List.mem_singleton.mp hpart ▸ isInfix_rich hwhole hrun

/-! ### Single elements -/

section Single

variable (hne : part ≠ [])
include hne

theorem keeps_toHeading (h : part <:+: element.plainText.toList) :
    element.toHeading.Keeps (Node.Holds part) := by
  refine Drafting.Ensures.keeps fun limit made => ?_
  rw [result_toHeading (nonempty?_of_isInfix hne h)]
  exact ⟨_, List.mem_singleton_self _, Node.holds_of_get? "title" (by simp) (Value.shows_text h)⟩

theorem keeps_toButton (h : part <:+: element.plainText.toList) :
    element.toButton.Keeps (Node.Holds part) := by
  refine Drafting.Ensures.keeps fun limit made => ?_
  rw [result_toButton (nonempty?_of_isInfix hne h)]
  exact ⟨_, List.mem_singleton_self _, Node.holds_of_get? "label" (by simp) (Value.shows_text h)⟩

theorem keeps_toTestimonial (h : part <:+: element.plainText.toList) :
    element.toTestimonial.Keeps (Node.Holds part) := by
  refine Drafting.Ensures.keeps fun limit made => ?_
  rw [result_toTestimonial (nonempty?_of_isInfix hne h)]
  exact ⟨_, List.mem_singleton_self _, Node.holds_of_get? "quote" (by simp) (Value.shows_text h)⟩

theorem keeps_toText (h : part <:+: element.richText.toList) :
    element.toText.Keeps (Node.Holds part) := by
  refine Drafting.Ensures.keeps fun limit made => ?_
  rw [result_toText (nonempty?_of_isInfix hne h)]
  exact ⟨_, List.mem_singleton_self _, Node.holds_of_get? "text" (by simp) (Value.shows_text h)⟩

omit hne in
/-- An element outside the vocabulary is never read without a warning. -/
theorem keeps_toUnknown (element : Element) : element.toUnknown.Keeps (Node.Holds part) := by
  rw [toUnknown]
  split
  · exact Drafting.keeps_warn _ _
  · exact Drafting.keeps_warn _ _

/-! ### Boxes -/

omit hne in
/-- The node of a box holds what its title, its label and its text contain. -/
theorem holds_node_box {box : BoxContent} {text : String}
    (hbox : box.title = some text ∨ box.label = some text ∨ box.body = some text)
    (h : part <:+: text.toList) (made : List Kind) : (box.node made).Holds part := by
  have hshown := Value.shows_text h
  cases hhero : box.isHero with
  | true =>
    rcases hbox with htext | htext | htext
    · exact Node.holds_of_get? "title" (by simp [BoxContent.node, htext, hhero]) hshown
    · exact Node.holds_of_get? "ctaLabel" (by simp [BoxContent.node, htext, hhero]) hshown
    · exact Node.holds_of_get? "subtitle" (by simp [BoxContent.node, htext, hhero]) hshown
  | false =>
    rcases hbox with htext | htext | htext
    · exact Node.holds_of_get? "title" (by simp [BoxContent.node, htext, hhero]) hshown
    · exact Node.holds_of_get? "buttonLabel" (by simp [BoxContent.node, htext, hhero]) hshown
    · exact Node.holds_of_get? "text" (by simp [BoxContent.node, htext, hhero]) hshown

omit hne in
theorem keeps_toBox_of_found {text : String}
    (hbox : (BoxContent.found element).title = some text ∨
      (BoxContent.found element).label = some text ∨ (BoxContent.found element).body = some text)
    (h : part <:+: text.toList) : element.toBox.Keeps (Node.Holds part) := by
  refine Drafting.Ensures.keeps fun limit made => ?_
  rw [BoxContent.result_toBox]
  generalize BoxContent.found element = box at hbox ⊢
  exact ⟨box.node made, List.mem_cons_self, holds_node_box hbox h made⟩

/-- A box keeps what its first heading and its first button read. -/
theorem keeps_toBox_plain {name : String} (hname : name ∈ ["heading", "button"])
    {inner : Element} (hinner : element.find? name = some inner)
    (h : part <:+: inner.plainText.toList) : element.toBox.Keeps (Node.Holds part) := by
  have hread := nonempty?_of_isInfix hne h
  refine keeps_toBox_of_found ?_ h
  simp only [List.mem_cons, List.not_mem_nil, or_false] at hname
  rcases hname with rfl | rfl
  · exact .inl (by simp only [BoxContent.found, hinner, Option.bind_some, hread])
  · exact .inr (.inl (by simp only [BoxContent.found, hinner, Option.bind_some, hread]))

/-- A box keeps what its first text reads. -/
theorem keeps_toBox_rich {inner : Element} (hinner : element.find? "text" = some inner)
    (h : part <:+: inner.richText.toList) : element.toBox.Keeps (Node.Holds part) := by
  have hread := nonempty?_of_isInfix hne h
  refine keeps_toBox_of_found (.inr (.inr ?_)) h
  simp only [BoxContent.found, hinner, Option.bind_some, hread]

/-! ### Features, plans and questions -/

/-- Features keep what each of their elements reads. -/
theorem keeps_toFeatures {blurbs : List Element} (hblurb : element ∈ blurbs)
    (h : part <:+: element.richText.toList) (columns : Nat) :
    (toFeatures blurbs columns).Keeps (Node.Holds part) := by
  refine Drafting.Ensures.keeps fun limit made => ?_
  rw [result_toFeatures]
  refine ⟨_, List.mem_singleton_self _, ?_⟩
  have hrecord : Value.record (featureFields element) ∈
      (blurbs.map featureFields).map Value.record :=
    List.mem_map_of_mem (List.mem_map_of_mem hblurb)
  have hfield : Dict.get? "description" (featureFields element) =
      some (.text element.richText) := by
    rw [featureFields, nonempty?_of_isInfix hne h, get?_fieldsOf _ (by simp [textField])]
    rfl
  exact Node.holds_of_record "features" "description" (by simp) hrecord hfield (Value.shows_text h)

/-- Questions keep what each of their elements with a title reads. -/
theorem keeps_toQuestions {toggles : List Element} (htoggle : element ∈ toggles)
    {question : String} (hquestion : element.attribute? "title" = some question)
    (h : part <:+: element.richText.toList) : (toQuestions toggles).Keeps (Node.Holds part) := by
  refine Drafting.Ensures.keeps fun limit made => ?_
  obtain ⟨items, hitems, -⟩ := exists_filterMap_questionRecord? toggles
  let fields := fieldsOf [textField "question" (some question),
    textField "answer" (some element.richText)]
  have hrecord : Value.record fields ∈ items.map Value.record := by
    rw [← hitems]
    refine List.mem_filterMap.mpr ⟨element, htoggle, ?_⟩
    rw [questionRecord?, hquestion, nonempty?_of_isInfix hne h]
    rfl
  have hsome : items ≠ [] := by
    rintro rfl
    exact absurd hrecord List.not_mem_nil
  have hfield : Dict.get? "answer" fields = some (.text element.richText) := by
    rw [get?_fieldsOf _ (by simp [textField])]
    rfl
  rw [result_toQuestions hitems hsome]
  refine ⟨_, List.mem_singleton_self _, ?_⟩
  exact Node.holds_of_record "items" "answer" (by simp) hrecord hfield (Value.shows_text h)

/-- A question without a title is reported. -/
theorem keeps_toQuestions_singleton (h : part <:+: element.richText.toList) :
    (toQuestions [element]).Keeps (Node.Holds part) := by
  cases hquestion : element.attribute? "title" with
  | some question => exact keeps_toQuestions hne (List.mem_singleton_self _) hquestion h
  | none =>
    have hnone : [element].filterMap questionRecord? = [] := by
      rw [List.filterMap_cons_none (by rw [questionRecord?, hquestion]; rfl)]
      rfl
    rw [toQuestions, hnone]
    exact Drafting.keeps_warn _ _

end Single

/-- Plans keep what each of their features reads. -/
theorem keeps_toPricing {tables : List Element} (htable : element ∈ tables) {feature : String}
    (hfeature : Value.text feature ∈ planFeatures element.text) (h : part <:+: feature.toList) :
    (toPricing tables).Keeps (Node.Holds part) := by
  refine Drafting.Ensures.keeps fun limit made => ?_
  have hsome : tables.isEmpty = false := by
    cases tables with
    | nil => exact absurd htable List.not_mem_nil
    | cons first tables => rfl
  have hrecord : Value.record (planFields element) ∈
      tables.map fun table => Value.record (planFields table) :=
    List.mem_map_of_mem htable
  have hfield : Dict.get? "features" (planFields element) =
      some (.list (planFeatures element.text)) := by
    rw [planFields, fieldsOfPlan, get?_fieldsOf _ (by simp [textField])]
    rfl
  rw [toPricing, hsome]
  simp only [Bool.false_eq_true, if_false, Drafting.result_bind, Drafting.result_node,
    result_planRecords, Drafting.result_pure]
  refine ⟨_, List.mem_singleton_self _, ?_⟩
  exact Node.holds_of_record "plans" "features" (by simp) hrecord hfield
    (.list hfeature (Value.shows_text h))

/-! ### Grids -/

/-- Columns that are made without a warning hold headings and texts only. -/
theorem name_of_isQuiet_reportDropped {node : Node} {cells : List (List Element)} {limit : Nat}
    {made : List Kind} (h : (reportDropped node cells).IsQuiet limit made) :
    ∀ cell ∈ cells, ∀ item ∈ cell, item.name = "heading" ∨ item.name = "text" := by
  induction cells with
  | nil => exact List.forall_mem_nil _
  | cons cell cells ih =>
    rw [reportDropped] at h
    dsimp only at h
    split at h
    · exact absurd (Drafting.isQuiet_bind_iff.mp h).1 (Drafting.not_isQuiet_warn _)
    · rename_i hnone
      refine List.forall_mem_cons.mpr ⟨fun item hitem => ?_, ih h⟩
      have hcount : (cell.countP fun element =>
          element.name != "heading" && element.name != "text") = 0 := by omega
      have hitem := List.countP_eq_zero.mp hcount item hitem
      simp only [Bool.and_eq_true, bne_iff_ne, ne_eq, not_and_or, not_not] at hitem
      exact hitem

/-- What a cell of some rows reads of its first heading, its first text and everything else. -/
inductive ReadsCell (cell below : List Element) : Reading → Prop
  | heading {inner : Element} (h : cell.find? (·.name == "heading") = some inner)
      (hbelow : inner ∈ below) : ReadsCell cell below .plain
  | text {inner : Element} (h : cell.find? (·.name == "text") = some inner)
      (hbelow : inner ∈ below) : ReadsCell cell below .rich
  | other {inner : Element} (h : inner ∈ cell) (hname : inner.name ∉ ["heading", "text"])
      (hbelow : inner ∈ below) : ReadsCell cell below .rich

section Run

variable {below : List Element} {reading : Reading} (hrun : allBlank run = false)
  (hwhole : ∀ inner ∈ below, IsWholeIn (IsRecognized reading.reference?) run inner.text.toList)
  (hpart : part ∈ reading.kept run)
include hrun hwhole hpart

/-- Columns keep what their cells read. -/
theorem keeps_columns {contents : List (List Element)} {cell : List Element}
    (hcell : cell ∈ contents) (h : ReadsCell cell below reading) :
    Drafting.Keeps (Node.Holds part) (do
      let node ← Drafting.node .columns
      reportDropped node contents
      return [node.withProp "columns" (.list (contents.map columnRecord))]) := by
  intro limit made hquiet
  have hne := ne_nil_of_mem_kept hrun hpart
  -- without a warning every name in a cell is known, so the last case is impossible
  have hnames := name_of_isQuiet_reportDropped
    (Drafting.isQuiet_bind_iff.mp (Drafting.isQuiet_bind_iff.mp hquiet).2).1 cell hcell
  have hrecord : Value.record (columnFields cell) ∈ contents.map columnRecord :=
    List.mem_map_of_mem hcell
  simp only [Drafting.result_bind, Drafting.result_node, result_reportDropped, Drafting.result_pure]
  refine ⟨_, List.mem_cons_self, ?_⟩
  cases h with
  | @heading inner hfind hbelow =>
    have hshown := isInfix_plainText hrun (hwhole inner hbelow) hpart
    have hfield : Dict.get? "title" (columnFields cell) = some (.text inner.plainText) := by
      rw [columnFields, hfind, Option.bind_some, nonempty?_of_isInfix hne hshown,
        get?_fieldsOf _ (by simp [textField])]
      rfl
    exact Node.holds_of_record "columns" "title" (by simp) hrecord hfield (Value.shows_text hshown)
  | @text inner hfind hbelow =>
    have hshown := isInfix_richText hrun (hwhole inner hbelow) hpart
    have hfield : Dict.get? "content" (columnFields cell) = some (.text inner.richText) := by
      rw [columnFields, hfind, Option.bind_some, nonempty?_of_isInfix hne hshown,
        get?_fieldsOf _ (by simp [textField])]
      rfl
    exact Node.holds_of_record "columns" "content" (by simp) hrecord hfield
      (Value.shows_text hshown)
  | @other inner hinner hname hbelow =>
    exact absurd (by simpa using hnames inner hinner) hname

/-- A grid keeps what the cells of its rows read. -/
theorem keeps_toGrid (hvoid : ∀ inner ∈ below, Markup.isVoid inner.name = false)
    {rows : List Element} {row : Element} (hrow : row ∈ rows) {cell : List Element}
    (hcell : cell ∈ cells row) (h : ReadsCell cell below reading) :
    (toGrid rows).Keeps (Node.Holds part) := by
  have hne := ne_nil_of_mem_kept hrun hpart
  have hcells : cell ∈ (rows.map cells).flatten :=
    List.mem_flatten.mpr ⟨cells row, List.mem_map_of_mem hrow, hcell⟩
  have hcontents : ∀ inner ∈ cell, inner ∈ (rows.map cells).flatten.flatten :=
    fun inner hinner => List.mem_flatten.mpr ⟨cell, hcells, hinner⟩
  rw [toGrid]
  split
  · exact Drafting.keeps_warn _ _
  · split
    · rename_i hblurb
      have hname : ∀ inner ∈ cell, inner.name = "blurb" := fun inner hinner => by
        simpa using List.all_eq_true.mp hblurb inner (hcontents inner hinner)
      cases h with
      | @heading inner hfind =>
        have hsame : inner.name = "heading" := by simpa using List.find?_some hfind
        exact absurd (hsame.symm.trans (hname inner (List.mem_of_find?_eq_some hfind))) (by decide)
      | @text inner hfind =>
        have hsame : inner.name = "text" := by simpa using List.find?_some hfind
        exact absurd (hsame.symm.trans (hname inner (List.mem_of_find?_eq_some hfind))) (by decide)
      | @other inner hinner _ hbelow =>
        exact keeps_toFeatures hne (hcontents inner hinner)
          (isInfix_richText hrun (hwhole inner hbelow) hpart) _
    · split
      · rename_i hcounter
        -- counters never hold anything, so no run stands inside one
        have hname : ∀ inner ∈ cell, inner ∈ below → False := by
          intro inner hinner hbelow
          have hsame : inner.name = "counter" := by
            simpa using List.all_eq_true.mp hcounter inner (hcontents inner hinner)
          have hnone := hvoid inner hbelow
          rw [hsame] at hnone
          exact absurd hnone (by decide)
        cases h with
        | @heading inner hfind hbelow =>
          exact (hname inner (List.mem_of_find?_eq_some hfind) hbelow).elim
        | @text inner hfind hbelow =>
          exact (hname inner (List.mem_of_find?_eq_some hfind) hbelow).elim
        | @other inner hinner _ hbelow => exact (hname inner hinner hbelow).elim
      · exact keeps_columns hrun hwhole hpart hcells h

end Run

/-! ### Elements by name -/

/-- What an element reads of a run that stands further inside in the elements below. -/
inductive Reads (element : Element) (below : List Element) : Reading → Prop
  /-- A heading, a button and a testimonial are read as plain text. -/
  | plain (h : element.name ∈ ["heading", "button", "testimonial"]) : Reads element below .plain
  /-- A text, a feature and a question are read as rich text. -/
  | rich (h : element.name ∈ ["text", "blurb", "toggle"]) : Reads element below .rich
  /-- A plan is read line by line. -/
  | plan (h : element.name = "pricing_table") : Reads element below .lines
  /-- In a group of plans the plans are read line by line. -/
  | plans {table : Element} (h : element.name = "pricing_tables")
      (htable : below.find? (·.name == "pricing_table") = some table) : Reads element below .lines
  /-- In a group of questions those with a title are read as rich text. -/
  | questions {toggle : Element} {question : String} (h : element.name = "accordion")
      (htoggle : below.find? (·.name == "toggle") = some toggle)
      (htitle : toggle.attribute? "title" = some question) : Reads element below .rich
  /-- In a box the first heading and the first button are read as plain text. -/
  | label {name : String} {inner : Element} (h : element.name = "box")
      (hname : name ∈ ["heading", "button"]) (hinner : element.find? name = some inner)
      (hbelow : inner ∈ below) : Reads element below .plain
  /-- In a box the first text is read as rich text. -/
  | body {inner : Element} (h : element.name = "box") (hinner : element.find? "text" = some inner)
      (hbelow : inner ∈ below) : Reads element below .rich
  /-- An element outside the vocabulary is read as rich text. -/
  | unknown (h : element.name ∉ Markup.vocabulary) : Reads element below .rich

/-- Elements that only arrange and rows read nothing themselves. -/
theorem Reads.name_not_mem {below : List Element} {reading : Reading}
    (h : element.Reads below reading) :
    element.name ∉ ["section", "row", "column", "column_inner", "row_inner"] := by
  have hknown : ∀ name ∈ ["section", "row", "column", "column_inner", "row_inner"],
      name ∈ Markup.vocabulary ∧ name ∉ ["heading", "button", "testimonial"] ∧
        name ∉ ["text", "blurb", "toggle"] := by decide
  cases h with
  | plain h => exact fun hmem => (hknown _ hmem).2.1 h
  | rich h => exact fun hmem => (hknown _ hmem).2.2 h
  | unknown h => exact fun hmem => h (hknown _ hmem).1
  | plan h => rw [h]; decide
  | plans h => rw [h]; decide
  | questions h => rw [h]; decide
  | label h => rw [h]; decide
  | body h => rw [h]; decide

/-- An element is read by its name. -/
theorem toNodes_of_unknown (h : element.name ∉ Markup.vocabulary) :
    element.toNodes = element.toUnknown := by
  unfold toNodes
  split <;> simp_all [Markup.vocabulary]

section Names

variable (hrun : allBlank run = false)

include hrun

/-- What is read as plain text keeps the run as plain text. -/
theorem keeps_toNodes_plain (hname : element.name ∈ ["heading", "button", "testimonial"])
    (hself : IsWholeIn (IsRecognized Reading.plain.reference?) run element.text.toList)
    (hpart : part ∈ Reading.plain.kept run) : element.toNodes.Keeps (Node.Holds part) := by
  have hne := ne_nil_of_mem_kept hrun hpart
  have hshown := isInfix_plainText hrun hself hpart
  simp only [List.mem_cons, List.not_mem_nil, or_false] at hname
  rcases hname with hname | hname | hname
  · simp only [Element.toNodes, hname]
    exact keeps_toHeading hne hshown
  · simp only [Element.toNodes, hname]
    exact keeps_toButton hne hshown
  · simp only [Element.toNodes, hname]
    exact keeps_toTestimonial hne hshown

/-- What is read as rich text keeps the run as rich text. -/
theorem keeps_toNodes_rich (hname : element.name ∈ ["text", "blurb", "toggle"])
    (hself : IsWholeIn (IsRecognized Reading.rich.reference?) run element.text.toList)
    (hpart : part ∈ Reading.rich.kept run) : element.toNodes.Keeps (Node.Holds part) := by
  have hne := ne_nil_of_mem_kept hrun hpart
  have hshown := isInfix_richText hrun hself hpart
  simp only [List.mem_cons, List.not_mem_nil, or_false] at hname
  rcases hname with hname | hname | hname
  · simp only [Element.toNodes, hname]
    exact keeps_toText hne hshown
  · simp only [Element.toNodes, hname]
    exact keeps_toFeatures hne (List.mem_singleton_self element) hshown 1
  · simp only [Element.toNodes, hname]
    exact keeps_toQuestions_singleton hne hshown

/-- An element that is read without a warning keeps what it reads of a run. -/
theorem Reads.keeps_toNodes {below : List Element} {reading : Reading}
    (h : element.Reads below reading) {front back : List Char}
    (hstands : Markup.Stands element.children below front run back)
    (huncut : reading.IsUncut front run back) (hpart : part ∈ reading.kept run) :
    element.toNodes.Keeps (Node.Holds part) := by
  have hne := ne_nil_of_mem_kept hrun hpart
  have hself : IsWholeIn (IsRecognized reading.reference?) run element.text.toList :=
    huncut.isWholeIn hstands.toList_textOfAll
  -- the run is whole in each element below as well, since their texts are parts of the whole text
  have hinside : ∀ inner ∈ below,
      IsWholeIn (IsRecognized reading.reference?) run inner.text.toList := by
    intro inner hinner
    obtain ⟨before, after, hbefore, hafter, htext⟩ := hstands.toList_text hinner
    exact (huncut.mono hbefore hafter).isWholeIn htext
  cases h with
  | plain hname => exact keeps_toNodes_plain hrun hname hself hpart
  | rich hname => exact keeps_toNodes_rich hrun hname hself hpart
  | plan hname =>
    obtain ⟨feature, hfeature, hshown⟩ := exists_planFeature hself hpart
    simp only [Element.toNodes, hname]
    exact keeps_toPricing (List.mem_singleton_self element) hfeature hshown
  | @plans table hname htable =>
    have hwhole := hinside table (List.mem_of_find?_eq_some htable)
    obtain ⟨feature, hfeature, hshown⟩ := exists_planFeature hwhole hpart
    simp only [Element.toNodes, hname]
    exact keeps_toPricing (hstands.mem_collectAll htable) hfeature hshown
  | @questions toggle question hname htoggle htitle =>
    have hwhole := hinside toggle (List.mem_of_find?_eq_some htoggle)
    simp only [Element.toNodes, hname]
    exact keeps_toQuestions hne (hstands.mem_collectAll htoggle) htitle
      (isInfix_richText hrun hwhole hpart)
  | @label name inner hbox hname hinner hbelow =>
    simp only [Element.toNodes, hbox]
    exact keeps_toBox_plain hne hname hinner (isInfix_plainText hrun (hinside inner hbelow) hpart)
  | @body inner hbox hinner hbelow =>
    simp only [Element.toNodes, hbox]
    exact keeps_toBox_rich hne hinner (isInfix_richText hrun (hinside inner hbelow) hpart)
  | unknown hname =>
    rw [toNodes_of_unknown hname]
    exact keeps_toUnknown element

end Names

end Element

end PageMarkup
