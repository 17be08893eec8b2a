import PageMarkup.Import
import PageMarkup.Proofs.Import.Numbering

/-!
# What any markup is read as

Markup is read item by item: rows that follow one another are one grid, layout contributes what it
holds, and everything else is read by its name.  What holds of the computations that read single
items, and is kept when computations follow one another, holds of the one that reads a forest.  So
whatever a page holds, the nodes that are read are numbered and stored in the right way.  On the top
level of a page each item is placed in one step, of which there are two kinds.
-/

namespace PageMarkup

open Text

/-! ### Following a forest -/

/-- The property is one of every computation that a forest is read by, if `H` holds of the forest:
it is one of the computations that read an element, some rows or a text, and it is kept where
computations follow one another. -/
structure IsCompositional (H : Forest → Prop) (P : Drafting (List Node) → Prop) : Prop where
  hereditary : Forest.IsHereditary H
  nil : P (pure [])
  append : ∀ x y z, P x → P y → P z → P (do
    let before ← x
    let here ← y
    return before ++ here ++ (← z))
  warn : ∀ message x, P x → P (do
    Drafting.note .warn message
    x)
  text : ∀ content : String, allBlank content.toList = false → P (Markup.looseText content)
  grid : ∀ rows : List Element, (∀ row ∈ rows, H [.element row.tag row.children]) →
    P (Element.toGrid rows)
  element : ∀ element : Element, H [.element element.tag element.children] → P element.toNodes

namespace IsCompositional

variable {H : Forest → Prop} {P : Drafting (List Node) → Prop}

/-- The rows that stand before an item are read in the right way. -/
theorem flush (h : IsCompositional H P) {rows : List Element}
    (hrows : ∀ row ∈ rows, H [.element row.tag row.children]) : P (Element.flush rows) := by
  rw [Element.flush]
  split
  · exact h.nil
  · exact h.grid rows hrows

mutual

/-- An item is read in the right way, unless it is a blank text. -/
theorem toNodes (h : IsCompositional H P) : (item : Markup) → H [item] →
    (∀ content, item = .text content → allBlank content.toList = false) → P item.toNodes
  | .text content, _, hshown => h.text content (hshown content rfl)
  | .element tag children, hitem, _ => by
    have hchildren : H children := h.hereditary.inside hitem
    rw [Markup.toNodes]
    split
    · exact h.warn _ _ (h.toNodesAll children hchildren [] (List.forall_mem_nil _))
    · split
      · exact h.toNodesAll children hchildren [] (List.forall_mem_nil _)
      · exact h.element ⟨tag, children⟩ hitem

/-- Some items are read in the right way, whatever rows stand before them. -/
theorem toNodesAll (h : IsCompositional H P) :
    (items : List Markup) → H items → (rows : List Element) →
      (∀ row ∈ rows, H [.element row.tag row.children]) → P (Markup.toNodesAll rows items)
  | [], _, rows, hrows => h.flush hrows
  | .text content :: items, hitems, rows, hrows => by
    have hrest : H items := h.hereditary.tail hitems
    rw [Markup.toNodesAll]
    split
    · exact h.toNodesAll items hrest rows hrows
    · rename_i hblank
      exact h.append _ _ _ (h.flush hrows) (h.text content (by simpa using hblank))
        (h.toNodesAll items hrest [] (List.forall_mem_nil _))
  | .element tag children :: items, hitems, rows, hrows => by
    have hfirst : H [.element tag children] := h.hereditary.head hitems
    have hrest : H items := h.hereditary.tail hitems
    rw [Markup.toNodesAll]
    split
    · refine h.toNodesAll items hrest _ fun row hrow => ?_
      rcases List.mem_append.mp hrow with hrow | hrow
      · exact hrows row hrow
      · obtain rfl := List.mem_singleton.mp hrow
        exact hfirst
    · exact h.append _ _ _ (h.flush hrows) (h.toNodes (.element tag children) hfirst nofun)
        (h.toNodesAll items hrest [] (List.forall_mem_nil _))

end

/-- A forest is read in the right way. -/
theorem forest (h : IsCompositional H P) {forest : Forest} (hforest : H forest) :
    P forest.toNodes :=
  h.toNodesAll forest hforest [] (List.forall_mem_nil _)

end IsCompositional

/-! ### Single elements -/

namespace Element

variable (element : Element)

theorem drafts_toHeading : Drafts element.toHeading := by
  intro limit made
  cases htitle : nonempty? element.plainText with
  | none =>
    rw [toHeading, htitle]
    exact Drafted.nil made
  | some title =>
    rw [result_toHeading htitle]
    have hstored := (Node.isStored_next made .heading).withFree
      (show Restricted.IsFree "title" by decide) (some title)
    refine Drafted.one (by simp) (by simp) (by decide) ?_
    exact ((hstored.withAllowed rfl _).withAllowed rfl _).withAllowed rfl _

theorem drafts_toText : Drafts element.toText := by
  intro limit made
  cases hbody : nonempty? element.richText with
  | none =>
    rw [toText, hbody]
    exact Drafted.nil made
  | some body =>
    rw [result_toText hbody]
    have hstored := (Node.isStored_next made .text).withFree
      (show Restricted.IsFree "text" by decide) (some body)
    refine Drafted.one (by simp) (by simp) (by decide) ?_
    exact (hstored.withAllowed rfl _).withAllowed rfl _

/-- An image without a source that is allowed is made and dropped. -/
theorem drafts_toImage : Drafts element.toImage := by
  intro limit made
  cases hsrc : (element.attribute? "src").bind Restricted.src.allow with
  | none =>
    rw [result_toImage_of_none hsrc]
    exact Drafted.drop made .image
  | some src =>
    rw [result_toImage hsrc]
    have hstored := (Node.isStored_next made .image).withFree
      (show Restricted.IsFree "alt" by decide) (element.attribute? "alt")
    have hnormal : IsNormal .src (some src) := hsrc ▸ isNormal_bind_allow _ _
    refine Drafted.one (by simp) (by simp) (by decide) ?_
    exact (hstored.withNormal rfl hnormal).withAllowed rfl _

theorem drafts_toButton : Drafts element.toButton := by
  intro limit made
  cases hlabel : nonempty? element.plainText with
  | none =>
    rw [toButton, hlabel]
    exact Drafted.nil made
  | some label =>
    rw [result_toButton hlabel]
    have hstored := (Node.isStored_next made .button).withFree
      (show Restricted.IsFree "label" by decide) (some label)
    refine Drafted.one (by simp) (by simp) (by decide) ?_
    exact ((hstored.withAllowed rfl _).withAllowed rfl _).withAllowed rfl _

theorem drafts_toDivider : Drafts element.toDivider := by
  intro limit made
  rw [result_toDivider]
  refine Drafted.one (by simp) (by simp) (by decide) ?_
  exact ((Node.isStored_next made .divider).withAllowed rfl _).withAllowed rfl _

theorem drafts_toSpacer : Drafts element.toSpacer := by
  intro limit made
  rw [result_toSpacer]
  refine Drafted.one (by simp) (by simp) (by decide) ?_
  exact (Node.isStored_next made .spacer).withAllowed rfl _

/-- A text node with a text is drafted. -/
theorem drafted_text (made : List Kind) (body : String) :
    Drafted made [(Node.next made .text).withProp "text" (.text body)] (.text :: made) := by
  refine Drafted.one rfl rfl (by decide) ?_
  exact (Node.isStored_next made .text).withFree (by decide) (some body)

theorem drafts_toUnknown : Drafts element.toUnknown := by
  intro limit made
  cases hbody : nonempty? element.richText with
  | none =>
    rw [toUnknown, hbody]
    exact Drafted.nil made
  | some body =>
    rw [toUnknown, hbody]
    exact drafted_text made body

theorem drafts_toTestimonial : Drafts element.toTestimonial := by
  intro limit made
  cases hquote : nonempty? element.plainText with
  | none =>
    rw [toTestimonial, hquote]
    exact Drafted.nil made
  | some quote =>
    rw [result_toTestimonial hquote]
    have hstored := (((Node.isStored_next made .testimonial).withFree
      (show Restricted.IsFree "quote" by decide) (some quote)).withFree
      (show Restricted.IsFree "author" by decide) (element.attribute? "author")).withFree
      (show Restricted.IsFree "role" by decide) (element.attribute? "job_title")
    refine Drafted.one (by simp) (by simp) (by decide) ?_
    exact hstored.withAllowed rfl _

/-! ### Boxes -/

/-- The node that shows what is found in a box is stored. -/
theorem isStored_node_found (made : List Kind) :
    ((BoxContent.found element).node made).IsStored := by
  have hhref : IsNormal .href (BoxContent.found element).href := isNormal_bind_bind _ _ _
  have hsrc : IsNormal .src (BoxContent.found element).src := isNormal_bind_bind _ _ _
  have hbody : Restricted.IsFree
      (if (BoxContent.found element).isHero then "subtitle" else "text") := by
    split <;> decide
  have hlabel : Restricted.IsFree
      (if (BoxContent.found element).isHero then "ctaLabel" else "buttonLabel") := by
    split <;> decide
  have haddress : Restricted.ofStored?
      (if (BoxContent.found element).isHero then "ctaHref" else "buttonHref") = some .href := by
    split <;> rfl
  have hstored := ((Node.isStored_next made (BoxContent.found element).kind).withFree
    (show Restricted.IsFree "title" by decide) (BoxContent.found element).title).withFree hbody
      (BoxContent.found element).body
  have hlinked := ((hstored.withFree hlabel (BoxContent.found element).label).withNormal haddress
    hhref).withNormal (show Restricted.ofStored? "image" = some .src from rfl) hsrc
  exact (((hlinked.withAllowed rfl _).withAllowed rfl _).withAllowed rfl _).withAllowed rfl _

/-- A box is drafted as a hero or as a card. -/
theorem drafts_toBox : Drafts element.toBox := by
  intro limit made
  rw [BoxContent.result_toBox]
  refine Drafted.one (by simp) (by simp [BoxContent.node]) ?_ (element.isStored_node_found made)
  rw [BoxContent.kind]
  split <;> decide

/-! ### Lists of records -/

theorem drafts_toFeatures (blurbs : List Element) (columns : Nat) :
    Drafts (toFeatures blurbs columns) := by
  intro limit made
  have hfields : ∀ fields ∈ blurbs.map featureFields, fields.AreStored :=
    List.forall_mem_map.mpr fun blurb _ =>
      areStored_fieldsOf_of_isFree (show _ = ["title", "icon", "description"] from rfl) (by decide)
  rw [result_toFeatures]
  refine Drafted.one rfl rfl (by decide) ?_
  refine ((Node.isStored_next made .featureGrid).withRecords (by decide) hfields).withProp
    (Value.isStored_of_isFree (by decide) _) ?_
  intro fields hfields
  exact absurd hfields List.not_mem_nil

theorem drafts_toStatistics (counters : List Element) : Drafts (toStatistics counters) := by
  intro limit made
  have hfields : ∀ fields ∈ counters.map statisticFields, fields.AreStored :=
    List.forall_mem_map.mpr fun counter _ =>
      areStored_fieldsOf_of_isFree (show _ = ["value", "label"] from rfl) (by decide)
  rw [result_toStatistics]
  refine Drafted.one rfl rfl (by decide) ?_
  exact (Node.isStored_next made .statsRow).withRecords (by decide) hfields

/-- The fields of a plan are stored, its address in normal form. -/
theorem areStored_planFields (table : Element) : (planFields table).AreStored := by
  have hnormal := isNormal_bind_allow .href (table.attribute? "button_url")
  refine areStored_fieldsOf fun field hfield value hvalue => ?_
  simp only [List.mem_cons, List.not_mem_nil, or_false] at hfield
  rcases hfield with rfl | rfl | rfl | rfl | rfl | rfl | rfl
  · exact Value.isStored_of_isFree (show Restricted.IsFree "name" by decide) value
  · exact Value.isStored_of_isFree (show Restricted.IsFree "price" by decide) value
  · exact Value.isStored_of_isFree (show Restricted.IsFree "period" by decide) value
  · exact Value.isStored_of_isFree (show Restricted.IsFree "highlighted" by decide) value
  · exact Value.isStored_of_isFree (show Restricted.IsFree "ctaLabel" by decide) value
  · obtain ⟨text, htext, rfl⟩ := Option.map_eq_some_iff.mp hvalue
    rw [htext] at hnormal
    exact Value.isStored_of_allow rfl hnormal
  · exact Value.isStored_of_isFree (show Restricted.IsFree "features" by decide) value

theorem drafts_toPricing (tables : List Element) : Drafts (toPricing tables) := by
  intro limit made
  have hfields : ∀ fields ∈ tables.map planFields, fields.AreStored :=
    List.forall_mem_map.mpr fun table _ => areStored_planFields table
  rw [toPricing]
  split
  · exact Drafted.nil made
  · simp only [Drafting.result_bind, Drafting.result_node, result_planRecords, Drafting.result_pure]
    refine Drafted.one rfl rfl (by decide) ?_
    have hrecords : (tables.map fun table => Value.record (planFields table)) =
        (tables.map planFields).map Value.record := by
      rw [List.map_map]
      rfl
    rw [hrecords]
    exact (Node.isStored_next made .pricingCards).withRecords (by decide) hfields

/-- Toggles with a title are read as records of free fields. -/
theorem exists_filterMap_questionRecord? (toggles : List Element) :
    ∃ items : List Props, toggles.filterMap questionRecord? = items.map Value.record ∧
      ∀ fields ∈ items, fields.AreStored := by
  induction toggles with
  | nil => exact ⟨[], rfl, by simp⟩
  | cons toggle toggles ih =>
    obtain ⟨items, hitems, hstored⟩ := ih
    cases hquestion : toggle.attribute? "title" with
    | none =>
      have hnone : questionRecord? toggle = none := by
        rw [questionRecord?, hquestion]
        rfl
      exact ⟨items, by rw [List.filterMap_cons_none hnone, hitems], hstored⟩
    | some question =>
      let fields := fieldsOf [textField "question" (some question),
        textField "answer" (nonempty? toggle.richText)]
      have hsome : questionRecord? toggle = some (.record fields) := by
        rw [questionRecord?, hquestion]
        rfl
      have hfields : fields.AreStored :=
        areStored_fieldsOf_of_isFree (show _ = ["question", "answer"] from rfl) (by decide)
      refine ⟨fields :: items, ?_, ?_⟩
      · rw [List.filterMap_cons_some hsome, hitems, List.map_cons]
      · exact List.forall_mem_cons.mpr ⟨hfields, hstored⟩

theorem drafts_toQuestions (toggles : List Element) : Drafts (toQuestions toggles) := by
  intro limit made
  obtain ⟨items, hitems, hstored⟩ := exists_filterMap_questionRecord? toggles
  by_cases hne : items = []
  · subst hne
    rw [toQuestions, hitems]
    exact Drafted.nil made
  · rw [result_toQuestions hitems hne]
    refine Drafted.one rfl rfl (by decide) ?_
    exact (Node.isStored_next made .faq).withRecords (by decide) hstored

theorem drafts_toGrid (rows : List Element) : Drafts (toGrid rows) := by
  intro limit made
  rw [toGrid]
  split
  · exact Drafted.nil made
  · split
    · exact drafts_toFeatures _ _ limit made
    · split
      · exact drafts_toStatistics _ limit made
      · have hfields : ∀ fields ∈ (rows.map cells).flatten.map columnFields, fields.AreStored :=
          List.forall_mem_map.mpr fun cell _ =>
            areStored_fieldsOf_of_isFree (show _ = ["title", "content"] from rfl) (by decide)
        simp only [Drafting.result_bind, Drafting.result_node, result_reportDropped,
          Drafting.result_pure, map_columnRecord]
        refine Drafted.one rfl rfl (by decide) ?_
        exact (Node.isStored_next made .columns).withRecords (by decide) hfields

/-- Whatever an element holds, the nodes it is read as are drafted. -/
theorem drafts_toNodes : Drafts element.toNodes := by
  unfold toNodes
  split
  · exact element.drafts_toHeading
  · exact element.drafts_toText
  · exact element.drafts_toImage
  · exact element.drafts_toButton
  · exact element.drafts_toDivider
  · exact element.drafts_toSpacer
  · exact element.drafts_toBox
  · exact drafts_toPricing _
  · exact drafts_toPricing _
  · exact element.drafts_toTestimonial
  · exact drafts_toQuestions _
  · exact drafts_toQuestions _
  · exact drafts_toFeatures _ _
  · exact drafts_toStatistics _
  · exact element.drafts_toUnknown

end Element

namespace Forest

/-- Nodes that are drafted by the computations for items are drafted by the one for a forest. -/
theorem isCompositional_drafts : IsCompositional (fun _ => True) Drafts where
  hereditary := ⟨id, id, id⟩
  nil := Drafts.nil
  append _ _ _ := Drafts.append
  warn _ _ h := h
  text content _ := fun _ made => Element.drafted_text made (Element.rich content)
  grid rows _ := Element.drafts_toGrid rows
  element element _ := element.drafts_toNodes

/-- Whatever a forest holds, the nodes it is read as are drafted. -/
theorem drafts_toNodes (forest : Forest) : Drafts forest.toNodes :=
  isCompositional_drafts.forest trivial

end Forest

/-! ### Following the items of a page -/

namespace Import

/-- How an item on the top level of a page is placed: a section with what is inside it, and anything
else as the nodes it is read as. -/
inductive PlacesItem (style : Background.PageStyle) :
    Markup → (Document → Drafting Document) → Prop
  | «section» {tag : Tag} {children : Forest} (hname : tag.name = "section") :
      PlacesItem style (.element tag children) fun doc => do
        placeSection (← sectionNode style ⟨tag, children⟩) children.toNodes doc
  | loose {item : Markup} (hname : ∀ element ∈ item.element?, element.name ≠ "section") :
      PlacesItem style item fun doc => do place none (← Forest.toNodes [item]) doc

/-- The items of a page are placed one after another. -/
theorem exists_placesItem (style : Background.PageStyle) (item : Markup) :
    ∃ step, PlacesItem style item step ∧
      ∀ items doc, placeForest style (item :: items) doc =
        step doc >>= placeForest style items := by
  cases item with
  | text content =>
    refine ⟨_, .loose ?_, fun _ _ => rfl⟩
    rintro element ⟨⟩
  | element tag children =>
    by_cases hname : (Element.mk tag children).name == "section"
    · refine ⟨_, .section (beq_iff_eq.mp hname), fun items doc => ?_⟩
      rw [placeForest]
      simp only [Markup.element?, if_pos hname, Drafting.bind_assoc]
    · refine ⟨_, .loose ?_, fun items doc => ?_⟩
      · rintro element ⟨⟩
        exact fun h => hname (beq_iff_eq.mpr h)
      · rw [placeForest]
        simp only [Markup.element?, if_neg hname, Drafting.bind_assoc]

end Import

end PageMarkup
