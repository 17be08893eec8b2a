import PageMarkup.Proofs.Document.RoundTrip
import PageMarkup.Proofs.Import.Kept
import PageMarkup.Proofs.Markup.Size

/-!
# Imported documents are storable

The nodes of an import have known kinds, texts and lists of records as properties, and their number
of columns.  Plans are nested deepest, with their features three levels down.  So whatever a page
holds, and however it is read, the document can be stored; only a page too large for any memory
could have more columns than there are numbers.
-/

namespace PageMarkup

open Text

/-! ### Nodes in the making -/

/-- The room that the properties of an imported node need: plans, one plan, and its features. -/
def Nodes.room : Nat := 3

namespace Node

variable {room : Nat} {node : Node}

/-- One more property that fits keeps a node storable. -/
theorem IsStorable.withProp (h : node.IsStorable room) {name : String} (hname : name ≠ "id")
    {value : Value} (hvalue : value.Fits room) : (node.withProp name value).IsStorable room where
  kind := h.kind
  noId := by
    rw [get?_withProp, if_neg hname.symm]
    exact h.noId
  props := ⟨Dict.isSorted_insert h.props.sorted, Value.fieldsFit_iff.mpr fun field hfield => by
    rcases Dict.mem_insert hfield with rfl | hfield
    · exact hvalue
    · exact Value.fieldsFit_iff.mp h.props.fits field hfield⟩

/-- One more text keeps a node storable. -/
theorem IsStorable.withText (h : node.IsStorable room) {name : String} (hname : name ≠ "id")
    (value : Option String) : (node.withText name value).IsStorable room := by
  cases value with
  | none => exact h
  | some text => exact h.withProp hname trivial

/-- A list of records keeps a node storable that has the room of an imported one. -/
theorem IsStorable.withRecords (h : node.IsStorable Nodes.room) {name : String}
    (hname : name ≠ "id") {records : List Value} (hrecords : ∀ record ∈ records, record.Fits 2) :
    (node.withProp name (.list records)).IsStorable Nodes.room :=
  h.withProp hname ⟨by decide, Value.itemsFit_iff.mpr hrecords⟩

/-- One more restricted text keeps a node storable. -/
theorem IsStorable.ensures_styled (h : node.IsStorable room) {name : String} (hname : name ≠ "id")
    (target : Restricted) (raw : Option String) :
    (node.styled name target raw).Ensures (IsStorable room) := by
  intro limit made
  rw [result_styled]
  exact h.withText hname _

/-- A background keeps a node storable. -/
theorem IsStorable.ensures_withBackground (h : node.IsStorable room)
    (found : Option Background.Found) : (node.withBackground found).Ensures (IsStorable room) := by
  intro limit made
  rw [Import.result_withBackground]
  exact (h.withText (by decide) _).withText (by decide) _

theorem IsStorable.ensures_withBackgroundImage (h : node.IsStorable room) (image : Option String) :
    (node.withBackgroundImage image).Ensures (IsStorable room) := by
  intro limit made
  rw [Import.result_withBackgroundImage]
  exact h.withText (by decide) _

/-- A new node of a known kind is storable. -/
theorem ensures_node {kind : Kind} (hkind : Kind.ofName kind.name = kind) :
    (Drafting.node kind).Ensures (IsStorable Nodes.room) :=
  fun _ _ => ⟨hkind, rfl, List.Pairwise.nil, trivial⟩

end Node

/-! ### Elements -/

namespace Nodes

/-- The nodes are storable as an import nests their properties. -/
def AreStorable (nodes : List Node) : Prop :=
  ∀ node ∈ nodes, node.IsStorable room

theorem areStorable_nil : AreStorable [] :=
  List.forall_mem_nil _

theorem areStorable_singleton {node : Node} (h : node.IsStorable room) : AreStorable [node] :=
  List.forall_mem_singleton.mpr h

theorem AreStorable.append {nodes others : List Node} (h : AreStorable nodes)
    (hothers : AreStorable others) : AreStorable (nodes ++ others) :=
  List.forall_mem_append.mpr ⟨h, hothers⟩

end Nodes

namespace Element

open Nodes Drafting

variable (element : Element)

/-- A node that is drafted last is the only one. -/
theorem ensures_single {x : Drafting Node} (h : x.Ensures (Node.IsStorable room)) :
    Ensures AreStorable (do return [← x]) :=
  h.bind fun _ hnode => ensures_pure (areStorable_singleton hnode)

theorem ensures_skip (what reason : String) : (skip what reason).Ensures AreStorable :=
  (ensures_true _).bind fun _ _ => ensures_pure areStorable_nil

theorem ensures_toHeading : element.toHeading.Ensures AreStorable := by
  rw [toHeading]
  split
  · exact ensures_skip _ _
  · refine (Node.ensures_node rfl).bind fun node hnode => ?_
    refine ((hnode.withText (by decide) (some _)).ensures_styled (by decide) _ _).bind
      fun node hnode => ?_
    refine (hnode.ensures_styled (by decide) _ _).bind fun node hnode => ?_
    exact ensures_single (hnode.ensures_styled (by decide) _ _)

theorem ensures_toText : element.toText.Ensures AreStorable := by
  rw [toText]
  split
  · exact ensures_skip _ _
  · refine (Node.ensures_node rfl).bind fun node hnode => ?_
    refine ((hnode.withText (by decide) (some _)).ensures_styled (by decide) _ _).bind
      fun node hnode => ?_
    exact ensures_single (hnode.ensures_styled (by decide) _ _)

theorem ensures_toImage : element.toImage.Ensures AreStorable := by
  rw [toImage]
  refine (Node.ensures_node rfl).bind fun node hnode => ?_
  refine ((hnode.withText (by decide) _).ensures_styled (by decide) _ _).bind fun node hnode => ?_
  split
  · exact ensures_single (hnode.ensures_styled (by decide) _ _)
  · exact ensures_skip _ _

theorem ensures_toButton : element.toButton.Ensures AreStorable := by
  rw [toButton]
  split
  · exact ensures_skip _ _
  · refine (Node.ensures_node rfl).bind fun node hnode => ?_
    refine ((hnode.withText (by decide) (some _)).ensures_styled (by decide) _ _).bind
      fun node hnode => ?_
    refine (hnode.ensures_styled (by decide) _ _).bind fun node hnode => ?_
    exact ensures_single (hnode.ensures_styled (by decide) _ _)

theorem ensures_toDivider : element.toDivider.Ensures AreStorable := by
  rw [toDivider]
  refine (Node.ensures_node rfl).bind fun node hnode => ?_
  refine (hnode.ensures_styled (by decide) _ _).bind fun node hnode => ?_
  exact ensures_single (hnode.ensures_styled (by decide) _ _)

theorem ensures_toSpacer : element.toSpacer.Ensures AreStorable := by
  rw [toSpacer]
  refine (Node.ensures_node rfl).bind fun node hnode => ?_
  exact ensures_single (hnode.ensures_styled (by decide) _ _)

theorem ensures_toUnknown : element.toUnknown.Ensures AreStorable := by
  rw [toUnknown]
  split
  · exact ensures_skip _ _
  · refine (ensures_true _).bind fun _ _ => (Node.ensures_node rfl).bind fun node hnode => ?_
    exact ensures_pure (areStorable_singleton (hnode.withText (by decide) (some _)))

theorem ensures_toBox : element.toBox.Ensures AreStorable := by
  intro limit made
  rw [BoxContent.result_toBox]
  generalize BoxContent.found element = box
  refine areStorable_singleton ?_
  have hkind : Kind.ofName box.kind.name = box.kind := by
    rw [BoxContent.kind]
    split <;> rfl
  have hname {hero card : String} (hhero : hero ≠ "id") (hcard : card ≠ "id") :
      (if box.isHero then hero else card) ≠ "id" := by
    split <;> assumption
  have hnode : (Node.next made box.kind).IsStorable room := Node.ensures_node hkind limit made
  have htexts := (hnode.withText (show "title" ≠ "id" by decide) box.title).withText
    (hname (show "subtitle" ≠ "id" by decide) (show "text" ≠ "id" by decide)) box.body
  have hlinks := ((htexts.withText (hname (show "ctaLabel" ≠ "id" by decide)
    (show "buttonLabel" ≠ "id" by decide)) box.label).withText
      (hname (show "ctaHref" ≠ "id" by decide) (show "buttonHref" ≠ "id" by decide))
        box.href).withText (show "image" ≠ "id" by decide) box.src
  exact (((hlinks.withText (by decide) _).withText (by decide) _).withText (by decide) _).withText
    (by decide) _

theorem ensures_toTestimonial : element.toTestimonial.Ensures AreStorable := by
  rw [toTestimonial]
  split
  · exact ensures_skip _ _
  · refine (Node.ensures_node rfl).bind fun node hnode => ?_
    exact ensures_single ((((hnode.withText (by decide) (some _)).withText (by decide) _).withText
      (by decide) _).ensures_styled (by decide) _ _)

/-! ### Records -/

/-- The fields of a record stand one deeper than the record. -/
theorem fits_recordOf {inside : Nat} {fields : List (String × Option Value)}
    (h : ∀ field ∈ fields, ∀ value ∈ field.2, value.Fits inside) :
    (recordOf fields).Fits (inside + 1) := by
  refine ⟨Nat.succ_pos inside, Dict.isSorted_ofList _, ?_⟩
  refine Value.fieldsFit_iff.mpr fun entry hentry => ?_
  obtain ⟨field, hfield, hvalue⟩ := List.mem_filterMap.mp (Dict.mem_of_mem_ofList hentry)
  obtain ⟨value, hmem, rfl⟩ := Option.map_eq_some_iff.mp hvalue
  exact h field hfield value hmem

theorem fits_textField (room : Nat) (name : String) (text : Option String) :
    ∀ value ∈ (textField name text).2, value.Fits room := by
  intro value hvalue
  obtain ⟨content, -, rfl⟩ := Option.map_eq_some_iff.mp hvalue
  trivial

/-- The field holds a text, or nothing. -/
def IsTextField (field : String × Option Value) : Prop :=
  ∃ name text, field = textField name text

@[simp]
theorem isTextField_textField (name : String) (text : Option String) :
    IsTextField (textField name text) :=
  ⟨name, text, rfl⟩

/-- Texts fit into a record. -/
theorem fits_recordOf_texts {fields : List (String × Option Value)}
    (h : ∀ field ∈ fields, IsTextField field) : (recordOf fields).Fits 2 := by
  refine fits_recordOf fun field hfield => ?_
  obtain ⟨name, text, rfl⟩ := h field hfield
  exact fits_textField 1 name text

/-- Features are storable if their columns can be counted. -/
theorem ensures_toFeatures (blurbs : List Element) {columns : Nat} (hcolumns : columns ≤ 2 ^ 64) :
    (toFeatures blurbs columns).Ensures AreStorable := by
  rw [toFeatures]
  refine (Node.ensures_node rfl).bind fun node hnode => ensures_pure (areStorable_singleton ?_)
  refine Node.IsStorable.withProp (hnode.withRecords (by decide) ?_) (by decide)
    (Binary64.isFinite_ofNat hcolumns)
  exact List.forall_mem_map.mpr fun blurb _ => fits_recordOf_texts (by simp)

theorem ensures_toStatistics (counters : List Element) :
    (toStatistics counters).Ensures AreStorable := by
  rw [toStatistics]
  refine (Node.ensures_node rfl).bind fun node hnode => ensures_pure (areStorable_singleton ?_)
  exact hnode.withRecords (by decide) (List.forall_mem_map.mpr fun counter _ =>
    fits_recordOf_texts (by simp))

/-- The features of a plan stand in a list of their own. -/
theorem ensures_planRecords (node : Node) (tables : List Element) :
    (planRecords node tables).Ensures fun records => ∀ record ∈ records, record.Fits 2 := by
  intro limit made
  rw [result_planRecords]
  refine List.forall_mem_map.mpr fun table _ => fits_recordOf ?_
  have hfeatures : ∀ feature ∈ planFeatures table.text, feature.Fits 0 :=
    List.forall_mem_map.mpr fun line _ => trivial
  simp only [List.forall_mem_cons]
  refine ⟨fits_textField _ _ _, fits_textField _ _ _, fits_textField _ _ _, ?_,
    fits_textField _ _ _, fits_textField _ _ _, ?_, List.forall_mem_nil _⟩
  · split <;> simp [Value.Fits]
  · intro value hvalue
    obtain rfl := Option.some.inj hvalue
    exact ⟨by decide, Value.itemsFit_iff.mpr hfeatures⟩

theorem ensures_toPricing (tables : List Element) : (toPricing tables).Ensures AreStorable := by
  rw [toPricing]
  split
  · exact ensures_skip _ _
  · refine (Node.ensures_node rfl).bind fun node hnode => ?_
    refine (ensures_planRecords node tables).bind fun records hrecords => ?_
    exact ensures_pure (areStorable_singleton (hnode.withRecords (by decide) hrecords))

theorem ensures_toQuestions (toggles : List Element) :
    (toQuestions toggles).Ensures AreStorable := by
  have hrecords : ∀ record ∈ toggles.filterMap questionRecord?, record.Fits 2 := by
    intro record hrecord
    obtain ⟨toggle, -, hquestion⟩ := List.mem_filterMap.mp hrecord
    obtain ⟨question, -, rfl⟩ := Option.map_eq_some_iff.mp hquestion
    exact fits_recordOf_texts (by simp)
  rw [toQuestions]
  split
  · exact ensures_skip _ _
  · refine (Node.ensures_node rfl).bind fun node hnode => ?_
    exact ensures_pure (areStorable_singleton (hnode.withRecords (by decide) hrecords))

/-! ### Grids -/

/-- A row has no more cells than elements. -/
theorem length_cells_le (row : Element) :
    (cells row).length ≤ Markup.size [.element row.tag row.children] := by
  have helements (items : List Markup) :
      (items.filterMap Markup.element?).length ≤ Markup.size items := by
    induction items with
    | nil => exact Nat.le_refl 0
    | cons item items ih =>
      rw [Markup.size_cons]
      cases item with
      | text content =>
        rw [Markup.size_text, Nat.zero_add]
        exact ih
      | element tag children =>
        simp only [Markup.element?, List.filterMap_cons, List.length_cons, Markup.size_element]
        omega
  have hrow : row.elements.length ≤ Markup.size [.element row.tag row.children] := by
    rw [Markup.size_element]
    exact (helements row.children).trans (Nat.le_succ _)
  rw [cells]
  split
  · rwa [List.length_map]
  · rw [List.length_map]
    exact (List.length_filter_le _ _).trans hrow

/-- The greatest of some numbers is bounded with them. -/
theorem foldl_max_le {numbers : List Nat} {bound : Nat} (h : ∀ n ∈ numbers, n ≤ bound) {start : Nat}
    (hstart : start ≤ bound) : numbers.foldl max start ≤ bound := by
  induction numbers generalizing start with
  | nil => exact hstart
  | cons n numbers ih =>
    obtain ⟨hn, hnumbers⟩ := List.forall_mem_cons.mp h
    exact ih hnumbers (max_le hstart hn)

/-- The grid of rows whose elements can be counted is storable. -/
theorem ensures_toGrid {rows : List Element}
    (h : ∀ row ∈ rows, Markup.size [.element row.tag row.children] ≤ 2 ^ 64) :
    (toGrid rows).Ensures AreStorable := by
  have hcolumns : max (((rows.map cells).map List.length).foldl max 0) 1 ≤ 2 ^ 64 := by
    refine max_le (foldl_max_le ?_ (Nat.zero_le _)) (by decide)
    rw [List.map_map]
    exact List.forall_mem_map.mpr fun row hrow => (length_cells_le row).trans (h row hrow)
  rw [toGrid]
  split
  · exact ensures_skip _ _
  · split
    · exact ensures_toFeatures _ hcolumns
    · split
      · exact ensures_toStatistics _
      · refine (Node.ensures_node rfl).bind fun node hnode => (ensures_true _).bind fun _ _ => ?_
        refine ensures_pure (areStorable_singleton (hnode.withRecords (by decide) ?_))
        exact List.forall_mem_map.mpr fun cell _ => fits_recordOf_texts (by simp)

/-! ### Forests -/

/-- Whatever an element holds, the nodes it is read as are storable. -/
theorem ensures_toNodes : element.toNodes.Ensures AreStorable := by
  unfold toNodes
  split
  · exact element.ensures_toHeading
  · exact element.ensures_toText
  · exact element.ensures_toImage
  · exact element.ensures_toButton
  · exact element.ensures_toDivider
  · exact element.ensures_toSpacer
  · exact element.ensures_toBox
  · exact ensures_toPricing _
  · exact ensures_toPricing _
  · exact element.ensures_toTestimonial
  · exact ensures_toQuestions _
  · exact ensures_toQuestions _
  · exact ensures_toFeatures _ (by decide)
  · exact ensures_toStatistics _
  · exact element.ensures_toUnknown

end Element

namespace Forest

open Nodes Drafting

/-- Reading keeps nodes storable if the elements can be counted. -/
theorem isCompositional_ensures :
    IsCompositional (fun forest => Markup.size forest ≤ 2 ^ 64) (Ensures AreStorable) where
  hereditary := Markup.isHereditary_size _
  nil := ensures_pure areStorable_nil
  append _ _ _ hx hy hz := hx.bind fun _ hbefore => hy.bind fun _ hhere => hz.bind fun _ hafter =>
    ensures_pure ((hbefore.append hhere).append hafter)
  warn _ _ h := (ensures_true _).bind fun _ _ => h
  text _ _ := (Node.ensures_node rfl).bind fun _ hnode =>
    ensures_pure (areStorable_singleton (hnode.withText (by decide) (some _)))
  grid _ h := Element.ensures_toGrid h
  element element _ := element.ensures_toNodes

end Forest

/-! ### Documents -/

namespace Document

open Nodes

variable {doc : Document} {node : Node}

theorem isStorable_empty : IsStorable .empty where
  root := ⟨List.Pairwise.nil, trivial⟩
  topLevel := List.forall_mem_nil _
  sorted := List.Pairwise.nil
  zones := List.forall_mem_nil _

theorem IsStorable.push (h : doc.IsStorable) (hnode : node.IsStorable room) :
    (doc.push node).IsStorable where
  root := h.root
  topLevel := by
    refine List.forall_mem_append.mpr ⟨h.topLevel, List.forall_mem_singleton.mpr ?_⟩
    exact hnode.mono (by decide)
  sorted := h.sorted
  zones := h.zones

theorem IsStorable.pushZone (h : doc.IsStorable) (key : String) (hnode : node.IsStorable room) :
    (doc.pushZone key node).IsStorable where
  root := h.root
  topLevel := h.topLevel
  sorted := Dict.isSorted_insert h.sorted
  zones zone hzone := by
    rcases Dict.mem_insert hzone with rfl | hzone
    · refine List.forall_mem_append.mpr ⟨?_, List.forall_mem_singleton.mpr ?_⟩
      · cases hkey : Dict.get? key doc.zones with
        | none => exact List.forall_mem_nil _
        | some nodes => exact h.zones (key, nodes) (Dict.mem_of_get? hkey)
      · exact hnode.mono (by decide)
    · exact h.zones zone hzone

end Document

namespace Import

open Nodes Drafting

variable {doc : Document}

/-- A document stays storable as storable nodes are added. -/
theorem isKeptAdding_storable : IsKeptAdding (Node.IsStorable room) Document.IsStorable where
  push hdoc hnode := hdoc.push hnode
  pushZone key hdoc hnode := hdoc.pushZone key hnode

variable (style : Background.PageStyle)

theorem ensures_sectionNode (element : Element) :
    (sectionNode style element).Ensures (Node.IsStorable room) := by
  rw [sectionNode]
  refine (Node.ensures_node rfl).bind fun node hnode => ?_
  refine (hnode.ensures_withBackground _).bind fun node hnode => ?_
  refine (hnode.ensures_withBackgroundImage _).bind fun node hnode => ?_
  exact hnode.ensures_styled (by decide) _ _

theorem ensures_htmlSectionNode (part : Html.Section) :
    (htmlSectionNode style part).Ensures (Node.IsStorable room) :=
  (Node.ensures_node rfl).bind fun _ hnode => hnode.ensures_withBackground _

theorem ensures_blockNode (block : Html.Block) :
    (blockNode block).Ensures (Node.IsStorable room) := by
  cases block with
  | heading level text align =>
    refine (Node.ensures_node rfl).bind fun node hnode => ?_
    refine ((hnode.withText (by decide) (some _)).ensures_styled (by decide) _ _).bind
      fun node hnode => ?_
    exact hnode.ensures_styled (by decide) _ _
  | paragraph text align =>
    refine (Node.ensures_node rfl).bind fun node hnode => ?_
    exact (hnode.withText (by decide) (some _)).ensures_styled (by decide) _ _
  | image src alt =>
    refine (Node.ensures_node rfl).bind fun node hnode => ?_
    exact (hnode.withText (by decide) _).ensures_styled (by decide) _ _
  | button href label =>
    refine (Node.ensures_node rfl).bind fun node hnode => ?_
    exact (hnode.withText (by decide) (some _)).ensures_styled (by decide) _ _
  | divider => exact Node.ensures_node rfl

/-- The document that a page of at most `2 ^ 64` bytes is read as is storable. -/
theorem isStorable_pageAs (isMarkup : Bool) {content : String}
    (h : size content.toList ≤ 2 ^ 64) (limit : Nat) :
    ((pageAs isMarkup content).result limit).IsStorable := by
  rw [result_pageAs, drafted]
  split
  · have hsize := (Forest.size_read_le content.toList).trans ((length_le_size _).trans h)
    refine ((ensures_true _).bind fun _ _ => ?_) limit []
    exact isKeptAdding_storable.ensures_placeForest Forest.isCompositional_ensures
      (ensures_sectionNode _) hsize Document.isStorable_empty
  · refine ((ensures_true _).bind fun _ _ => ?_) limit []
    exact isKeptAdding_storable.ensures_placeItems (ensures_htmlSectionNode _)
      (fun _ _ block _ => ensures_blockNode block) Document.isStorable_empty

end Import

end PageMarkup
