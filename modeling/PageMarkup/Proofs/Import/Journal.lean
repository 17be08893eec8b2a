import PageMarkup.Import
import PageMarkup.Proofs.Compile.Reports
import PageMarkup.Proofs.Import.Drafts

/-!
# What reading markup leaves in the journal

Whatever an element is read as, the entries are warnings and those about the values that are stored
of its tag and of the tags inside it.  Generated markup holds only values in normal form, so nothing
has to be changed when it is read again: reading clean tags leaves no report about a value.
-/

namespace PageMarkup

open Text

/-- The entry is no report about a value that was changed or dropped. -/
def Entry.KeepsValues (entry : Entry) : Prop :=
  entry.phase ≠ .filter

/-! ### Tags inside an element -/

namespace Markup

mutual

/-- An element that is found in an item has one of its tags. -/
theorem tag_mem_tags_of_findIn? (name : String) {element : Element} :
    (item : Markup) → findIn? name item = some element → element.tag ∈ tags item
  | .text _, h => absurd h (by simp [findIn?])
  | .element tag children, h => by
    rw [findIn?] at h
    split at h
    · obtain rfl := Option.some.inj h
      exact List.mem_cons_self
    · exact List.mem_cons_of_mem tag (tag_mem_tagsAll_of_findInAll? name children h)

/-- An element that is found in some items has one of their tags. -/
theorem tag_mem_tagsAll_of_findInAll? (name : String) {element : Element} :
    (items : List Markup) → findInAll? name items = some element → element.tag ∈ tagsAll items
  | [], h => absurd h (by simp [findInAll?])
  | item :: items, h => by
    rw [findInAll?] at h
    cases hitem : findIn? name item with
    | some found =>
      rw [hitem] at h
      obtain rfl := Option.some.inj h
      exact List.mem_append_left _ (tag_mem_tags_of_findIn? name item hitem)
    | none =>
      rw [hitem] at h
      exact List.mem_append_right _ (tag_mem_tagsAll_of_findInAll? name items h)

end

mutual

/-- The elements that are collected from an item have its tags. -/
theorem tag_mem_tags_of_mem_collect (name : String) {element : Element} :
    (item : Markup) → element ∈ collect name item → element.tag ∈ tags item
  | .text _, h => absurd h List.not_mem_nil
  | .element tag children, h => by
    rw [collect] at h
    split at h
    · obtain rfl := List.mem_singleton.mp h
      exact List.mem_cons_self
    · exact List.mem_cons_of_mem tag (tag_mem_tagsAll_of_mem_collectAll name children h)

/-- The elements that are collected from some items have their tags. -/
theorem tag_mem_tagsAll_of_mem_collectAll (name : String) {element : Element} :
    (items : List Markup) → element ∈ collectAll name items → element.tag ∈ tagsAll items
  | [], h => absurd h List.not_mem_nil
  | item :: items, h => by
    rcases List.mem_append.mp h with h | h
    · exact List.mem_append_left _ (tag_mem_tags_of_mem_collect name item h)
    · exact List.mem_append_right _ (tag_mem_tagsAll_of_mem_collectAll name items h)

end

end Markup

namespace Element

variable {element : Element}

/-- A restricted attribute of a clean tag is in normal form. -/
theorem allow_of_attribute? (h : Restricted.AreClean element.tag.attributes) {name : String}
    {target : Restricted} (hname : Restricted.ofAttribute? name = some target) :
    ∀ value ∈ element.attribute? name, target.allow value = some value := by
  intro value hvalue
  obtain ⟨hlookup, -⟩ := Option.mem_filter_iff.mp hvalue
  obtain ⟨before, after, hattributes, -⟩ := List.lookup_eq_some_iff.mp hlookup
  have hmem : (name, value) ∈ element.tag.attributes := by
    rw [← List.mem_reverse, hattributes]
    exact List.mem_append_right _ List.mem_cons_self
  exact h (name, value) hmem target hname

end Element

/-- Storing the restricted attributes of the tag leaves entries that satisfy `P` only. -/
def Tag.Stores (P : Entry → Prop) (tag : Tag) : Prop :=
  ∀ {name : String} {target : Restricted}, Restricted.ofAttribute? name = some target →
    ∀ value ∈ (Element.mk tag []).attribute? name, ∀ node, (target.filterText value node).Every P

namespace Tag

variable {P : Entry → Prop}

/-- The restricted attributes of a clean tag are stored without a report. -/
theorem stores_of_areClean {tag : Tag} (h : Restricted.AreClean tag.attributes) : tag.Stores P :=
  fun hname value hvalue node =>
    Restricted.every_filterText (Element.allow_of_attribute? h hname value hvalue) node

end Tag

namespace Element

/-- Storing the attributes of the element and of those inside it leaves entries that satisfy `P`
only. -/
def Stores (P : Entry → Prop) (element : Element) : Prop :=
  ∀ tag ∈ element.tag :: Markup.tagsAll element.children, tag.Stores P

variable {P : Entry → Prop} {element : Element}

theorem Stores.tag (h : element.Stores P) : element.tag.Stores P :=
  h element.tag List.mem_cons_self

/-- An element that is found in another is stored with it. -/
theorem Stores.find? (h : element.Stores P) {name : String} {found : Element}
    (hfound : element.find? name = some found) : found.tag.Stores P := by
  refine h found.tag (List.mem_cons_of_mem _ ?_)
  exact Markup.tag_mem_tagsAll_of_findInAll? name element.children hfound

/-- Elements that are collected from another are stored with it. -/
theorem Stores.findAll (h : element.Stores P) {name : String} {found : Element}
    (hfound : found ∈ element.findAll name) : found.tag.Stores P := by
  refine h found.tag (List.mem_cons_of_mem _ ?_)
  exact Markup.tag_mem_tagsAll_of_mem_collectAll name element.children hfound

/-- A restricted attribute leaves the entries about its value. -/
theorem every_styled (h : element.tag.Stores P) {key : String} {target : Restricted}
    (hkey : Restricted.ofAttribute? key = some target) (node : Node) (name : String) :
    (node.styled name target (element.attribute? key)).Every P :=
  Node.every_styled (fun value hvalue => h hkey value hvalue _) name

/-! ### Reading elements -/

theorem every_toDivider (h : element.Stores P) :
    element.toDivider.Every P := by
  refine Drafting.Every.bind (Drafting.every_node _) fun node => ?_
  refine Drafting.Every.bind (every_styled h.tag rfl _ _) fun node => ?_
  exact Drafting.Every.bind (every_styled h.tag rfl _ _) fun node => Drafting.every_pure _

theorem every_toSpacer (h : element.Stores P) : element.toSpacer.Every P := by
  refine Drafting.Every.bind (Drafting.every_node _) fun node => ?_
  exact Drafting.Every.bind (every_styled h.tag rfl _ _) fun node => Drafting.every_pure _

/-- What a box says of itself is stored without a report. -/
theorem every_boxStyles (h : element.Stores P) (node : Node) :
    (do
      let node ← node.styled "backgroundColor" .bgColor (element.attribute? "bg_color")
      let node ← node.styled "backgroundImage" .bgImage (element.attribute? "bg_image")
      let node ← node.styled "padding" .padding (element.attribute? "padding")
      return [← node.styled "align" .align (element.attribute? "align")]
        : Drafting (List Node)).Every P := by
  refine Drafting.Every.bind (every_styled h.tag rfl _ _) fun node => ?_
  refine Drafting.Every.bind (every_styled h.tag rfl _ _) fun node => ?_
  refine Drafting.Every.bind (every_styled h.tag rfl _ _) fun node => ?_
  exact Drafting.Every.bind (every_styled h.tag rfl _ _) fun node => Drafting.every_pure _

/-- A box stores what its tag says and the addresses of the button and the image inside it. -/
theorem every_toBox (h : element.Stores P) : element.toBox.Every P := by
  have himage (isHero : Bool) {image : Element}
      (hfound : (if isHero then none else element.find? "image") = some image) :
      image.tag.Stores P := by
    cases isHero with
    | true => exact absurd hfound (by simp)
    | false => exact h.find? hfound
  have hstyles := every_boxStyles h
  rw [toBox]
  refine Drafting.Every.bind (Drafting.every_node _) fun node => ?_
  dsimp only
  split
  · refine Drafting.Every.bind (Drafting.every_pure _) fun node => ?_
    split
    · exact Drafting.Every.bind (Drafting.every_pure _) hstyles
    · rename_i hfound
      exact Drafting.Every.bind (every_styled (himage _ hfound) rfl _ _) hstyles
  · rename_i hbutton
    refine Drafting.Every.bind (every_styled (h.find? hbutton) rfl _ _) fun node => ?_
    split
    · exact Drafting.Every.bind (Drafting.every_pure _) hstyles
    · rename_i hfound
      exact Drafting.Every.bind (every_styled (himage _ hfound) rfl _ _) hstyles

theorem every_toFeatures (blurbs : List Element) (columns : Nat) :
    (toFeatures blurbs columns).Every P :=
  Drafting.Every.bind (Drafting.every_node _) fun _ => Drafting.every_pure _

theorem every_toStatistics (counters : List Element) :
    (toStatistics counters).Every P :=
  Drafting.Every.bind (Drafting.every_node _) fun _ => Drafting.every_pure _

theorem every_planRecords (node : Node) {tables : List Element}
    (h : ∀ table ∈ tables, table.tag.Stores P) :
    (planRecords node tables).Every P := by
  induction tables with
  | nil => exact Drafting.every_pure []
  | cons table tables ih =>
    have hrest := ih fun other hother => h other (List.mem_cons_of_mem table hother)
    rw [planRecords]
    cases hurl : table.attribute? "button_url" with
    | none =>
      refine Drafting.Every.bind (Drafting.every_pure none) fun href => ?_
      exact Drafting.Every.bind hrest fun _ => Drafting.every_pure _
    | some url =>
      have hentries : (Restricted.href.filterText url (some node.id)).Every P :=
        h table List.mem_cons_self rfl url hurl _
      refine Drafting.Every.bind (Drafting.every_monadLift hentries) fun href => ?_
      exact Drafting.Every.bind hrest fun _ => Drafting.every_pure _

section Warnings

variable (hwarn : ∀ message, P ⟨.warn, message, none⟩)
include hwarn

theorem every_skip (what reason : String) :
    (skip what reason).Every P := by
  exact Drafting.Every.bind (Drafting.every_note (hwarn _)) fun _ => Drafting.every_pure _

theorem every_toHeading (h : element.Stores P) :
    element.toHeading.Every P := by
  rw [toHeading]
  split
  · exact every_skip hwarn "heading" "has no text"
  · refine Drafting.Every.bind (Drafting.every_node _) fun node => ?_
    refine Drafting.Every.bind (every_styled h.tag rfl _ _) fun node => ?_
    refine Drafting.Every.bind (every_styled h.tag rfl _ _) fun node => ?_
    exact Drafting.Every.bind (every_styled h.tag rfl _ _) fun node => Drafting.every_pure _

theorem every_toText (h : element.Stores P) : element.toText.Every P := by
  rw [toText]
  split
  · exact every_skip hwarn "text" "is empty"
  · refine Drafting.Every.bind (Drafting.every_node _) fun node => ?_
    refine Drafting.Every.bind (every_styled h.tag rfl _ _) fun node => ?_
    exact Drafting.Every.bind (every_styled h.tag rfl _ _) fun node => Drafting.every_pure _

theorem every_toImage (h : element.Stores P) : element.toImage.Every P := by
  rw [toImage]
  refine Drafting.Every.bind (Drafting.every_node _) fun node => ?_
  refine Drafting.Every.bind (every_styled h.tag rfl _ _) fun node => ?_
  split
  · exact Drafting.Every.bind (every_styled h.tag rfl _ _) fun node => Drafting.every_pure _
  · exact every_skip hwarn "image" "has no usable src"

theorem every_toButton (h : element.Stores P) : element.toButton.Every P := by
  rw [toButton]
  split
  · exact every_skip hwarn "button" "has no label"
  · refine Drafting.Every.bind (Drafting.every_node _) fun node => ?_
    refine Drafting.Every.bind (every_styled h.tag rfl _ _) fun node => ?_
    refine Drafting.Every.bind (every_styled h.tag rfl _ _) fun node => ?_
    exact Drafting.Every.bind (every_styled h.tag rfl _ _) fun node => Drafting.every_pure _

theorem every_toUnknown (element : Element) :
    element.toUnknown.Every P := by
  rw [toUnknown]
  split
  · exact every_skip hwarn element.name "is not a known tag"
  · refine Drafting.Every.bind (Drafting.every_note (hwarn _)) fun _ => ?_
    exact Drafting.Every.bind (Drafting.every_node _) fun node => Drafting.every_pure _

theorem every_toTestimonial (h : element.Stores P) :
    element.toTestimonial.Every P := by
  rw [toTestimonial]
  split
  · exact every_skip hwarn "testimonial" "has no quote"
  · refine Drafting.Every.bind (Drafting.every_node _) fun node => ?_
    exact Drafting.Every.bind (every_styled h.tag rfl _ _) fun node => Drafting.every_pure _

theorem every_reportDropped (node : Node) (cells : List (List Element)) :
    (reportDropped node cells).Every P := by
  induction cells with
  | nil => exact Drafting.every_pure ()
  | cons cell cells ih =>
    rw [reportDropped]
    dsimp only
    split
    · exact Drafting.Every.bind (Drafting.every_note (hwarn _)) fun _ => ih
    · exact ih

theorem every_toGrid (rows : List Element) : (toGrid rows).Every P := by
  rw [toGrid]
  split
  · exact every_skip hwarn "row_inner" "has no content"
  · split
    · exact every_toFeatures _ _
    · split
      · exact every_toStatistics _
      · refine Drafting.Every.bind (Drafting.every_node _) fun node => ?_
        exact Drafting.Every.bind (every_reportDropped hwarn node _) fun _ => Drafting.every_pure _

theorem every_toPricing {tables : List Element}
    (h : ∀ table ∈ tables, table.tag.Stores P) :
    (toPricing tables).Every P := by
  rw [toPricing]
  split
  · exact every_skip hwarn "pricing_tables" "has no plans"
  · refine Drafting.Every.bind (Drafting.every_node _) fun node => ?_
    exact Drafting.Every.bind (every_planRecords node h) fun _ => Drafting.every_pure _

theorem every_toQuestions (toggles : List Element) :
    (toQuestions toggles).Every P := by
  rw [toQuestions]
  split
  · exact every_skip hwarn "accordion" "has no questions"
  · exact Drafting.Every.bind (Drafting.every_node _) fun _ => Drafting.every_pure _

/-- A clean element is read without a report about a value. -/
theorem every_toNodes (h : element.Stores P) : element.toNodes.Every P := by
  have htag : ∀ table ∈ [element], table.tag.Stores P := by
    intro table htable
    exact List.mem_singleton.mp htable ▸ h.tag
  unfold toNodes
  split
  · exact every_toHeading hwarn h
  · exact every_toText hwarn h
  · exact every_toImage hwarn h
  · exact every_toButton hwarn h
  · exact every_toDivider h
  · exact every_toSpacer h
  · exact every_toBox h
  · exact every_toPricing hwarn fun table htable => h.findAll htable
  · exact every_toPricing hwarn htag
  · exact every_toTestimonial hwarn h
  · exact every_toQuestions hwarn _
  · exact every_toQuestions hwarn _
  · exact every_toFeatures _ _
  · exact every_toStatistics _
  · exact every_toUnknown hwarn element

end Warnings

end Element

namespace Forest

variable {P : Entry → Prop} (hwarn : ∀ message, P ⟨.warn, message, none⟩)
include hwarn

/-- What entries reading leaves is a matter of the elements that are read. -/
theorem isCompositional_every :
    IsCompositional (fun forest => ∀ tag ∈ Markup.tagsAll forest, tag.Stores P)
      (Drafting.Every P) where
  hereditary := isHereditary_tags (Tag.Stores P)
  nil := Drafting.every_pure []
  append _ _ _ hx hy hz :=
    hx.bind fun _ => hy.bind fun _ => hz.bind fun _ => Drafting.every_pure _
  warn message _ h := (Drafting.every_note (hwarn message)).bind fun _ => h
  text _ _ := (Drafting.every_node _).bind fun _ => Drafting.every_pure _
  grid rows _ := Element.every_toGrid hwarn rows
  element element h := Element.every_toNodes hwarn (by rwa [Markup.tagsAll_element] at h)

/-- Reading a forest leaves warnings and the entries about the values that are stored of its
tags. -/
theorem every_toNodes {forest : Forest} (h : ∀ tag ∈ Markup.tagsAll forest, tag.Stores P) :
    forest.toNodes.Every P :=
  (isCompositional_every hwarn).forest h

end Forest

/-! ### Whole pages

The entries of an import are those about values and others in a few phases.
-/

/-- The phases of an import that keeps all values. -/
def Phase.reading : List Phase := [.init, .style, .parse, .block, .warn, .success]

section Pages

variable {P : Entry → Prop}
  (hreading : ∀ {phase : Phase}, phase ∈ Phase.reading → ∀ message data, P ⟨phase, message, data⟩)
include hreading

/-- A background leaves an entry of its own and those about its color and its image. -/
theorem Node.every_withBackground {found : Option Background.Found}
    (hcolor : ∀ background ∈ found, ∀ value ∈ (Background.split background.value).1,
      ∀ node, (Restricted.bgColor.filterText value node).Every P)
    (himage : ∀ background ∈ found, ∀ value ∈ (Background.split background.value).2,
      ∀ node, (Restricted.bgImage.filterText value node).Every P) (node : Node) :
    (node.withBackground found).Every P := by
  cases found with
  | none => exact Drafting.every_pure node
  | some background =>
    simp only [withBackground]
    refine Drafting.Every.bind (Drafting.every_noteWith fun _ => ?_) fun _ => ?_
    · exact hreading (by decide) _ _
    · refine Drafting.Every.bind (every_styled (fun value hvalue => ?_) _) fun node => ?_
      · exact hcolor background rfl value hvalue _
      · exact every_styled (fun value hvalue => himage background rfl value hvalue _) _

/-- A background image leaves an entry of its own and those about its value. -/
theorem Node.every_withBackgroundImage {image : Option String}
    (h : ∀ value ∈ image, ∀ node, (Restricted.bgImage.filterText value node).Every P)
    (node : Node) : (node.withBackgroundImage image).Every P := by
  cases image with
  | none => exact Drafting.every_pure node
  | some value =>
    refine Drafting.Every.bind (Drafting.every_noteWith fun _ => ?_) fun _ => ?_
    · exact hreading (by decide) _ _
    · exact Node.every_styled (fun other hother => h other hother _) _

namespace Import

/-- Each node that is placed leaves an entry. -/
theorem every_place (zone : Option String) (nodes : List Node) (doc : Document) :
    (place zone nodes doc).Every P := by
  induction nodes generalizing doc with
  | nil => exact Drafting.every_pure doc
  | cons node nodes ih =>
    exact Drafting.Every.bind (Drafting.every_note (hreading (by decide) _ _)) fun _ => ih _

/-- Collecting the style of a page leaves entries about the style only. -/
theorem every_harvest (page : List Char) : (Background.harvest page).Every P := by
  have hnote (message : String) (data : Json) : (Traced.noteWith .style message data).Every P :=
    Traced.every_noteWith fun _ => hreading (by decide) _ _
  rw [Background.harvest]
  refine Traced.Every.whenTrue (hnote _ _) fun _ => ?_
  exact Traced.Every.whenTrue (hnote _ _) fun _ => Traced.every_pure _

/-- A page leaves the entries of what it names, some before them and one after them. -/
theorem every_pageAs {isMarkup : Bool} {content : String}
    (h : ∀ style, (drafted isMarkup style content.toList).Every P) :
    (pageAs isMarkup content).Every P := by
  have hnote {phase : Phase} (hphase : phase ∈ Phase.reading) (message : String) :
      (Traced.note phase message).Every P := Traced.every_note (hreading hphase _ _)
  rw [pageAs]
  refine Traced.Every.bind (hnote (by decide) _) fun _ => ?_
  refine Traced.Every.bind (every_harvest hreading _) fun style => ?_
  refine Traced.Every.bind (h style []) fun found => ?_
  exact Traced.Every.bind (hnote (by decide) _) fun _ => Traced.every_pure _

section Values

variable (hfilter : ∀ entry : Entry, entry.phase = .filter → P entry)
  (style : Background.PageStyle)
include hfilter

omit hreading in
theorem every_filterText (target : Restricted) (value : String) (node : Option String) :
    (target.filterText value node).Every P :=
  Restricted.every_filterText_of_filter hfilter target value node

omit hreading in
/-- Whatever tag is stored, the entries are about its values. -/
theorem stores_of_filter (tag : Tag) : tag.Stores P :=
  fun _ value _ node => every_filterText hfilter _ value node

omit hreading in
theorem every_styled (node : Node) (name : String) (target : Restricted) (raw : Option String) :
    (node.styled name target raw).Every P :=
  Node.every_styled (fun value _ => every_filterText hfilter target value _) name

theorem every_background (node : Node) (found : Option Background.Found) :
    (node.withBackground found).Every P :=
  node.every_withBackground hreading (fun _ _ value _ => every_filterText hfilter _ value)
    fun _ _ value _ => every_filterText hfilter _ value

/-- The node of a section leaves entries about its backgrounds and its padding. -/
theorem every_sectionNode (element : Element) : (sectionNode style element).Every P := by
  rw [sectionNode]
  refine Drafting.Every.bind (Drafting.every_node _) fun node => ?_
  refine Drafting.Every.bind (every_background hreading hfilter node _) fun node => ?_
  refine Drafting.Every.bind ?_ fun node => every_styled hfilter node _ _ _
  exact node.every_withBackgroundImage hreading fun value _ => every_filterText hfilter _ value

omit hreading in
/-- The node of a block leaves entries about its values. -/
theorem every_blockNode (block : Html.Block) : (blockNode block).Every P := by
  cases block with
  | heading level text align =>
    refine Drafting.Every.bind (Drafting.every_node _) fun node => ?_
    refine Drafting.Every.bind (every_styled hfilter _ _ _ _) fun node => ?_
    exact every_styled hfilter node _ _ _
  | paragraph text align =>
    exact Drafting.Every.bind (Drafting.every_node _) fun node => every_styled hfilter _ _ _ _
  | image src alt =>
    exact Drafting.Every.bind (Drafting.every_node _) fun node => every_styled hfilter _ _ _ _
  | button href label =>
    exact Drafting.Every.bind (Drafting.every_node _) fun node => every_styled hfilter _ _ _ _
  | divider => exact Drafting.every_node _

omit hreading in
theorem every_blockNodes (blocks : List Html.Block) : (blockNodes blocks).Every P := by
  induction blocks with
  | nil => exact Drafting.every_pure []
  | cons block blocks ih =>
    refine Drafting.Every.bind (every_blockNode hfilter block) fun node => ?_
    exact Drafting.Every.bind ih fun _ => Drafting.every_pure _

omit hfilter in
/-- A section leaves the entries of the nodes inside it and of placing them. -/
theorem every_placeSection {inside : Drafting (List Node)} (hinside : inside.Every P) (node : Node)
    (doc : Document) : (placeSection node inside doc).Every P := by
  refine Drafting.Every.bind (every_place hreading none [node] doc) fun doc => ?_
  exact Drafting.Every.bind hinside fun nodes => every_place hreading _ nodes doc

theorem every_placeForest (forest : Forest) (doc : Document) :
    (placeForest style forest doc).Every P := by
  have hnodes (forest : Forest) : forest.toNodes.Every P :=
    Forest.every_toNodes (fun _ => hreading (by decide) _ _) fun tag _ =>
      stores_of_filter hfilter tag
  induction forest generalizing doc with
  | nil => exact Drafting.every_pure doc
  | cons item items ih =>
    obtain ⟨step, hitem, hstep⟩ := exists_placesItem style item
    rw [hstep]
    refine Drafting.Every.bind ?_ ih
    cases hitem with
    | «section» _ =>
      exact Drafting.Every.bind (every_sectionNode hreading hfilter style _) fun node =>
        every_placeSection hreading (hnodes _) node doc
    | loose _ =>
      exact Drafting.Every.bind (hnodes _) fun nodes => every_place hreading none nodes doc

theorem every_placeItems (items : List Html.Item) (doc : Document) :
    (placeItems style items doc).Every P := by
  induction items generalizing doc with
  | nil => exact Drafting.every_pure doc
  | cons item items ih =>
    cases item with
    | «section» part =>
      rw [placeItems]
      have hhead : (htmlSectionNode style part).Every P :=
        Drafting.Every.bind (Drafting.every_node _) fun node =>
          every_background hreading hfilter node _
      have hblocks := every_blockNodes hfilter part.blocks
      exact hhead.bind fun node => (every_placeSection hreading hblocks node doc).bind ih
    | block block =>
      rw [placeItems]
      exact (every_blockNode hfilter block).bind fun node =>
        (every_place hreading none [node] doc).bind ih

/-- Whatever a page holds, and however it is read, its entries are about values or in the phases of
reading. -/
theorem every_pageAs_of_filter (isMarkup : Bool) (content : String) :
    (pageAs isMarkup content).Every P := by
  refine every_pageAs hreading fun style => ?_
  rw [drafted]
  split
  · refine Drafting.Every.bind (Drafting.every_note (hreading (by decide) _ _)) fun _ => ?_
    exact every_placeForest hreading hfilter style _ .empty
  · refine Drafting.Every.bind (Drafting.every_note (hreading (by decide) _ _)) fun _ => ?_
    exact every_placeItems hreading hfilter style _ .empty

end Values

end Import

end Pages

end PageMarkup
