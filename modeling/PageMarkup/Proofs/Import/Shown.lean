import PageMarkup.Proofs.Compile.Converted
import PageMarkup.Proofs.Compile.Reports
import PageMarkup.Proofs.Html.Blocks
import PageMarkup.Proofs.Import.Given
import PageMarkup.Proofs.Import.Kept

/-!
# What of an import is shown

An import makes a node where an element has a text that is not empty, and it makes a card of every
box and an image of every image of a rendered page that names a source.  A compilation shows a node
where it has a text that is not blank, a part, or a source that is allowed.  The two agree on most
nodes.  They differ where a text of the theme's markup turns blank when it is decoded, where nothing
is found in a box, and where a rendered page has an image with a source that is not allowed.  Such a
node is imported, warned of by every compilation, and counted by none.
-/

namespace PageMarkup

open Text Template

/-! ### Documents that are imported -/

namespace Document

variable {doc : Document} {made : List Kind}

/-- The nodes of a document that is imported, but for its sections, are reached once each. -/
theorem IsPlaced.reached_perm (h : doc.IsPlaced made) :
    (doc.topLevel.flatMap (Node.reached doc.reached)).Perm
      (doc.nodes.filter (!·.kind.isStructural)) := by
  have hids : (doc.nodes.map Node.id).Nodup := (issues_eq_nil_iff.mp h.issues_eq_nil).2.1
  have hreached : (doc.topLevel.flatMap (Node.reached doc.reached)).Nodup :=
    (nodup_visits hids).of_map.sublist doc.reached_sublist_visits
  refine (List.perm_ext_iff_of_nodup hreached (hids.of_map.filter _)).mpr fun node => ?_
  rw [h.mem_reached_iff, List.mem_filter, Bool.not_eq_true']

/-- The sections of a document that is imported stand on the top level. -/
theorem IsPlaced.countP_isStructural (h : doc.IsPlaced made) :
    doc.nodes.countP (·.kind.isStructural) = doc.topLevel.countP (·.kind.isStructural) := by
  have hzones : (doc.zones.flatMap Prod.snd).countP (·.kind.isStructural) = 0 := by
    rw [List.countP_eq_zero]
    intro node hnode
    obtain ⟨entry, hentry, hmem⟩ := List.mem_flatMap.mp hnode
    simp [h.isContent entry hentry node hmem]
  rw [Document.nodes, List.countP_append, hzones, Nat.add_zero]

/-- The compilation of a document that is imported counts the nodes that are shown. -/
theorem IsPlaced.convertedAll_outline (h : doc.IsPlaced made) :
    Outline.convertedAll doc.outline = doc.nodes.countP Node.isShown := by
  have hsections : (doc.nodes.filter (·.kind.isStructural)).countP Node.isShown =
      doc.nodes.countP (·.kind.isStructural) := by
    rw [List.countP_eq_length.mpr, List.countP_eq_length_filter]
    intro node hnode
    rw [Node.isShown, (List.mem_filter.mp hnode).2, Bool.true_or]
  have hothers : (doc.nodes.filter (!·.kind.isStructural)).countP Node.isShown =
      (Nodes.bodies (doc.topLevel.flatMap (Node.reached doc.reached))).length := by
    rw [← h.reached_perm.countP_eq, Nodes.countP_isShown]
    exact fun node hnode => (h.mem_reached_iff.mp hnode).2
  calc Outline.convertedAll doc.outline
      = doc.topLevel.countP (·.kind.isStructural) +
          (Nodes.bodies (doc.topLevel.flatMap (Node.reached doc.reached))).length := by
        rw [outline, convertedAll_outlineFrom]
        simp [Nodes.bodies]
    _ = doc.nodes.countP Node.isShown := by
        rw [List.countP_eq_countP_filter_add doc.nodes Node.isShown (·.kind.isStructural),
          hsections, hothers, h.countP_isStructural]

/-- The compilation of a document that is imported warns of a node exactly if one is not shown. -/
theorem IsPlaced.not_warn_iff (h : doc.IsPlaced made) (limit : Nat) :
    (∀ entry ∈ doc.compile.entries limit, entry.phase ≠ .warn) ↔
      ∀ node ∈ doc.nodes, node.isShown = true := by
  constructor
  · intro hquiet node hnode
    by_contra hshown
    rw [Node.isShown, Bool.or_eq_true, not_or, Option.isSome_iff_ne_none, not_not] at hshown
    obtain ⟨hkind, hnone⟩ := hshown
    have hleaf : node.kind ≠ .section := fun hsection => hkind (Kind.isStructural_iff.mpr hsection)
    have hvisit : node ∈ doc.visits := by
      apply doc.reached_sublist_visits.subset
      exact h.mem_reached_iff.mpr ⟨hnode, by simpa using hkind⟩
    -- a node that is reached and not shown is warned of
    obtain ⟨entry, hentry, hwarn⟩ :=
      doc.leaves_compile (Node.isMarked_warn limit hleaf hnone) hvisit
    exact hquiet entry hentry hwarn
  · intro hshown
    have hplain {phase : Phase} (hphase : phase ∈ Phase.plain) (message : String)
        (data : Option Json) : (Entry.mk phase message data).phase ≠ .warn := by
      rintro rfl
      exact absurd hphase (by decide)
    have hfilter (entry : Entry) (hphase : entry.phase = .filter) : entry.phase ≠ .warn := by
      rw [hphase]
      decide
    refine every_compile_of_isContent hplain h.issues_eq_nil h.isContent
      (fun node _ => node.every_attributes hfilter) (fun node hnode hkind => ?_) limit
    intro run entry hentry
    have hknown := (h.areNumbered.isNumbered node hnode).isKnown
    have hmarkup : (node.template.result run).isSome := by
      have hnode := hshown node hnode
      rwa [Node.isShown, Bool.or_eq_true, or_iff_right hkind, ← Node.result_template run] at hnode
    have hplain := Node.isPlain_template (fun h => hkind (Kind.isStructural_iff.mpr h)) hknown
    exact hplain.not_warn hmarkup entry hentry

end Document

/-! ### Elements of the theme's markup -/

/-- The kinds of nodes that the theme's markup or a rendered page may be read as with nothing to
show. -/
def Import.bareKinds (isMarkup : Bool) : List Kind :=
  if isMarkup then [.heading, .button, .card, .testimonial, .hero] else [.image]

namespace Nodes

/-- Each of the nodes agrees. -/
def Agree (bare : List Kind) (nodes : List Node) : Prop :=
  ∀ node ∈ nodes, node.Agrees bare

variable {bare : List Kind}

theorem agree_nil : Agree bare [] :=
  List.forall_mem_nil _

theorem agree_singleton {node : Node} (h : node.Agrees bare) : Agree bare [node] :=
  List.forall_mem_singleton.mpr h

theorem Agree.append {nodes others : List Node} (h : Agree bare nodes)
    (hothers : Agree bare others) : Agree bare (nodes ++ others) :=
  List.forall_mem_append.mpr ⟨h, hothers⟩

end Nodes

namespace Element

open Nodes Drafting Import Node

variable (element : Element)

theorem agree_toHeading : element.toHeading.Ensures (Agree (bareKinds true)) := by
  intro limit made
  cases htitle : nonempty? element.plainText with
  | none =>
    rw [toHeading, htitle]
    exact agree_nil
  | some title =>
    rw [result_toHeading htitle]
    exact agree_singleton (agrees_of_mem (by simp [bareKinds])
      (isShown_heading (by simp) (by simp)))

theorem agree_toText : element.toText.Ensures (Agree (bareKinds true)) := by
  intro limit made
  cases hbody : nonempty? element.richText with
  | none =>
    rw [toText, hbody]
    exact agree_nil
  | some body =>
    have hblank := allBlank_of_nonempty?_rich hbody
    rw [result_toText hbody]
    exact agree_singleton (agrees_of_isShown (by simp [hasContent])
      (isShown_text (by simp) (by simp) hblank (by simp)))

/-- Without a source that is allowed no image is read. -/
theorem agree_toImage : element.toImage.Ensures (Agree (bareKinds true)) := by
  intro limit made
  cases hsrc : (element.attribute? "src").bind Restricted.src.allow with
  | none =>
    rw [result_toImage_of_none hsrc]
    exact agree_nil
  | some src =>
    have hnormal : IsNormal .src (some src) := hsrc ▸ isNormal_bind_allow _ _
    rw [result_toImage hsrc]
    have hcontent : hasContent ((((Node.next made .image).withText "alt"
        (element.attribute? "alt")).withText "src" (some src)).withText "align"
          ((element.attribute? "align").bind Restricted.align.allow)) = true := by
      simp [hasContent, Dict.has]
    refine agree_singleton (agrees_of_isShown hcontent ?_)
    rw [isShown_image (by simp) (some src) (by simp) hnormal (by simp), hcontent]

theorem agree_toButton : element.toButton.Ensures (Agree (bareKinds true)) := by
  intro limit made
  cases hlabel : nonempty? element.plainText with
  | none =>
    rw [toButton, hlabel]
    exact agree_nil
  | some label =>
    rw [result_toButton hlabel]
    exact agree_singleton (agrees_of_mem (by simp [bareKinds])
      (isShown_button (by simp) (by simp)))

theorem agree_toDivider : element.toDivider.Ensures (Agree (bareKinds true)) := by
  intro limit made
  rw [result_toDivider]
  exact agree_singleton (agrees_of_isShown (by simp [hasContent])
    (by simp [Node.isShown, markup?]))

theorem agree_toSpacer : element.toSpacer.Ensures (Agree (bareKinds true)) := by
  intro limit made
  rw [result_toSpacer]
  exact agree_singleton (agrees_of_isShown (by simp [hasContent])
    (by simp [Node.isShown, markup?]))

/-- A text node with a text that is not blank agrees. -/
theorem agrees_text (bare : List Kind) (made : List Kind) {body : String}
    (hblank : allBlank body.toList = false) :
    ((Node.next made .text).withProp "text" (.text body)).Agrees bare :=
  agrees_of_isShown (by simp [hasContent]) (isShown_text (by simp) (by simp) hblank (by simp))

theorem agree_toUnknown : element.toUnknown.Ensures (Agree (bareKinds true)) := by
  intro limit made
  cases hbody : nonempty? element.richText with
  | none =>
    rw [toUnknown, hbody]
    exact agree_nil
  | some body =>
    rw [toUnknown, hbody]
    exact agree_singleton (agrees_text _ made (allBlank_of_nonempty?_rich hbody))

theorem agree_toTestimonial : element.toTestimonial.Ensures (Agree (bareKinds true)) := by
  intro limit made
  cases hquote : nonempty? element.plainText with
  | none =>
    rw [toTestimonial, hquote]
    exact agree_nil
  | some quote =>
    rw [result_toTestimonial hquote]
    exact agree_singleton (agrees_of_mem (by simp [bareKinds])
      (isShown_testimonial (by simp) (by simp)))

/-- Every box is read as a card or a hero, whatever was found in it. -/
theorem agree_toBox : element.toBox.Ensures (Agree (bareKinds true)) := by
  intro limit made
  have hsrc : IsNormal .src (BoxContent.found element).src := isNormal_bind_bind _ _ _
  rw [BoxContent.result_toBox]
  generalize BoxContent.found element = box at hsrc ⊢
  refine agree_singleton ?_
  cases hhero : box.isHero with
  | true =>
    have hkind : (box.node made).kind = .hero := by simp [BoxContent.kind, hhero]
    refine agrees_of_mem (by rw [hkind]; simp [bareKinds]) (isShown_hero hkind ?_)
    simp [BoxContent.node, hhero]
  | false =>
    have hkind : (box.node made).kind = .card := by simp [BoxContent.kind, hhero]
    refine agrees_of_mem (by rw [hkind]; simp [bareKinds]) (isShown_card hkind box.src ?_ hsrc ?_)
    · simp [BoxContent.node, hhero]
    · simp [BoxContent.node, hhero]

theorem agree_toFeatures {blurbs : List Element} (hne : blurbs ≠ []) (columns : Nat) :
    (toFeatures blurbs columns).Ensures (Agree (bareKinds true)) := by
  intro limit made
  rw [result_toFeatures]
  exact agree_singleton (agrees_of_isShown rfl
    (isShown_featureGrid rfl (blurbs.map featureFields) (by simp) (by simpa using hne)))

theorem agree_toStatistics {counters : List Element} (hne : counters ≠ []) :
    (toStatistics counters).Ensures (Agree (bareKinds true)) := by
  intro limit made
  rw [result_toStatistics]
  exact agree_singleton (agrees_of_isShown rfl
    (isShown_statsRow rfl (counters.map statisticFields) (by simp) (by simpa using hne)))

theorem agree_toPricing (tables : List Element) :
    (toPricing tables).Ensures (Agree (bareKinds true)) := by
  intro limit made
  rw [toPricing]
  split
  · exact agree_nil
  · rename_i hne
    simp only [Drafting.result_bind, Drafting.result_node, result_planRecords, Drafting.result_pure]
    exact agree_singleton (agrees_of_isShown rfl
      (isShown_pricingCards rfl (tables.map planFields) (by simp) (by simpa using hne)))

theorem agree_toQuestions (toggles : List Element) :
    (toQuestions toggles).Ensures (Agree (bareKinds true)) := by
  intro limit made
  obtain ⟨items, hitems, -⟩ := exists_filterMap_questionRecord? toggles
  by_cases hne : items = []
  · subst hne
    rw [toQuestions, hitems]
    exact agree_nil
  · rw [result_toQuestions hitems hne]
    exact agree_singleton (agrees_of_isShown rfl (isShown_faq rfl items (by simp) hne))

/-- A grid with anything in its cells has cells. -/
theorem agree_toGrid (rows : List Element) : (toGrid rows).Ensures (Agree (bareKinds true)) := by
  intro limit made
  rw [toGrid]
  split
  · exact agree_nil
  · rename_i hcontents
    have hne : (rows.map cells).flatten.flatten ≠ [] := by simpa using hcontents
    have hcells : (rows.map cells).flatten ≠ [] := by
      intro hnil
      exact hne (by rw [hnil]; rfl)
    split
    · exact agree_toFeatures hne _ limit made
    · split
      · exact agree_toStatistics hne limit made
      · simp only [Drafting.result_bind, Drafting.result_node, result_reportDropped,
          Drafting.result_pure, map_columnRecord]
        exact agree_singleton (agrees_of_isShown rfl (isShown_columns rfl
          ((rows.map cells).flatten.map columnFields) (by simp) (by simpa using hcells)))

/-- Whatever an element holds, the nodes that it is read as agree. -/
theorem agree_toNodes : element.toNodes.Ensures (Agree (bareKinds true)) := by
  unfold toNodes
  split
  · exact element.agree_toHeading
  · exact element.agree_toText
  · exact element.agree_toImage
  · exact element.agree_toButton
  · exact element.agree_toDivider
  · exact element.agree_toSpacer
  · exact element.agree_toBox
  · exact agree_toPricing _
  · exact agree_toPricing _
  · exact element.agree_toTestimonial
  · exact agree_toQuestions _
  · exact agree_toQuestions _
  · exact agree_toFeatures (List.cons_ne_nil element []) 1
  · exact agree_toStatistics (List.cons_ne_nil element [])
  · exact element.agree_toUnknown

end Element

namespace Forest

open Nodes Drafting

/-- Reading keeps nodes in agreement; a text between elements is read only if it is not blank. -/
theorem isCompositional_agree :
    IsCompositional (fun _ => True) (Ensures (Agree (Import.bareKinds true))) where
  hereditary := ⟨id, id, id⟩
  nil := ensures_pure agree_nil
  append _ _ _ hx hy hz := hx.bind fun _ hbefore => hy.bind fun _ hhere => hz.bind fun _ hafter =>
    ensures_pure ((hbefore.append hhere).append hafter)
  warn _ _ h := (ensures_true _).bind fun _ _ => h
  text _ hblank := fun _ made =>
    agree_singleton (Element.agrees_text _ made (Element.allBlank_rich_toList hblank))
  grid rows _ := Element.agree_toGrid rows
  element element _ := element.agree_toNodes

end Forest

/-! ### Placing -/

namespace Document

variable {doc : Document} {P : Node → Prop}

/-- The nodes of a document with one more node in a zone. -/
theorem forall_mem_nodes_pushZone (hdoc : ∀ node ∈ doc.nodes, P node) (key : String) {added : Node}
    (hadded : P added) : ∀ node ∈ (doc.pushZone key added).nodes, P node := by
  intro node hnode
  rcases List.mem_append.mp hnode with htop | hzone
  · exact hdoc node (List.mem_append_left _ htop)
  · obtain ⟨entry, hentry, hmem⟩ := List.mem_flatMap.mp hzone
    have hold (entry : String × List Node) (hentry : entry ∈ doc.zones) (node : Node)
        (hnode : node ∈ entry.2) : P node :=
      hdoc node (List.mem_append_right _ (List.mem_flatMap.mpr ⟨entry, hentry, hnode⟩))
    rcases Dict.mem_insert hentry with rfl | hentry
    · rcases List.mem_append.mp hmem with hmem | hmem
      · cases hkey : Dict.get? key doc.zones with
        | none => simp [hkey] at hmem
        | some nodes =>
          rw [hkey] at hmem
          exact hold (key, nodes) (Dict.mem_of_get? hkey) node hmem
      · obtain rfl := List.mem_singleton.mp hmem
        exact hadded
    · exact hold entry hentry node hmem

end Document

namespace Import

open Nodes Drafting

variable {doc : Document} {bare : List Kind}

/-- The nodes of the document agree. -/
def Agree (bare : List Kind) (doc : Document) : Prop :=
  Nodes.Agree bare doc.nodes

theorem agree_empty : Agree bare .empty :=
  agree_nil

/-- The nodes of a document agree as nodes that agree are added. -/
theorem isKeptAdding_agree : IsKeptAdding (Node.Agrees bare) (Agree bare) where
  push {doc node} hdoc hnode := by
    intro other hother
    rcases List.mem_append.mp ((doc.nodes_push_perm [node]).mem_iff.mp hother) with hold | hnew
    · exact hdoc other hold
    · obtain rfl := List.mem_singleton.mp hnew
      exact hnode
  pushZone key hdoc hnode := Document.forall_mem_nodes_pushZone hdoc key hnode

/-- A section that is drafted is a node that agrees. -/
theorem DraftsSection.ensures_agrees {head : Drafting Node} (h : DraftsSection head) :
    head.Ensures (Node.Agrees bare) := by
  intro limit made
  obtain ⟨node, hresult, hkind, -⟩ := h limit made
  rw [hresult]
  exact Node.agrees_section hkind

/-- A block is read as a node that is shown, but for an image whose source is not allowed. -/
theorem agrees_blockNode {block : Html.Block} (h : block.IsVisible) :
    (blockNode block).Ensures (Node.Agrees (bareKinds false)) := by
  intro limit made
  cases block with
  | heading level text align =>
    have hblank : allBlank text.toList = false := h text List.mem_cons_self
    simp only [blockNode, Drafting.result_bind, Drafting.result_node, Node.result_styled]
    refine Node.agrees_of_hasContent ?_ (Node.isShown_heading (by simp) (by simp))
    simp only [Node.hasContent, Node.kind_withText, Node.kind_withProp]
    exact Node.hasText_of_get? (by simp) hblank
  | paragraph text align =>
    have hblank : allBlank text.toList = false := h text List.mem_cons_self
    simp only [blockNode, Drafting.result_bind, Drafting.result_node, Node.result_styled]
    exact Node.agrees_of_isShown (by simp [Node.hasContent])
      (Node.isShown_text (by simp) (by simp) hblank (by simp))
  | image src alt =>
    have hnormal := isNormal_bind_allow .src (some src)
    simp only [blockNode, Drafting.result_bind, Drafting.result_node, Node.result_styled]
    exact Node.agrees_of_mem (by simp [bareKinds])
      (Node.isShown_image (by simp) _ (by simp) hnormal (by simp))
  | button href label =>
    have hblank : allBlank label.toList = false := h label List.mem_cons_self
    simp only [blockNode, Drafting.result_bind, Drafting.result_node, Node.result_styled]
    refine Node.agrees_of_hasContent ?_ (Node.isShown_button (by simp) (by simp))
    simp only [Node.hasContent, Node.kind_withText, Node.kind_withProp]
    exact Node.hasText_of_get? (by simp) hblank
  | divider =>
    exact Node.agrees_of_isShown rfl rfl

/-- The nodes of a document that is imported agree. -/
theorem agree_pageAs (isMarkup : Bool) (content : String) (limit : Nat) :
    Agree (bareKinds isMarkup) ((pageAs isMarkup content).result limit) := by
  rw [result_pageAs, drafted]
  cases isMarkup with
  | true =>
    refine ((ensures_true _).bind fun _ _ => ?_) limit []
    exact isKeptAdding_agree.ensures_placeForest Forest.isCompositional_agree
      (fun element => (draftsSection_sectionNode _ element).ensures_agrees) trivial agree_empty
  | false =>
    refine ((ensures_true _).bind fun _ _ => ?_) limit []
    exact isKeptAdding_agree.ensures_placeItems
      (fun part => (draftsSection_htmlSectionNode _ part).ensures_agrees)
      (fun _ hitem block hblock => agrees_blockNode (Html.isVisible_of_mem_items hitem block hblock))
      agree_empty

/-! ### Importing and publishing -/

/-- Whatever a page holds, and however it is read, the compilation of the imported document counts
the nodes that were given something to show, and it warns unless all were.  Of the theme's markup
only headings, buttons, testimonials and boxes may be imported with nothing to show, of a rendered
page only images. -/
theorem compile_pageAs_shows (isMarkup : Bool) (content : String) (imported published : Nat) :
    let doc := (pageAs isMarkup content).result imported
    (doc.compile.entries published).getLast? = some ⟨.success,
      "Compiled " ++ toString (doc.nodes.countP Node.hasContent) ++ " nodes into " ++
        toString (Text.size (doc.compile.result published).toList) ++ " bytes", none⟩ ∧
    ((∀ entry ∈ doc.compile.entries published, entry.phase ≠ .warn) ↔
      ∀ node ∈ doc.nodes, node.hasContent = true) ∧
    ∀ node ∈ doc.nodes, node.hasContent = false → node.kind ∈ bareKinds isMarkup := by
  intro doc
  obtain ⟨made, hplaced⟩ : ∃ made, doc.IsPlaced made :=
    exists_isPlaced_pageAs imported isMarkup content
  have hagree : Agree (bareKinds isMarkup) doc := agree_pageAs isMarkup content imported
  have hshown {node : Node} (hnode : node ∈ doc.nodes) : node.isShown = node.hasContent :=
    (hagree node hnode).isShown_eq
  refine ⟨?_, ?_, fun node hnode => (hagree node hnode).kind_mem⟩
  · have hcount : doc.nodes.countP Node.isShown = doc.nodes.countP Node.hasContent :=
      List.countP_congr fun node hnode => by rw [hshown hnode]
    rw [doc.getLast?_entries_compile, hplaced.convertedAll_outline, hcount]
  · rw [hplaced.not_warn_iff]
    exact forall₂_congr fun node hnode => by rw [hshown hnode]

/-- An image of a rendered page whose source is not allowed is imported, but it is not published:
the compilation warns of it and counts no node. -/
theorem compile_pageAs_warns_of_image :
    let doc := (pageAs false "<img src=\"javascript:alert(1)\">").result 512
    doc.nodes.length = 1 ∧
      (doc.compile.entries 512).map Entry.line = [
        "INIT Compiling document: 1 top-level nodes, 0 zones",
        "WARN Image image-1 has no usable src; skipped",
        "SUCCESS Compiled 0 nodes into 0 bytes"] := by
  decide +kernel

end Import

end PageMarkup
