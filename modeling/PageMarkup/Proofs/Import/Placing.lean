import PageMarkup.Proofs.Import.Drafts
import PageMarkup.Proofs.Import.Page

/-!
# Documents that are imported

An import places sections on the top level, fills the zone of each with what stands inside it, and
places everything else on the top level.  What one item adds keeps the document well formed, so a
document that is imported is: its nodes have different ids, every zone belongs to one of its
sections, and no zone holds a section.  This holds of any content, read in either way.
-/

namespace PageMarkup

open Text

/-! ### Nodes that are placed -/

namespace Document

variable {doc : Document} {key : String}

/-- The nodes that are placed on the top level are added to the document. -/
theorem nodes_push_perm (doc : Document) (nodes : List Node) :
    ({ doc with topLevel := doc.topLevel ++ nodes } : Document).nodes.Perm
      (doc.nodes ++ nodes) := by
  rw [Document.nodes, Document.nodes, List.append_assoc, List.append_assoc]
  exact List.Perm.append_left _ List.perm_append_comm

/-- The nodes that are placed in a free zone are its nodes. -/
theorem zones_pushAll (h : doc.zone? key = none) (node : Node) (nodes : List Node) :
    (doc.pushAll key (node :: nodes)).zones = Dict.insert key (node :: nodes) doc.zones := by
  -- Once the zone has an entry, each further node replaces it by a longer one.
  have hmore (placed nodes : List Node) :
      ({ doc with zones := Dict.insert key placed doc.zones }.pushAll key nodes).zones =
        Dict.insert key (placed ++ nodes) doc.zones := by
    induction nodes generalizing placed with
    | nil => rw [List.append_nil]; rfl
    | cons next nodes ih =>
      have hpush : { doc with zones := Dict.insert key placed doc.zones }.pushZone key next =
          { doc with zones := Dict.insert key (placed ++ [next]) doc.zones } := by
        simp [pushZone, Dict.modify, Dict.insert_insert]
      have hnodes : placed ++ next :: nodes = placed ++ [next] ++ nodes := by simp
      rw [hnodes, ← ih, pushAll, List.foldl_cons, hpush]
      rfl
  have hpush : doc.pushZone key node = { doc with zones := Dict.insert key [node] doc.zones } := by
    rw [zone?] at h
    simp [pushZone, Dict.modify, h]
  rw [pushAll, List.foldl_cons, hpush]
  exact hmore [node] nodes

/-- The nodes that are placed in a free zone are added to the document. -/
theorem nodes_pushAll_perm (h : doc.zone? key = none) (nodes : List Node) :
    (doc.pushAll key nodes).nodes.Perm (doc.nodes ++ nodes) := by
  cases nodes with
  | nil =>
    rw [List.append_nil]
    exact List.Perm.refl _
  | cons node nodes =>
    have hzones := (Dict.insert_perm (node :: nodes) h).flatMap_right Prod.snd
    rw [Document.nodes, Document.nodes, topLevel_pushAll, zones_pushAll h, List.append_assoc]
    refine List.Perm.append_left _ (hzones.trans ?_)
    exact List.perm_append_comm

end Document

/-! ### Documents that are well formed -/

namespace Document

/-- The document is placed while the kinds of the nodes made grow to `made`: its nodes have ids and
properties as an import gives them, every zone belongs to a section on the top level, no two zones
have the same key, and no zone holds a section. -/
structure IsPlaced (doc : Document) (made : List Kind) : Prop where
  areNumbered : Nodes.AreNumbered [] doc.nodes made
  nodup_keys : (doc.zones.map Prod.fst).Nodup
  isOwned : ∀ entry ∈ doc.zones, ∃ node ∈ doc.topLevel,
    node.kind = .section ∧ entry.1 = node.contentKey
  isContent : ∀ entry ∈ doc.zones, ∀ node ∈ entry.2, node.kind.isStructural = false

variable {doc : Document} {made after : List Kind}

theorem isPlaced_empty : IsPlaced .empty [] where
  areNumbered := .nil fun _ => Nat.le_refl _
  nodup_keys := List.nodup_nil
  isOwned _ hentry := absurd hentry List.not_mem_nil
  isContent _ hentry := absurd hentry List.not_mem_nil

/-- Nodes are placed on the top level. -/
theorem IsPlaced.push (h : doc.IsPlaced made) {nodes : List Node}
    (hnodes : Nodes.AreNumbered made nodes after) :
    IsPlaced { doc with topLevel := doc.topLevel ++ nodes } after where
  areNumbered := (h.areNumbered.append hnodes).perm (doc.nodes_push_perm nodes).symm
  nodup_keys := h.nodup_keys
  isOwned entry hentry := by
    obtain ⟨node, hnode, howner⟩ := h.isOwned entry hentry
    exact ⟨node, List.mem_append_left nodes hnode, howner⟩
  isContent := h.isContent

/-- The zone of the section that is made next is free. -/
theorem IsPlaced.zone?_eq_none (h : doc.IsPlaced made) {node : Node}
    (hid : node.id = Drafting.idOf .section (made.count .section + 1)) :
    doc.zone? node.contentKey = none := by
  rw [zone?, Dict.get?_eq_none_iff]
  intro hkey
  obtain ⟨entry, hentry, hsection⟩ := List.mem_map.mp hkey
  obtain ⟨owner, howner, hkind, hzone⟩ := h.isOwned entry hentry
  obtain ⟨given, -, hhigh, hgiven⟩ :=
    (h.areNumbered.isNumbered owner (List.mem_append_left _ howner)).exists_number
  rw [hkind] at hhigh hgiven
  have hsame : sectionKey given = sectionKey (made.count .section + 1) := by
    rw [sectionKey, sectionKey, ← hgiven, ← hid]
    exact hzone.symm.trans hsection
  have hnumber := sectionKey_inj hsame
  omega

/-- Nodes are placed in the zone of a section, which was free. -/
theorem IsPlaced.pushAll (h : doc.IsPlaced made) {node : Node} (hnode : node ∈ doc.topLevel)
    (hkind : node.kind = .section) (hfree : doc.zone? node.contentKey = none) {nodes : List Node}
    (hnodes : Drafted made nodes after) : (doc.pushAll node.contentKey nodes).IsPlaced after := by
  have hnumbered := (h.areNumbered.append hnodes.toAreNumbered).perm
    (nodes_pushAll_perm hfree nodes).symm
  cases nodes with
  -- without nodes no zone is added
  | nil => exact ⟨hnumbered, h.nodup_keys, h.isOwned, h.isContent⟩
  | cons first rest =>
    have hzones := zones_pushAll hfree first rest
    have hmem {entry : String × List Node}
        (hentry : entry ∈ (doc.pushAll node.contentKey (first :: rest)).zones) :
        entry = (node.contentKey, first :: rest) ∨ entry ∈ doc.zones := by
      rw [hzones] at hentry
      exact Dict.mem_insert hentry
    refine ⟨hnumbered, ?_, ?_, ?_⟩
    · have hkey : node.contentKey ∉ doc.zones.map Prod.fst := Dict.get?_eq_none_iff.mp hfree
      rw [hzones, ((Dict.insert_perm (first :: rest) hfree).map Prod.fst).nodup_iff]
      exact List.nodup_cons.mpr ⟨hkey, h.nodup_keys⟩
    · intro entry hentry
      rw [topLevel_pushAll]
      rcases hmem hentry with rfl | hentry
      · exact ⟨node, hnode, hkind, rfl⟩
      · exact h.isOwned entry hentry
    · intro entry hentry
      rcases hmem hentry with rfl | hentry
      · exact hnodes.isContent
      · exact h.isContent entry hentry

/-- A section is placed with the nodes inside it. -/
theorem IsPlaced.placeSection (h : doc.IsPlaced made) {node : Node} (hkind : node.kind = .section)
    (hid : node.id = Drafting.idOf .section (made.count .section + 1)) (hstored : node.IsStored)
    {nodes : List Node} (hnodes : Drafted (.section :: made) nodes after) :
    ({ doc with topLevel := doc.topLevel ++ [node] }.pushAll node.contentKey nodes).IsPlaced
      after := by
  have hplaced := h.push (.one hkind hid rfl hstored)
  exact hplaced.pushAll (List.mem_append_right _ List.mem_cons_self) hkind (h.zone?_eq_none hid)
    hnodes

/-- A section that is placed is added to the document together with the nodes inside it. -/
theorem IsPlaced.nodes_placeSection_perm (h : doc.IsPlaced made) {node : Node}
    (hid : node.id = Drafting.idOf .section (made.count .section + 1)) (nodes : List Node) :
    ({ doc with topLevel := doc.topLevel ++ [node] }.pushAll node.contentKey nodes).nodes.Perm
      (doc.nodes ++ node :: nodes) := by
  have hfree : ({ doc with topLevel := doc.topLevel ++ [node] } : Document).zone?
      node.contentKey = none := h.zone?_eq_none hid
  have hinside := nodes_pushAll_perm hfree nodes
  have hhead := (doc.nodes_push_perm [node]).append_right nodes
  rw [List.append_assoc] at hhead
  exact hinside.trans hhead

end Document

/-! ### Sections and blocks -/

namespace Import

variable (limit : Nat) (made : List Kind) (style : Background.PageStyle)

/-- The computation drafts the next section. -/
def DraftsSection (head : Drafting Node) : Prop :=
  ∀ limit made, ∃ node, head.result limit made = (node, .section :: made) ∧
    node.kind = .section ∧ node.id = Drafting.idOf .section (made.count .section + 1) ∧
    node.IsStored

/-- Any section of the theme's markup is read as the next section, with what is allowed of the
backgrounds that are found for it, of its image and of its padding. -/
theorem draftsSection_sectionNode (element : Element) :
    DraftsSection (sectionNode style element) := by
  intro limit made
  simp only [sectionNode, Drafting.result_bind, Drafting.result_node, result_withBackground,
    result_withBackgroundImage, Node.result_styled]
  refine ⟨_, rfl, by simp, by simp, ?_⟩
  exact ((((Node.isStored_next made .section).withAllowed rfl _).withAllowed rfl _).withAllowed rfl
    _).withAllowed rfl _

/-- Any section of a rendered page is read as the next section, with what is allowed of the
background that is found for it. -/
theorem draftsSection_htmlSectionNode (part : Html.Section) :
    DraftsSection (htmlSectionNode style part) := by
  intro limit made
  simp only [htmlSectionNode, Drafting.result_bind, Drafting.result_node, result_withBackground]
  refine ⟨_, rfl, by simp, by simp, ?_⟩
  exact ((Node.isStored_next made .section).withAllowed rfl _).withAllowed rfl _

/-- A block is read as a node of its kind. -/
theorem drafted_blockNode (block : Html.Block) :
    Drafted made [((blockNode block).result limit made).1]
      ((blockNode block).result limit made).2 := by
  cases block with
  | heading level text align =>
    have hstored := (Node.isStored_next made .heading).withFree
      (show Restricted.IsFree "title" by decide) (some text)
    simp only [blockNode, Drafting.result_bind, Drafting.result_node, Node.result_styled]
    refine Drafted.one (by simp) (by simp) (by decide) ?_
    exact (hstored.withAllowed (show Restricted.ofStored? "level" = some .level from rfl)
      (some (toString level))).withAllowed rfl align
  | paragraph text align =>
    have hstored := (Node.isStored_next made .text).withFree
      (show Restricted.IsFree "text" by decide) (some text)
    simp only [blockNode, Drafting.result_bind, Drafting.result_node, Node.result_styled]
    exact Drafted.one (by simp) (by simp) (by decide) (hstored.withAllowed rfl align)
  | image src alt =>
    have hstored := (Node.isStored_next made .image).withFree
      (show Restricted.IsFree "alt" by decide) alt
    simp only [blockNode, Drafting.result_bind, Drafting.result_node, Node.result_styled]
    exact Drafted.one (by simp) (by simp) (by decide) (hstored.withAllowed rfl (some src))
  | button href label =>
    have hstored := (Node.isStored_next made .button).withFree
      (show Restricted.IsFree "label" by decide) (some label)
    simp only [blockNode, Drafting.result_bind, Drafting.result_node, Node.result_styled]
    exact Drafted.one (by simp) (by simp) (by decide) (hstored.withAllowed rfl href)
  | divider => exact Drafted.one rfl rfl (by decide) (Node.isStored_next made .divider)

/-- The nodes of some blocks are drafted one after another. -/
theorem drafts_blockNodes (blocks : List Html.Block) : Drafts (blockNodes blocks) := by
  intro limit made
  induction blocks generalizing made with
  | nil => exact Drafted.nil made
  | cons block blocks ih =>
    have hfirst := drafted_blockNode limit made block
    have hrest := ih ((blockNode block).result limit made).2
    exact hfirst.append hrest

/-! ### Items one after another -/

/-- The step keeps a document well formed, whatever nodes were made before. -/
def Places (step : Document → Drafting Document) : Prop :=
  ∀ limit made doc, doc.IsPlaced made →
    ((step doc).result limit made).1.IsPlaced ((step doc).result limit made).2

/-- Steps one after another keep a document well formed. -/
theorem Places.bind {step next : Document → Drafting Document} (h : Places step)
    (hnext : Places next) : Places fun doc => step doc >>= next := by
  intro limit made doc hdoc
  exact hnext limit _ _ (h limit made doc hdoc)

/-- Nodes are placed on the top level. -/
theorem places_place {nodes : Drafting (List Node)} (h : Drafts nodes) :
    Places (fun doc => do place none (← nodes) doc) := by
  intro limit made doc hdoc
  rw [Drafting.result_bind, result_place_none]
  exact hdoc.push (h limit made).toAreNumbered

/-- A section is placed with the nodes inside it. -/
theorem places_placeSection {head : Drafting Node} {inside : Drafting (List Node)}
    (hhead : DraftsSection head) (hinside : Drafts inside) :
    Places (fun doc => do placeSection (← head) inside doc) := by
  intro limit made doc hdoc
  obtain ⟨node, hresult, hkind, hid, hstored⟩ := hhead limit made
  rw [Drafting.result_bind, hresult, result_placeSection]
  exact hdoc.placeSection hkind hid hstored (hinside limit (.section :: made))

theorem PlacesItem.places {item : Markup} {step : Document → Drafting Document}
    (h : PlacesItem style item step) : Places step := by
  cases h with
  | «section» _ =>
    exact places_placeSection (draftsSection_sectionNode style _) (Forest.drafts_toNodes _)
  | loose _ => exact places_place (Forest.drafts_toNodes _)

/-- Whatever a forest holds, placing what its items name keeps a document well formed. -/
theorem places_placeForest (forest : Forest) : Places (placeForest style forest) := by
  induction forest with
  | nil => exact fun limit made doc h => h
  | cons item items ih =>
    obtain ⟨step, hitem, hstep⟩ := exists_placesItem style item
    intro limit made doc hdoc
    rw [hstep]
    exact (hitem.places style).bind ih limit made doc hdoc

/-- Whatever a rendered page holds, placing what its items name keeps a document well formed. -/
theorem places_placeItems (items : List Html.Item) : Places (placeItems style items) := by
  induction items with
  | nil => exact fun limit made doc h => h
  | cons item items ih =>
    intro limit made doc hdoc
    cases item with
    | «section» part =>
      have hsection := places_placeSection (draftsSection_htmlSectionNode style part)
        (drafts_blockNodes part.blocks)
      rw [placeItems]
      exact hsection.bind ih limit made doc hdoc
    | block block =>
      rw [placeItems]
      have hone : Drafts (do return [← blockNode block]) := fun limit made =>
        drafted_blockNode limit made block
      exact (places_place hone).bind ih limit made doc hdoc

/-- Whatever a page holds, and however it is read, the document that is imported is well formed. -/
theorem exists_isPlaced_pageAs (isMarkup : Bool) (content : String) :
    ∃ made, ((pageAs isMarkup content).result limit).IsPlaced made := by
  rw [result_pageAs, drafted]
  split
  · simp only [Drafting.result_bind, Drafting.result_note]
    exact ⟨_, places_placeForest _ _ limit [] .empty Document.isPlaced_empty⟩
  · simp only [Drafting.result_bind, Drafting.result_note]
    exact ⟨_, places_placeItems _ _ limit [] .empty Document.isPlaced_empty⟩

end Import

end PageMarkup
