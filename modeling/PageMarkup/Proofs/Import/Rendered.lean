import PageMarkup.Proofs.Compile.Angles
import PageMarkup.Proofs.Import.Placing

/-!
# Angle brackets of a rendered page

The text of a block is read with its character references decoded, so it may hold a `<` that was
escaped on the page.  What is read as a heading, a button or an attribute is escaped again when it
is published.  A paragraph is read as a text, whose property is rich text and is published as it is.
So the markup of an imported page holds a `<` exactly when a paragraph of the page shows one.
-/

namespace PageMarkup

open Text Template

/-! ### Zones of a document that is imported -/

namespace Document

variable {doc : Document} {made : List Kind}

/-- From the zone of a section of a document that is imported the nodes in it are reached. -/
theorem IsPlaced.reached_eq (h : doc.IsPlaced made) (key : String) :
    doc.reached key = (doc.zone? key).getD [] := by
  refine doc.reached_of_isContent fun node hnode => ?_
  cases hzone : doc.zone? key with
  | none => simp [hzone] at hnode
  | some nodes =>
    rw [hzone] at hnode
    exact h.isContent _ (Dict.mem_of_get? hzone) node hnode

/-- What is reached from the top level of a document that is imported are all its nodes but the
sections. -/
theorem IsPlaced.mem_reached_iff (h : doc.IsPlaced made) {node : Node} :
    node ∈ doc.topLevel.flatMap (Node.reached doc.reached) ↔
      node ∈ doc.nodes ∧ node.kind.isStructural = false := by
  rw [List.mem_flatMap]
  constructor
  · rintro ⟨top, htop, hreached⟩
    rw [Node.reached] at hreached
    split at hreached
    · rw [h.reached_eq] at hreached
      cases hzone : doc.zone? top.contentKey with
      | none => simp [hzone] at hreached
      | some nodes =>
        have hentry := Dict.mem_of_get? hzone
        rw [hzone] at hreached
        refine ⟨List.mem_append_right _ ?_, h.isContent _ hentry node hreached⟩
        exact List.mem_flatMap.mpr ⟨_, hentry, hreached⟩
    · rename_i hstructural
      obtain rfl := List.mem_singleton.mp hreached
      exact ⟨List.mem_append_left _ htop, by simpa using hstructural⟩
  · rintro ⟨hnode, hstructural⟩
    rcases List.mem_append.mp hnode with htop | hinside
    · exact ⟨node, htop, by simp [Node.reached, hstructural]⟩
    · obtain ⟨⟨key, nodes⟩, hentry, hnode⟩ := List.mem_flatMap.mp hinside
      obtain ⟨top, htop, hkind, rfl⟩ := h.isOwned _ hentry
      have hzone : doc.zone? top.contentKey = some nodes := Dict.get?_of_mem h.nodup_keys hentry
      refine ⟨top, htop, ?_⟩
      rw [Node.reached, if_pos (Kind.isStructural_iff.mpr hkind), h.reached_eq, hzone]
      exact hnode

/-- The markup of a document that is imported holds a `<` if that of one of its nodes does. -/
theorem IsPlaced.angle_mem_compile_iff (h : doc.IsPlaced made) (limit : Nat) :
    '<' ∈ (doc.compile.result limit).toList ↔ ∃ node ∈ doc.nodes, node.HasAngle := by
  rw [Document.angle_mem_compile_iff]
  constructor
  · rintro ⟨node, hnode, hangle⟩
    exact ⟨node, (h.mem_reached_iff.mp hnode).1, hangle⟩
  · rintro ⟨node, hnode, hangle⟩
    have hstructural : node.kind.isStructural = false := by
      rw [← Bool.not_eq_true, Kind.isStructural_iff]
      exact fun hkind => Node.not_hasAngle_of_section hkind hangle
    exact ⟨node, h.mem_reached_iff.mpr ⟨hnode, hstructural⟩, hangle⟩

end Document

/-! ### The paragraphs of a page -/

namespace Html

/-- The text of a paragraph. -/
def Block.paragraph? : Block → Option String
  | .paragraph text _ => some text
  | _ => none

/-- The blocks of an item. -/
def Item.blocks : Item → List Block
  | .section content => content.blocks
  | .block content => [content]

/-- The texts of the paragraphs of some items, in order. -/
def paragraphs (items : List Item) : List String :=
  items.flatMap fun item => item.blocks.filterMap Block.paragraph?

end Html

namespace Import

variable (limit : Nat)

/-- A block is read as a node with a `<` if it is a paragraph that shows one. -/
theorem hasAngle_blockNode_iff (made : List Kind) (block : Html.Block) :
    ((blockNode block).result limit made).1.HasAngle ↔
      ∃ text ∈ block.paragraph?, '<' ∈ text.toList := by
  have hnone {node : Node} (h : ¬ node.HasAngle) :
      node.HasAngle ↔ ∃ text ∈ (none : Option String), '<' ∈ text.toList := by
    simp [h]
  cases block with
  | heading level text align =>
    refine hnone (Node.not_hasAngle_of_heading ?_)
    simp [blockNode]
  | paragraph text align =>
    have hkind : ((blockNode (.paragraph text align)).result limit made).1.kind = .text := by
      simp [blockNode]
    have htext : ((blockNode (.paragraph text align)).result limit made).1.props.text?
        textNames = nonblank? (some text) := by
      simp only [blockNode, Drafting.result_bind, Drafting.result_node, Node.result_styled]
      rw [textNames, Props.text?_of_get? (v := some text) (by simp) (by simp)]
    rw [Node.hasAngle_iff_of_text hkind, htext]
    constructor
    · rintro ⟨body, hbody, hangle⟩
      exact ⟨body, (Option.mem_filter_iff.mp hbody).1, hangle⟩
    · rintro ⟨body, ⟨⟩, hangle⟩
      -- a bracket is no blank, so the text is not left out
      have hblank : allBlank text.toList = false := by
        rw [allBlank, List.all_eq_false]
        exact ⟨'<', hangle, by decide⟩
      exact ⟨text, nonblank?_some hblank, hangle⟩
  | image src alt =>
    refine hnone (Node.not_hasAngle_of_image ?_)
    simp [blockNode]
  | button href label =>
    refine hnone (Node.not_hasAngle_of_button ?_)
    simp [blockNode]
  | divider => exact hnone (Node.not_hasAngle_of_divider rfl)

/-- Some blocks are read as nodes of which one has a `<` if one of their paragraphs shows one. -/
theorem hasAngle_blockNodes_iff (made : List Kind) (blocks : List Html.Block) :
    (∃ node ∈ ((blockNodes blocks).result limit made).1, node.HasAngle) ↔
      ∃ text ∈ blocks.filterMap Html.Block.paragraph?, '<' ∈ text.toList := by
  induction blocks generalizing made with
  | nil => simp [blockNodes]
  | cons block blocks ih =>
    have hfirst := hasAngle_blockNode_iff limit made block
    have hrest := ih ((blockNode block).result limit made).2
    have hparagraphs : (block :: blocks).filterMap Html.Block.paragraph? =
        block.paragraph?.toList ++ blocks.filterMap Html.Block.paragraph? := by
      rw [List.filterMap_cons]
      cases block.paragraph? <;> rfl
    simp only [blockNodes, Drafting.result_bind, Drafting.result_pure, List.exists_mem_cons_iff,
      hparagraphs, List.mem_append, or_and_right, exists_or, hfirst, hrest, Option.mem_toList,
      Option.mem_def]

variable (style : Background.PageStyle) {doc : Document} {made : List Kind}

/-- Placing a section adds a node with a `<` if one of the paragraphs in it shows one. -/
theorem hasAngle_placeSection_iff (h : doc.IsPlaced made) (part : Html.Section) :
    (∃ node ∈ ((do placeSection (← htmlSectionNode style part) (blockNodes part.blocks) doc :
        Drafting Document).result limit made).1.nodes, node.HasAngle) ↔
      (∃ node ∈ doc.nodes, node.HasAngle) ∨
        ∃ text ∈ part.blocks.filterMap Html.Block.paragraph?, '<' ∈ text.toList := by
  obtain ⟨node, hresult, hkind, hid, -⟩ := draftsSection_htmlSectionNode style part limit made
  rw [Drafting.result_bind, hresult, result_placeSection]
  let inside := ((blockNodes part.blocks).result limit (.section :: made)).1
  have hinside := hasAngle_blockNodes_iff limit (.section :: made) part.blocks
  have hhead : ¬ node.HasAngle := Node.not_hasAngle_of_section hkind
  simp only [(h.nodes_placeSection_perm hid inside).mem_iff, List.mem_append, or_and_right,
    exists_or, List.exists_mem_cons_iff, hhead, false_or, hinside, inside]

/-- Placing a block adds a node with a `<` if it is a paragraph that shows one. -/
theorem hasAngle_placeBlock_iff (doc : Document) (made : List Kind) (block : Html.Block) :
    (∃ node ∈ ((do place none [← blockNode block] doc :
        Drafting Document).result limit made).1.nodes, node.HasAngle) ↔
      (∃ node ∈ doc.nodes, node.HasAngle) ∨
        ∃ text ∈ [block].filterMap Html.Block.paragraph?, '<' ∈ text.toList := by
  rw [Drafting.result_bind, result_place_none]
  let node := ((blockNode block).result limit made).1
  have hnode : (∃ other ∈ [node], other.HasAngle) ↔ _ :=
    hasAngle_blockNodes_iff limit made [block]
  simp only [(doc.nodes_push_perm [node]).mem_iff, List.mem_append, or_and_right, exists_or,
    hnode, node]

/-- Placing the items of a page adds a node with a `<` if one of their paragraphs shows one. -/
theorem hasAngle_placeItems_iff (items : List Html.Item) (h : doc.IsPlaced made) :
    (∃ node ∈ ((placeItems style items doc).result limit made).1.nodes, node.HasAngle) ↔
      (∃ node ∈ doc.nodes, node.HasAngle) ∨
        ∃ text ∈ Html.paragraphs items, '<' ∈ text.toList := by
  -- Each item is placed in a document that is well formed, so that a section finds its zone free.
  induction items generalizing doc made with
  | nil => simp [placeItems, Html.paragraphs]
  | cons item items ih =>
    have hparagraphs : Html.paragraphs (item :: items) =
        item.blocks.filterMap Html.Block.paragraph? ++ Html.paragraphs items := rfl
    simp only [hparagraphs, List.mem_append, or_and_right, exists_or, ← or_assoc]
    cases item with
    | «section» part =>
      have hplaced := places_placeSection (draftsSection_htmlSectionNode style part)
        (drafts_blockNodes part.blocks) limit made doc h
      have hrest := ih hplaced
      rw [hasAngle_placeSection_iff limit style h] at hrest
      rw [placeItems, Drafting.result_bind]
      exact hrest
    | block block =>
      have hone : Drafts (do return [← blockNode block]) := fun limit made =>
        drafted_blockNode limit made block
      let step : Drafting Document := do place none [← blockNode block] doc
      have hplaced : (step.result limit made).1.IsPlaced (step.result limit made).2 :=
        places_place hone limit made doc h
      have hrest := ih hplaced
      rw [hasAngle_placeBlock_iff limit doc made block] at hrest
      rw [placeItems, Drafting.result_bind]
      exact hrest

/-! ### Publishing a rendered page -/

/-- The markup of a page that is imported as rendered HTML holds a `<` exactly when a paragraph of
the page shows one; what else the page holds, escaped or not, adds none. -/
theorem angle_mem_compile_pageAs_iff (content : String) (imported published : Nat) :
    '<' ∈ (((pageAs false content).result imported).compile.result published).toList ↔
      ∃ text ∈ Html.paragraphs (Html.items content.toList), '<' ∈ text.toList := by
  let style := (Background.harvest content.toList).result imported
  obtain ⟨made, hplaced⟩ := exists_isPlaced_pageAs imported false content
  have hadded := hasAngle_placeItems_iff imported style (Html.items content.toList)
    Document.isPlaced_empty
  have hnone : ¬ ∃ node ∈ Document.empty.nodes, node.HasAngle := by
    rintro ⟨node, hnode, -⟩
    exact absurd hnode List.not_mem_nil
  rw [or_iff_right hnone] at hadded
  rw [hplaced.angle_mem_compile_iff, ← hadded, result_pageAs, drafted, if_neg (by decide),
    Drafting.result_bind, Drafting.result_note]

/-- A script that a paragraph only shows, with its brackets escaped, is published as a script. -/
theorem angle_mem_compile_escapedScript :
    '<' ∈ (((pageAs false "<p>&lt;script&gt;alert(1)&lt;/script&gt;</p>").result 512).compile.result
      512).toList := by
  obtain ⟨made, hplaced⟩ := exists_isPlaced_pageAs 512 false
    "<p>&lt;script&gt;alert(1)&lt;/script&gt;</p>"
  rw [hplaced.angle_mem_compile_iff]
  decide +kernel

end Import

end PageMarkup
