import PageMarkup.Import
import PageMarkup.Proofs.Compile.Page
import PageMarkup.Proofs.Import.Content

/-!
# Pages are read back

Sections are placed one after another, each with a zone of its own.  The ids of sections are
numbered, so a zone that was filled is left alone by the sections that follow, and the outline of
the document that is read lists the sections of the page with what they hold.
-/

namespace PageMarkup

open Text Template

/-! ### Numbered zones -/

/-- The key of the zone of the section with a number. -/
def sectionKey (number : Nat) : String :=
  Zone.key (Drafting.idOf .section number) Zone.content

/-- Sections with different numbers have different zones. -/
theorem sectionKey_inj {n m : Nat} (h : sectionKey n = sectionKey m) : n = m := by
  have hchars := congrArg String.toList h
  simp only [sectionKey, Zone.key, Drafting.idOf, String.toList_append] at hchars
  have hdigits := List.append_cancel_left (List.append_cancel_right (List.append_cancel_right
    hchars))
  exact Drafting.eq_of_digits hdigits

/-! ### Placing nodes -/

namespace Document

/-- The document with some nodes at the end of a zone. -/
def pushAll (key : String) (nodes : List Node) (doc : Document) : Document :=
  nodes.foldl (fun doc node => doc.pushZone key node) doc

variable (key : String) (nodes : List Node) (doc : Document)

@[simp] theorem topLevel_pushAll : (doc.pushAll key nodes).topLevel = doc.topLevel := by
  rw [pushAll]
  induction nodes generalizing doc with
  | nil => rfl
  | cons node nodes ih => exact ih (doc.pushZone key node)

/-- A zone that is filled holds the nodes after those it held before. -/
@[simp] theorem zone?_pushAll_self :
    ((doc.pushAll key nodes).zone? key).getD [] = (doc.zone? key).getD [] ++ nodes := by
  rw [pushAll]
  induction nodes generalizing doc with
  | nil => simp
  | cons node nodes ih =>
    have hzone : (doc.pushZone key node).zone? key = some ((doc.zone? key).getD [] ++ [node]) := by
      simp [zone?, pushZone, Dict.modify]
    rw [List.foldl_cons, ih, hzone, Option.getD_some, List.append_assoc, List.singleton_append]

/-- Other zones are left alone. -/
theorem zone?_pushAll_of_ne {other : String} (h : other ≠ key) :
    (doc.pushAll key nodes).zone? other = doc.zone? other := by
  rw [pushAll]
  induction nodes generalizing doc with
  | nil => rfl
  | cons node nodes ih =>
    rw [List.foldl_cons, ih, zone?, pushZone, Dict.modify, Dict.get?_insert_of_ne h]
    rfl

end Document

namespace Import

variable (limit : Nat) (made : List Kind)

/-- Nodes are placed at the end of the top level. -/
@[simp] theorem result_place_none (nodes : List Node) (doc : Document) :
    (place none nodes doc).result limit made =
      ({ doc with topLevel := doc.topLevel ++ nodes }, made) := by
  induction nodes generalizing doc with
  | nil => simp [place]
  | cons node nodes ih =>
    simp [place, ih, Document.push]

/-- Nodes are placed at the end of a zone. -/
@[simp] theorem result_place_some (key : String) (nodes : List Node) (doc : Document) :
    (place (some key) nodes doc).result limit made = (doc.pushAll key nodes, made) := by
  induction nodes generalizing doc with
  | nil => rfl
  | cons node nodes ih =>
    simp only [place, Drafting.result_bind, Drafting.result_note, ih]
    rfl

/-- The nodes inside a section are made after the section and placed in its zone. -/
theorem result_placeSection (node : Node) (inside : Drafting (List Node)) (doc : Document) :
    (placeSection node inside doc).result limit made =
      ({ doc with topLevel := doc.topLevel ++ [node] }.pushAll node.contentKey
        (inside.result limit made).1, (inside.result limit made).2) := by
  simp [placeSection]

end Import

/-! ### Sections -/

namespace Template

/-- The attributes of a section. -/
def sectionEntries (color image padding : Option String) : List (String × Option String) :=
  [("bg_color", color), ("bg_image", image), ("padding", padding)]

theorem nodup_sectionEntries (color image padding : Option String) :
    ((sectionEntries color image padding).map Prod.fst).Nodup := by
  simp [sectionEntries]

/-- The attributes of a section whose properties are known. -/
theorem named_kept_section {node : Node} (hkind : node.kind = .section) :
    named node.kept = attributesOf (sectionEntries
      (node.props.kept? ⟨Kind.bgColorNames, .bgColor⟩)
      (node.props.kept? ⟨Kind.bgImageNames, .bgImage⟩)
      (node.props.kept? ⟨["padding"], .padding⟩)) := by
  rw [Node.kept, hkind, named_kept_eq]
  rfl

end Template

/-- The attributes of a section of a page are allowed values in normal form. -/
theorem Outline.IsProper.exists_attributes {part : Outline} (h : part.IsProper) :
    ∃ color image padding, part.attributes = attributesOf (sectionEntries color image padding) ∧
      IsNormal .bgColor color ∧ IsNormal .bgImage image ∧ IsNormal .padding padding := by
  rw [Outline.attributes]
  cases hhead : part.head with
  | none => exact ⟨none, none, none, rfl, rfl, rfl, rfl⟩
  | some node =>
    exact ⟨_, _, _, named_kept_section (h node hhead), node.props.isNormal_kept? _,
      node.props.isNormal_kept? _, node.props.isNormal_kept? _⟩

namespace Background

/-- An allowed color is a background without an image. -/
theorem split_of_allow {value : String} (h : Restricted.bgColor.allow value = some value) :
    split value = (some value, none) := by
  obtain ⟨cs, hcs, hvalue⟩ := Option.map_eq_some_iff.mp h
  obtain rfl : cs = value.toList := by rw [← hvalue, String.toList_ofList]
  have hcolor : Restricted.allowColor value.toList = some value.toList := hcs
  obtain ⟨htrim, -⟩ := Restricted.trimmed_check
    (fun value => Restricted.isNamedColor value || Restricted.isHexColor value ||
      Restricted.isFunctionalColor value) hcolor
  rw [split, htrim, hcolor, String.ofList_toList]
  rfl

/-- The color and the image that a background names, if there is one. -/
def parts (found : Option Found) : Option String × Option String :=
  (found.map fun found => split found.value).getD (none, none)

/-- An allowed color that attributes name is all that they name. -/
theorem parts_of_isNormal {color : Option String} (h : IsNormal .bgColor color) :
    parts (color.map fun value => ⟨value, .attributes⟩) = (color, none) := by
  cases color with
  | none => rfl
  | some value =>
    have hsplit : split value = (some value, none) := split_of_allow h
    simp only [parts, Option.map_some, Option.getD_some, hsplit]

/-- Without an id and classes a section has no background but its explicit one. -/
theorem find?_none (style : PageStyle) (explicit : Option Found) :
    find? style explicit none none none = explicit := by
  have hrules : Stylesheet.background? none none style.rules = none := by
    have htrim : trim [] = [] := rfl
    have hwords : words [] = [] := rfl
    simp [Stylesheet.background?, Stylesheet.firstBackground?, htrim, hwords]
  have habout : isAbout none none = fun _ => false := rfl
  have hnone : style.backdrops.find? (fun _ => false) = none := by
    simp
  rw [find?, hrules, habout, hnone]
  cases explicit <;> rfl

end Background

namespace Import

/-- The node that a section is read as, from its attributes. -/
def sectionDraft (made : List Kind) (color image padding : Option String) : Node :=
  (((Node.next made .section).withText "backgroundColor" color).withText "backgroundImage"
    image).withText "padding" padding

/-- The attributes of the node that a section is read as are those of the section. -/
theorem named_kept_sectionDraft {color image padding : Option String}
    (hcolor : IsNormal .bgColor color) (himage : IsNormal .bgImage image)
    (hpadding : IsNormal .padding padding) (made : List Kind) :
    named (sectionDraft made color image padding).kept =
      attributesOf (sectionEntries color image padding) := by
  rw [named_kept_section (by simp [sectionDraft]), Kind.bgColorNames, Kind.bgImageNames,
    Props.kept?_of_get? (v := color) (by simp [sectionDraft]) (by simp [sectionDraft]) hcolor,
    Props.kept?_of_get? (v := image) (by simp [sectionDraft]) (by simp [sectionDraft]) himage,
    Props.kept?_of_get? (v := padding) (by simp [sectionDraft]) (by simp [sectionDraft]) hpadding]

/-- A node gets what is allowed of the color and of the image that a background names. -/
@[simp] theorem result_withBackground (node : Node) (found : Option Background.Found) (limit : Nat)
    (made : List Kind) :
    (node.withBackground found).result limit made =
      ((node.withText "backgroundColor"
        ((Background.parts found).1.bind Restricted.bgColor.allow)).withText "backgroundImage"
        ((Background.parts found).2.bind Restricted.bgImage.allow), made) := by
  cases found with
  | none => rfl
  | some found =>
    simp only [Node.withBackground, Drafting.result_bind, Drafting.result_noteWith,
      Node.result_styled, Background.parts, Option.map_some, Option.getD_some]

/-- A node gets what is allowed of the background image that its attributes name. -/
@[simp] theorem result_withBackgroundImage (node : Node) (image : Option String) (limit : Nat)
    (made : List Kind) :
    (node.withBackgroundImage image).result limit made =
      (node.withText "backgroundImage" (image.bind Restricted.bgImage.allow), made) := by
  cases image with
  | none => rfl
  | some image =>
    simp only [Node.withBackgroundImage, Drafting.result_bind, Drafting.result_noteWith,
      Node.result_styled]

/-- A section whose attributes are in normal form gets the color, the image and the padding that
they name, and no other background. -/
theorem sectionNode_eq (style : Background.PageStyle) {color image padding : Option String}
    (hcolor : IsNormal .bgColor color) (himage : IsNormal .bgImage image)
    (hpadding : IsNormal .padding padding) (children : Forest) :
    sectionNode style ⟨⟨"section", attributesOf (sectionEntries color image padding)⟩, children⟩ =
      (do
        let node ← Drafting.node .section
        let node ← node.withBackground (color.map fun value => ⟨value, .attributes⟩)
        let node ← node.withBackgroundImage image
        node.styled "padding" .padding padding) := by
  let element : Element :=
    ⟨⟨"section", attributesOf (sectionEntries color image padding)⟩, children⟩
  have hnodup := nodup_sectionEntries color image padding
  have hbgColor : element.attribute? "bg_color" = color :=
    Element.attribute?_eq hnodup rfl hcolor.nonblank?_eq
  have hbgImage : element.attribute? "bg_image" = image :=
    Element.attribute?_eq hnodup rfl himage.nonblank?_eq
  have hinset : element.attribute? "padding" = padding :=
    Element.attribute?_eq hnodup rfl hpadding.nonblank?_eq
  -- a section that is written has none of the other attributes that are looked for
  have hmissing (key : String) (h : (sectionEntries color image padding).lookup key = none) :
      element.attribute? key = none := by
    rw [Element.attribute?_attributesOf hnodup, h]
    rfl
  have hid := hmissing "id" rfl
  have hmoduleId := hmissing "module_id" rfl
  have hclass := hmissing "class" rfl
  have hmoduleClass := hmissing "module_class" rfl
  have hfound : (if (color.map fun value => Background.Found.mk value .attributes).isNone &&
      image.isSome then none else Background.find? style
        (color.map fun value => Background.Found.mk value .attributes) none none none) =
          color.map fun value => Background.Found.mk value .attributes := by
    rw [Background.find?_none]
    cases color <;> cases image <;> rfl
  show sectionNode style element = _
  rw [sectionNode]
  simp only [hbgColor, hbgImage, hinset, hid, hmoduleId, hclass, hmoduleClass, Option.orElse_none,
    hfound]

/-- A section is read as a node with its attributes. -/
theorem result_sectionNode (style : Background.PageStyle) {color image padding : Option String}
    (hcolor : IsNormal .bgColor color) (himage : IsNormal .bgImage image)
    (hpadding : IsNormal .padding padding) (children : Forest) (limit : Nat) (made : List Kind) :
    (sectionNode style ⟨⟨"section", attributesOf (sectionEntries color image padding)⟩,
      children⟩).result limit made =
        (sectionDraft made color image padding, .section :: made) := by
  rw [sectionNode_eq style hcolor himage hpadding]
  simp only [Drafting.result_bind, Drafting.result_node, result_withBackground,
    Background.parts_of_isNormal hcolor, result_withBackgroundImage, Node.result_styled]
  rw [show color.bind Restricted.bgColor.allow = color from hcolor,
    show image.bind Restricted.bgImage.allow = image from himage,
    show padding.bind Restricted.padding.allow = padding from hpadding]
  rfl

end Import

/-! ### Documents whose nodes are all in sections -/

namespace Document

/-- The nodes in the zone of a node. -/
def inside (doc : Document) (node : Node) : List Node :=
  (doc.zone? node.contentKey).getD []

/-- The document is drafted from some sections: each node of the top level is one of them, with
their attributes and content, and the zones of sections with later numbers are free. -/
structure IsDraftOf (doc : Document) (made : List Kind) (parts : List Outline) : Prop where
  elements : (doc.topLevel.map fun node => Outline.element ⟨some node, doc.inside node⟩) =
    parts.map Outline.element
  isStructural : ∀ node ∈ doc.topLevel, node.kind.isStructural = true
  isStructural_inside : ∀ node ∈ doc.topLevel, ∀ inner ∈ doc.inside node,
    inner.kind.isStructural = false
  numbered : ∀ node ∈ doc.topLevel, ∃ n ≤ made.count .section, node.contentKey = sectionKey n
  free : ∀ n, made.count .section < n → doc.zone? (sectionKey n) = none

/-- The document without any node is drafted from no section. -/
theorem isDraftOf_empty : IsDraftOf .empty [] [] where
  elements := rfl
  isStructural _ hnode := absurd hnode List.not_mem_nil
  isStructural_inside _ hnode := absurd hnode List.not_mem_nil
  numbered _ hnode := absurd hnode List.not_mem_nil
  free _ _ := rfl

/-- Among nodes that are no sections nothing more is reached. -/
theorem flatMap_reached {nodes : List Node} (h : ∀ node ∈ nodes, node.kind.isStructural = false)
    (inside : String → List Node) : nodes.flatMap (Node.reached inside) = nodes := by
  have hone : ∀ node ∈ nodes, Node.reached inside node = [node] := by
    intro node hnode
    rw [Node.reached, h node hnode]
    rfl
  rw [List.flatMap_congr hone, ← List.map_eq_flatMap, List.map_id']

/-- From a zone without a section its own nodes are reached. -/
theorem reached_of_isContent (doc : Document) {key : String}
    (h : ∀ node ∈ (doc.zone? key).getD [], node.kind.isStructural = false) :
    doc.reached key = (doc.zone? key).getD [] := by
  rw [Document.reached, reachedFrom, if_neg (by simp)]
  exact flatMap_reached h _

/-- The zone of a drafted section holds what is reached from it. -/
theorem IsDraftOf.reached {doc : Document} {made : List Kind} {parts : List Outline}
    (h : doc.IsDraftOf made parts) {node : Node} (hnode : node ∈ doc.topLevel) :
    doc.reached node.contentKey = doc.inside node :=
  doc.reached_of_isContent (h.isStructural_inside node hnode)

/-- Sections on the top level make up the outline, each with what is reached from its zone. -/
theorem outlineFrom_of_isStructural (doc : Document) {nodes : List Node}
    (h : ∀ node ∈ nodes, node.kind.isStructural = true) :
    doc.outlineFrom [] nodes = nodes.map fun node => ⟨some node, doc.reached node.contentKey⟩ := by
  induction nodes with
  | nil => rfl
  | cons node nodes ih =>
    have hrest := ih fun other hother => h other (List.mem_cons_of_mem node hother)
    rw [outlineFrom, if_pos (h node List.mem_cons_self), hrest]
    rfl

/-- The page of a drafted document is that of the sections it is drafted from. -/
theorem IsDraftOf.page_outline {doc : Document} {made : List Kind} {parts : List Outline}
    (h : doc.IsDraftOf made parts) : Outline.page doc.outline = Outline.page parts := by
  have hlines (parts : List Outline) :
      Outline.page parts = Forest.lines ((parts.map Outline.element).map fun item => [item]) := by
    rw [Outline.page, List.map_map]
    rfl
  have helements : doc.outline.map Outline.element = parts.map Outline.element := by
    rw [outline, doc.outlineFrom_of_isStructural h.isStructural, List.map_map, ← h.elements]
    exact List.map_congr_left fun node hnode =>
      congrArg (fun nodes => Outline.element ⟨some node, nodes⟩) (h.reached hnode)
  rw [hlines, hlines, helements]

/-- Nodes that are put into a free zone are all that is in it. -/
theorem inside_pushAll_self {doc : Document} {node : Node} (nodes : List Node)
    (hfree : doc.zone? node.contentKey = none) :
    (doc.pushAll node.contentKey nodes).inside node = nodes := by
  have hzone := zone?_pushAll_self node.contentKey nodes doc
  rwa [hfree, Option.getD_none, List.nil_append] at hzone

/-- What is in other nodes is left alone. -/
theorem inside_pushAll_of_ne {doc : Document} {node : Node} {key : String} (nodes : List Node)
    (hne : node.contentKey ≠ key) : (doc.pushAll key nodes).inside node = doc.inside node := by
  rw [inside, zone?_pushAll_of_ne _ _ _ hne, inside]

/-- The zone of a section with a later number is not that of a drafted one. -/
theorem IsDraftOf.contentKey_ne {doc : Document} {made : List Kind} {parts : List Outline}
    (h : doc.IsDraftOf made parts) {node : Node} (hnode : node ∈ doc.topLevel) {number : Nat}
    (hnumber : made.count .section < number) : node.contentKey ≠ sectionKey number := by
  obtain ⟨n, hn, hkey⟩ := h.numbered node hnode
  rw [hkey]
  intro hsame
  have := sectionKey_inj hsame
  omega

/-- One more section with a fresh number is drafted. -/
theorem IsDraftOf.append {doc : Document} {made after : List Kind} {parts : List Outline}
    (h : doc.IsDraftOf made parts) {node : Node} {nodes : List Node} {part : Outline}
    (hkind : node.kind = .section) (hkey : node.contentKey = sectionKey (made.count .section + 1))
    (hafter : after.count .section = made.count .section + 1)
    (hnodes : ∀ inner ∈ nodes, inner.kind.isStructural = false)
    (helement : Outline.element ⟨some node, nodes⟩ = part.element) :
    ({ doc with topLevel := doc.topLevel ++ [node] }.pushAll node.contentKey nodes).IsDraftOf after
      (parts ++ [part]) := by
  let placed : Document := { doc with topLevel := doc.topLevel ++ [node] }.pushAll
    node.contentKey nodes
  have htop : placed.topLevel = doc.topLevel ++ [node] := topLevel_pushAll _ _ _
  -- The zone of the new section was free, and those of the others are left alone.
  have hnew : placed.inside node = nodes :=
    inside_pushAll_self nodes (hkey ▸ h.free _ (Nat.lt_succ_self _))
  have hold : ∀ other ∈ doc.topLevel, placed.inside other = doc.inside other := fun other hmem =>
    inside_pushAll_of_ne nodes (hkey ▸ h.contentKey_ne hmem (Nat.lt_succ_self _))
  have hmem {other : Node} (hother : other ∈ placed.topLevel) :
      other ∈ doc.topLevel ∨ other = node := by
    rw [htop] at hother
    exact (List.mem_append.mp hother).imp_right List.mem_singleton.mp
  refine ⟨?_, fun other hother => ?_, fun other hother => ?_, fun other hother => ?_,
    fun n hn => ?_⟩
  · rw [htop, List.map_append, List.map_append, ← h.elements, List.map_singleton,
      List.map_singleton, hnew, helement]
    congr 1
    exact List.map_congr_left fun other hmem =>
      congrArg (fun nodes => Outline.element ⟨some other, nodes⟩) (hold other hmem)
  · rcases hmem hother with hother | rfl
    · exact h.isStructural other hother
    · rw [hkind]
      rfl
  · rcases hmem hother with hother | rfl
    · rw [hold other hother]
      exact h.isStructural_inside other hother
    · rw [hnew]
      exact hnodes
  · rcases hmem hother with hother | rfl
    · obtain ⟨n, hn, hotherKey⟩ := h.numbered other hother
      exact ⟨n, by omega, hotherKey⟩
    · exact ⟨made.count .section + 1, by omega, hkey⟩
  · have hne : sectionKey n ≠ node.contentKey := by
      rw [hkey]
      intro hsame
      have hnumber := sectionKey_inj hsame
      omega
    rw [zone?_pushAll_of_ne _ _ _ hne]
    exact h.free n (by omega)

end Document

/-! ### Sections one after another -/

/-- A section can be read back: what is inside is made of stable portions. -/
structure Outline.IsReadable (part : Outline) : Prop where
  isProper : part.IsProper
  exists_portions : ∃ portions : List Portion,
    Nodes.content part.nodes = Portion.content portions ∧
      (∀ portion ∈ portions, portion.IsStable) ∧ Portion.AreApart portions

namespace Import

variable (style : Background.PageStyle) (limit : Nat)

/-- A line end between sections is passed over. -/
theorem result_placeForest_newline (items : Forest) (doc : Document) (made : List Kind) :
    (placeForest style (Markup.newline :: items) doc).result limit made =
      (placeForest style items doc).result limit made := by
  have hloose : Forest.toNodes [Markup.newline] = pure [] :=
    Markup.toNodesAll_newline [] []
  have hitem : Markup.newline.element? = none := rfl
  rw [placeForest, hitem]
  simp [hloose]

/-- A section is placed after the nodes on the top level, as a node with its attributes, and what
its row holds is placed in its zone. -/
theorem exists_result_placeForest_element {part : Outline} (h : part.IsProper) :
    ∃ color image padding, part.attributes = attributesOf (sectionEntries color image padding) ∧
      IsNormal .bgColor color ∧ IsNormal .bgImage image ∧ IsNormal .padding padding ∧
      ∀ items (doc : Document) made,
        let node := sectionDraft made color image padding
        let inner := (Forest.toNodes [.element fullRow
          [.block fullColumn (Nodes.content part.nodes)]]).result limit (.section :: made)
        (placeForest style (part.element :: items) doc).result limit made =
          (placeForest style items ({ doc with topLevel := doc.topLevel ++ [node] }.pushAll
            node.contentKey inner.1)).result limit inner.2 := by
  obtain ⟨color, image, padding, hattributes, hcolor, himage, hpadding⟩ := h.exists_attributes
  refine ⟨color, image, padding, hattributes, hcolor, himage, hpadding, fun items doc made => ?_⟩
  have hresult := result_sectionNode style hcolor himage hpadding
    [.element fullRow [.block fullColumn (Nodes.content part.nodes)]] limit made
  rw [Outline.element, Markup.skeleton, hattributes, placeForest]
  simp only [Markup.element?, Element.name, beq_self_eq_true, if_true, Drafting.result_bind,
    hresult, result_placeSection]

/-- What the first section of a page leaves the other sections are read after. -/
theorem result_placeForest_page_cons (part : Outline) (parts : List Outline) {doc next : Document}
    {made after : List Kind}
    (hstep : ∀ items, (placeForest style (part.element :: items) doc).result limit made =
      (placeForest style items next).result limit after) :
    (placeForest style (Outline.page (part :: parts)) doc).result limit made =
      (placeForest style (Outline.page parts) next).result limit after := by
  by_cases hlast : parts = []
  · subst hlast
    exact hstep []
  · have hpage : Outline.page (part :: parts) =
        part.element :: Markup.newline :: Outline.page parts := by
      rw [Outline.page, List.map_cons, Forest.lines_cons (by simpa using hlast)]
      rfl
    rw [hpage, hstep, result_placeForest_newline]

/-- A section that can be read back is drafted after those that were drafted before. -/
theorem exists_isDraftOf_section {part : Outline} (h : part.IsReadable) {doc : Document}
    {made : List Kind} {parts : List Outline} (hdoc : doc.IsDraftOf made parts) :
    ∃ next after, Document.IsDraftOf next after (parts ++ [part]) ∧
      ∀ items, (placeForest style (part.element :: items) doc).result limit made =
        (placeForest style items next).result limit after := by
  obtain ⟨portions, hcontent, hstable, hapart⟩ := h.exists_portions
  obtain ⟨color, image, padding, hattributes, hcolor, himage, hpadding, hresult⟩ :=
    exists_result_placeForest_element style limit h.isProper
  have hinside := Portion.yields_skeleton hstable hapart
  rw [← hcontent] at hinside
  let node := sectionDraft made color image padding
  let inner := (Forest.toNodes [.element fullRow
    [.block fullColumn (Nodes.content part.nodes)]]).result limit (.section :: made)
  have hnodes : Nodes.content inner.1 = Nodes.content part.nodes := by
    rw [Nodes.content, hinside.bodies_eq, hcontent, Portion.content]
  -- what is imported is written as the section it came from
  have hsame : Outline.element ⟨some node, inner.1⟩ = part.element := by
    rw [Outline.element, Outline.element, hnodes, hattributes]
    congr 1
    exact named_kept_sectionDraft hcolor himage hpadding made
  have hcount : inner.2.count .section = made.count .section + 1 := by
    rw [hinside.count_section, List.count_cons_self]
  have hkind : node.kind = .section := by simp [node, sectionDraft]
  have hkey : node.contentKey = sectionKey (made.count .section + 1) := by
    have hid : node.id = Drafting.idOf .section (made.count .section + 1) := by
      cases color <;> cases image <;> cases padding <;> rfl
    rw [Node.contentKey, Node.zoneKey, hid, sectionKey]
  exact ⟨_, inner.2, hdoc.append hkind hkey hcount
    (hinside.isStructural limit (.section :: made)) hsame, fun items => hresult items doc made⟩

/-- Sections that can be read back are drafted one after another. -/
theorem isDraftOf_placeForest {parts : List Outline} (h : ∀ part ∈ parts, part.IsReadable)
    {doc : Document} {made : List Kind} {before : List Outline} (hdoc : doc.IsDraftOf made before) :
    (((placeForest style (Outline.page parts) doc).result limit made).1).IsDraftOf
      ((placeForest style (Outline.page parts) doc).result limit made).2 (before ++ parts) := by
  induction parts generalizing doc made before with
  | nil =>
    rw [List.append_nil]
    exact hdoc
  | cons part parts ih =>
    obtain ⟨next, after, hnext, hstep⟩ :=
      exists_isDraftOf_section style limit (h part List.mem_cons_self) hdoc
    have hrest := ih (fun other hother => h other (List.mem_cons_of_mem part hother)) hnext
    rw [result_placeForest_page_cons style limit part parts hstep]
    rwa [List.append_assoc, List.singleton_append] at hrest

/-! ### The whole page -/

/-- The markup of a page with a section is told from rendered HTML by its first tag. -/
theorem isSpokenIn_page {parts : List Outline} (h : ∀ part ∈ parts, part.IsProper)
    (hne : parts ≠ []) : Markup.isSpokenIn (Outline.page parts).render = true := by
  obtain ⟨part, others, rfl⟩ := List.exists_cons_of_ne_nil hne
  obtain ⟨rest, hpage⟩ : ∃ rest, Outline.page (part :: others) = part.element :: rest := by
    by_cases hlast : others = []
    · subst hlast
      exact ⟨[], rfl⟩
    · refine ⟨Markup.newline :: Outline.page others, ?_⟩
      rw [Outline.page, List.map_cons, Forest.lines_cons (by simpa using hlast)]
      rfl
  let token : Markup.TagToken := ⟨false, ⟨"section", part.attributes⟩⟩
  have htoken : token ∈ findAll Markup.readTag (Outline.page (part :: others)).render := by
    have hvoid : Markup.isVoid "section" = false := by decide
    rw [findAll, Forest.render, Markup.scan_renderAll_eq (Outline.isWellFormed_page h), hpage,
      Outline.element, Markup.skeleton, Markup.piecesAll, Markup.pieces, hvoid]
    exact List.mem_cons_self
  have hname : Markup.vocabulary.contains token.tag.name = true := by
    show Markup.vocabulary.contains "section" = true
    decide
  rw [Markup.isSpokenIn, List.any_eq_true]
  exact ⟨token, htoken, hname⟩

/-- A page is read as the document that is drafted from it. -/
theorem result_pageAs (isMarkup : Bool) (content : String) (limit : Nat) :
    (pageAs isMarkup content).result limit =
      ((drafted isMarkup ((Background.harvest content.toList).result limit)
        content.toList).result limit []).1 := by
  rw [pageAs]
  rfl

/-- The markup of a page is drafted by placing its sections.  The page without a section is empty:
it is read as rendered HTML, and there is nothing in it. -/
theorem exists_drafted_page {parts : List Outline} (h : ∀ part ∈ parts, part.IsProper)
    {content : List Char} (hcontent : content = (Outline.page parts).render)
    (hread : Forest.read content = Outline.page parts) (style : Background.PageStyle) :
    ∃ message, drafted (Markup.isSpokenIn content) style content = (do
      Drafting.note .parse message
      placeForest style (Outline.page parts) .empty) := by
  by_cases hne : parts = []
  · subst hne
    have hempty : content = [] := hcontent
    have hspoken : Markup.isSpokenIn [] = false := by decide
    have hitems : Html.items [] = [] := by decide
    rw [hempty, hspoken, drafted]
    simp only [Bool.false_eq_true, if_false, hitems]
    exact ⟨_, rfl⟩
  · have hspoken : Markup.isSpokenIn content = true := by
      rw [hcontent]
      exact isSpokenIn_page h hne
    rw [hspoken, drafted, hread]
    simp only [if_true]
    exact ⟨_, rfl⟩

/-- The markup of a page is read as the document in which its sections are placed. -/
theorem result_page_of_render {parts : List Outline} (h : ∀ part ∈ parts, part.IsProper)
    {content : String} (hcontent : content.toList = (Outline.page parts).render)
    (hread : Forest.read content.toList = Outline.page parts) (limit : Nat) :
    (page content).result limit =
      ((placeForest ((Background.harvest content.toList).result limit) (Outline.page parts)
        .empty).result limit []).1 := by
  obtain ⟨message, hdrafted⟩ :=
    exists_drafted_page h hcontent hread ((Background.harvest content.toList).result limit)
  rw [page, result_pageAs, hdrafted, Drafting.result_bind, Drafting.result_note]

/-- The document that the markup of readable sections is read as has the same page. -/
theorem page_outline_page {parts : List Outline} (h : ∀ part ∈ parts, part.IsReadable)
    {content : String} (hcontent : content.toList = (Outline.page parts).render)
    (hread : Forest.read content.toList = Outline.page parts) (limit : Nat) :
    Outline.page ((page content).result limit).outline = Outline.page parts := by
  let style := (Background.harvest content.toList).result limit
  have hdraft := isDraftOf_placeForest style limit h Document.isDraftOf_empty
  rw [result_page_of_render (fun part hpart => (h part hpart).isProper) hcontent hread,
    hdraft.page_outline]
  rfl

end Import

end PageMarkup
