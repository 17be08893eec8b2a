import PageMarkup.Proofs.Import.Rendered

/-!
# What a document keeps as it is imported

Nodes are placed in a document one by one, on the top level or in the zone of a section.  If a
property of documents is kept whenever a node with some property is added, and all nodes that are
drafted have that one, every document that is imported has the first.
-/

namespace PageMarkup

namespace Import

open Drafting

/-- The property `P` of documents is kept when a node with the property `Q` is added. -/
structure IsKeptAdding (Q : Node → Prop) (P : Document → Prop) : Prop where
  push : ∀ {doc : Document} {node : Node}, P doc → Q node → P (doc.push node)
  pushZone : ∀ {doc : Document} {node : Node} (key : String), P doc → Q node →
    P (doc.pushZone key node)

variable {Q : Node → Prop} {P : Document → Prop} {doc : Document}

theorem ensures_blockNodes {blocks : List Html.Block}
    (h : ∀ block ∈ blocks, (blockNode block).Ensures Q) :
    (blockNodes blocks).Ensures fun nodes => ∀ node ∈ nodes, Q node := by
  induction blocks with
  | nil => exact ensures_pure (List.forall_mem_nil _)
  | cons block blocks ih =>
    obtain ⟨hblock, hblocks⟩ := List.forall_mem_cons.mp h
    exact hblock.bind fun _ hnode => (ih hblocks).bind fun _ hnodes =>
      ensures_pure (List.forall_mem_cons.mpr ⟨hnode, hnodes⟩)

namespace IsKeptAdding

theorem ensures_place (h : IsKeptAdding Q P) (zone : Option String) {nodes : List Node}
    (hnodes : ∀ node ∈ nodes, Q node) (hdoc : P doc) : (place zone nodes doc).Ensures P := by
  induction nodes generalizing doc with
  | nil => exact ensures_pure hdoc
  | cons node nodes ih =>
    obtain ⟨hnode, hnodes⟩ := List.forall_mem_cons.mp hnodes
    refine (ensures_true _).bind fun _ _ => ih hnodes ?_
    cases zone with
    | none => exact h.push hdoc hnode
    | some key => exact h.pushZone key hdoc hnode

theorem ensures_placeSection (h : IsKeptAdding Q P) {node : Node} (hnode : Q node)
    {inside : Drafting (List Node)} (hinside : inside.Ensures fun nodes => ∀ node ∈ nodes, Q node)
    (hdoc : P doc) : (placeSection node inside doc).Ensures P :=
  (h.ensures_place none (List.forall_mem_singleton.mpr hnode) hdoc).bind fun _ hplaced =>
    hinside.bind fun _ hnodes => h.ensures_place _ hnodes hplaced

variable {style : Background.PageStyle}

/-- What the items of a forest name is placed in a document that keeps its property. -/
theorem ensures_placeForest (h : IsKeptAdding Q P) {H : Forest → Prop}
    (hnodes : IsCompositional H fun x => x.Ensures fun nodes => ∀ node ∈ nodes, Q node)
    (hhead : ∀ element, (sectionNode style element).Ensures Q) {forest : Forest}
    (hforest : H forest) (hdoc : P doc) : (placeForest style forest doc).Ensures P := by
  induction forest generalizing doc with
  | nil => exact ensures_pure hdoc
  | cons item items ih =>
    have hone := hnodes.hereditary.head hforest
    obtain ⟨step, hitem, hstep⟩ := exists_placesItem style item
    rw [hstep]
    refine Ensures.bind ?_ fun _ hplaced => ih (hnodes.hereditary.tail hforest) hplaced
    cases hitem with
    | «section» _ =>
      exact (hhead _).bind fun _ hnode =>
        h.ensures_placeSection hnode (hnodes.forest (hnodes.hereditary.inside hone)) hdoc
    | loose _ => exact (hnodes.forest hone).bind fun _ hread => h.ensures_place none hread hdoc

/-- What the items of a rendered page name is placed in a document that keeps its property. -/
theorem ensures_placeItems (h : IsKeptAdding Q P)
    (hhead : ∀ part, (htmlSectionNode style part).Ensures Q) {items : List Html.Item}
    (hitems : ∀ item ∈ items, ∀ block ∈ item.blocks, (blockNode block).Ensures Q) (hdoc : P doc) :
    (placeItems style items doc).Ensures P := by
  induction items generalizing doc with
  | nil => exact ensures_pure hdoc
  | cons item items ih =>
    obtain ⟨hitem, hlater⟩ := List.forall_mem_cons.mp hitems
    cases item with
    | «section» part =>
      rw [placeItems]
      refine (hhead part).bind fun _ hnode => ?_
      exact (h.ensures_placeSection hnode (ensures_blockNodes hitem) hdoc).bind
        fun _ hplaced => ih hlater hplaced
    | block block =>
      rw [placeItems]
      refine (hitem block List.mem_cons_self).bind fun node hnode => ?_
      exact (h.ensures_place none (List.forall_mem_singleton.mpr hnode) hdoc).bind
        fun _ hplaced => ih hlater hplaced

end IsKeptAdding

end Import

end PageMarkup
