import PageMarkup.Proofs.Compile.Trace
import PageMarkup.Proofs.Template.Offers

/-!
# Every value that is changed is reported

A compilation filters the values of sections on the top level, of the nodes inside them and of the
other nodes of the top level, in the order in which they are rendered.  Its entries about values are
those of the offers that are changed, one for each.  The restricted attributes of the tags in its
markup are the allowed forms of the offers of all nodes that are shown, and what stands in
templates.  So nothing that a tag would have carried is dropped or rewritten without an entry.
-/

namespace PageMarkup

namespace Node

/-- The attributes that come of the offers of a node, if it has something to show. -/
def shown (node : Node) : List (Restricted × String) :=
  if node.markup?.isSome then Offer.kept node.offers else []

/-- What the template of a node gives carries them. -/
theorem areCarried_shown (node : Node) :
    Template.AreCarried node.shown (Forest.carried (node.markup?.getD [])) := by
  rw [shown]
  cases hmarkup : node.markup? with
  | none => exact .nil
  | some forest => exact node.areCarried_of_markup? hmarkup

/-- The entries about the values of some nodes, none of which is a section. -/
theorem selectedAll_isAboutValue (limit : Nat) (nodes : List Node) :
    selectedAll Entry.isAboutValue limit nodes = Offer.trail limit (nodes.flatMap Node.offers) := by
  have hnode (node : Node) : node.compileTemplate.selected Entry.isAboutValue limit =
      Offer.trail limit node.offers := by
    rw [selected_compileTemplate, selected_template]
    split
    · exact List.append_nil _
    · exact List.append_nil _
  rw [selectedAll, Offer.trail_flatMap]
  exact List.flatMap_congr fun node _ => hnode node

end Node

namespace Document

variable (doc : Document)

/-- The offers at a node of the top level: those to the tag of a section and of the nodes inside it,
or those of the node. -/
def offersAt (node : Node) : List Offer :=
  if node.kind.isStructural then
    node.ruleOffers ++ (doc.reached node.contentKey).flatMap Node.offers
  else node.offers

/-- The offers of a document, in the order in which they are filtered. -/
def offers : List Offer :=
  doc.topLevel.flatMap doc.offersAt

/-- The attributes that come of the offers at a node of the top level, as far as the nodes are
shown. -/
def shownAt (node : Node) : List (Restricted × String) :=
  if node.kind.isStructural then
    Offer.kept node.ruleOffers ++ (doc.reached node.contentKey).flatMap Node.shown
  else node.shown

/-- The attributes that come of the offers of a document, as far as the nodes are shown. -/
def shown : List (Restricted × String) :=
  doc.topLevel.flatMap doc.shownAt

/-- The entries about values that a compilation leaves are those of its offers. -/
theorem filter_isAboutValue_entries_compile (limit : Nat) :
    (doc.compile.entries limit).filter Entry.isAboutValue = Offer.trail limit doc.offers := by
  have hpasses : Entry.PassesOverZones Entry.isAboutValue := ⟨fun _ => rfl, fun _ => rfl⟩
  have hwrap (loose : List Compiled) :
      (wrapLoose loose).selected Entry.isAboutValue limit = [] := by
    rw [wrapLoose]
    split <;> rfl
  have hat (node : Node) : doc.selectedAt Entry.isAboutValue limit node =
      Offer.trail limit (doc.offersAt node) := by
    rw [selectedAt, offersAt]
    split
    · rw [Node.selected_attributes, Node.selectedAll_isAboutValue, Offer.trail_append]
      exact List.append_nil _
    · have hnode := Node.selectedAll_isAboutValue limit [node]
      rwa [Node.selectedAll, List.flatMap_singleton, List.flatMap_singleton] at hnode
  rw [entries_compile, List.filter_append, List.filter_append, ← between,
    doc.filter_between limit hpasses, doc.selected_compileSections limit hpasses hwrap, offers,
    Offer.trail_flatMap, List.flatMap_congr fun node _ => hat node]
  exact List.append_nil _

end Document

/-! ### What the page carries -/

/-- The markup of some nodes carries the attributes of those that are shown. -/
theorem Nodes.areCarried_bodies (nodes : List Node) :
    Template.AreCarried (nodes.flatMap Node.shown)
      ((bodies nodes).flatMap Forest.carried) := by
  have hbodies : (Nodes.bodies nodes).flatMap Forest.carried =
      nodes.flatMap fun node => Forest.carried (node.markup?.getD []) := by
    rw [Nodes.bodies]
    induction nodes with
    | nil => rfl
    | cons node nodes ih =>
      rw [List.filterMap_cons, List.flatMap_cons, ← ih]
      cases node.markup? <;> rfl
  rw [hbodies]
  exact Template.AreCarried.flatMap Node.areCarried_shown

namespace Outline

/-- The attributes that come of the offers in a section of a page, as far as the nodes are shown. -/
def shown (part : Outline) : List (Restricted × String) :=
  (part.head.map Node.kept).getD [] ++ part.nodes.flatMap Node.shown

/-- A section carries the attributes of its tag and of the nodes in it. -/
theorem areCarried_element (part : Outline) :
    Template.AreCarried part.shown (Forest.carried [part.element]) := by
  have hrow : Restricted.among fullRow.attributes = [] := by decide
  have hcolumn : Restricted.among fullColumn.attributes = [] := by decide
  have hhead : Restricted.among part.attributes = (part.head.map Node.kept).getD [] := by
    rw [attributes]
    cases part.head with
    | none => rfl
    | some node => exact Restricted.among_named node.kept
  rw [element, Markup.skeleton, Forest.carried_element, Forest.carried_element,
    Forest.carried_block, hrow, hcolumn, hhead, List.nil_append, List.nil_append, Nodes.content,
    Forest.carried_lines, shown]
  exact (Template.AreCarried.refl _).append (Nodes.areCarried_bodies part.nodes)

/-- A run of nodes of which none is shown has no attributes to be carried. -/
theorem flatMap_shown_ofLoose (loose : List Node) :
    (ofLoose loose).flatMap shown = loose.flatMap Node.shown := by
  rw [ofLoose]
  split
  · rename_i hempty
    refine (List.flatMap_eq_nil_iff.mpr fun node hnode => ?_).symm
    have hnone := List.filterMap_eq_nil_iff.mp (List.isEmpty_iff.mp hempty) node hnode
    rw [Node.shown, hnone]
    rfl
  · rw [List.flatMap_singleton]
    rfl

end Outline

namespace Document

variable (doc : Document)

/-- The attributes in the sections of a page are those at the nodes of the top level. -/
theorem flatMap_shown_outlineFrom (nodes loose : List Node) :
    (doc.outlineFrom loose nodes).flatMap Outline.shown =
      loose.flatMap Node.shown ++ nodes.flatMap doc.shownAt := by
  induction nodes generalizing loose with
  | nil => rw [outlineFrom, Outline.flatMap_shown_ofLoose, List.flatMap_nil, List.append_nil]
  | cons node nodes ih =>
    rw [outlineFrom, List.flatMap_cons, shownAt]
    split
    · rw [List.flatMap_append, List.flatMap_append, List.flatMap_singleton, ih,
        Outline.flatMap_shown_ofLoose, Outline.shown, ← node.kept_eq_kept_ruleOffers]
      simp
    · rw [ih, List.flatMap_append, List.flatMap_singleton, List.append_assoc]

/-- The markup of a document carries the attributes that come of its offers. -/
theorem areCarried_compile (limit : Nat) :
    Template.AreCarried doc.shown (Forest.read (doc.compile.result limit).toList).carried := by
  have hshown := doc.flatMap_shown_outlineFrom doc.topLevel []
  rw [List.flatMap_nil, List.nil_append] at hshown
  rw [read_compile, Outline.page, Forest.carried_lines, List.flatMap_map, shown, ← hshown]
  exact Template.AreCarried.flatMap Outline.areCarried_element

end Document

/-- Values are filtered without a loss that is not reported.  The rules of a node, and a link or a
picture inside one, add one entry for each offer that is changed, in order, to the entries that are
there, and give the attributes that come of the offers.  The entries about values that a template or
a whole compilation leaves are those of its offers, and what its markup carries are the attributes
that come of them where there is something to show, with what stands in templates. -/
theorem changes_are_reported (journal : Journal) :
    (∀ node : Node, node.attributes.runOn journal =
      (Offer.kept node.ruleOffers,
        { journal with
          entries := journal.entries ++ Offer.trail journal.limit node.ruleOffers })) ∧
    (∀ (target : Restricted) (names : List String) (node : Node) (props : Props),
      (Template.restricted target names node props).runOn journal =
        ((props.textOffer? (some node.id) target names).bind Offer.allowed,
          { journal with
            entries := journal.entries ++
              Offer.trail journal.limit (node.textOffers target names props) })) ∧
    (∀ node : Node,
      (node.template.entries journal.limit).filter Entry.isAboutValue =
        Offer.trail journal.limit node.offers ∧
      Template.AreCarried node.shown
        (Forest.carried ((node.template.result journal.limit).getD []))) ∧
    ∀ doc : Document,
      (doc.compile.entries journal.limit).filter Entry.isAboutValue =
        Offer.trail journal.limit doc.offers ∧
      Template.AreCarried doc.shown
        (Forest.read (doc.compile.result journal.limit).toList).carried := by
  have hrun {α : Type} (x : Traced α) : x.runOn journal = (x.result journal.limit,
      { journal with entries := journal.entries ++ x.entries journal.limit }) := rfl
  refine ⟨fun node => ?_, fun target names node props => ?_, fun node => ⟨?_, ?_⟩,
    fun doc => ⟨?_, ?_⟩⟩
  · rw [hrun, node.result_attributes, node.entries_attributes, node.kept_eq_kept_ruleOffers]
  · rw [hrun, Template.result_restricted, Template.entries_restricted,
      Template.allowed?_eq_bind_textOffer? (some node.id)]
    rfl
  · exact node.selected_template journal.limit
  · rw [node.result_template]
    exact node.areCarried_shown
  · exact doc.filter_isAboutValue_entries_compile journal.limit
  · exact doc.areCarried_compile journal.limit

end PageMarkup
