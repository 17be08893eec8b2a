import PageMarkup.Proofs.Template.Shape

/-!
# The outline of a page

The outline of a document says which sections its page has and which nodes are shown in each, in
the order in which they are rendered.  It follows the zones as the compilation does: a section
inside a section stands for the nodes of its zone, and a zone that is being followed is not followed
again inside itself.  The page of a document is the page of its outline.
-/

namespace PageMarkup

/-- Only sections own a zone. -/
theorem Kind.isStructural_iff {kind : Kind} : kind.isStructural = true ↔ kind = .section := by
  cases kind <;> simp [isStructural, category]

/-! ### The markup of some nodes -/

namespace Nodes

/-- The markup of those nodes that are shown. -/
def bodies (nodes : List Node) : List Forest :=
  nodes.filterMap Node.markup?

/-- The markup of some nodes on lines of their own. -/
def content (nodes : List Node) : Forest :=
  Forest.lines (bodies nodes)

@[simp] theorem bodies_append (nodes others : List Node) :
    bodies (nodes ++ others) = bodies nodes ++ bodies others := by
  simp [bodies]

/-- The markup of each node is solid. -/
theorem isSolid_of_mem_bodies {nodes : List Node} {forest : Forest} (h : forest ∈ bodies nodes) :
    forest.IsSolid := by
  obtain ⟨node, -, hnode⟩ := List.mem_filterMap.mp h
  exact Node.isSolid_of_markup? hnode

/-- The markup of some nodes may stand on lines of its own. -/
theorem isLines_content (nodes : List Node) : (content nodes).IsLines :=
  Forest.isLines_lines fun _ h => isSolid_of_mem_bodies h

/-- Nodes have no markup when none of them is shown. -/
theorem content_eq_nil_iff {nodes : List Node} : content nodes = [] ↔ bodies nodes = [] := by
  constructor
  · intro h
    by_contra hne
    exact (Forest.isSolid_lines hne fun _ h => isSolid_of_mem_bodies h).ne_nil h
  · intro h
    rw [content, h]
    rfl

end Nodes

/-! ### The outline -/

/-- A section of a page: the node it comes from, unless it was put around a run of other nodes, and
the nodes inside it in the order in which they are rendered. -/
structure Outline where
  head : Option Node
  nodes : List Node

namespace Outline

/-- The attributes of the tag of the section. -/
def attributes (part : Outline) : List (String × String) :=
  (part.head.map fun node => Template.named node.kept).getD []

/-- The section. -/
def element (part : Outline) : Markup :=
  .skeleton part.attributes (Nodes.content part.nodes)

/-- The section around a run of nodes, if any of them is shown. -/
def ofLoose (loose : List Node) : List Outline :=
  if (Nodes.bodies loose).isEmpty then [] else [⟨none, loose⟩]

/-- The page of some sections. -/
def page (parts : List Outline) : Forest :=
  Forest.lines (parts.map fun part => [part.element])

end Outline

/-- The nodes that are reached from a node of a zone, when `inside` are those reached from the zones
of sections. -/
def Node.reached (inside : String → List Node) (node : Node) : List Node :=
  if node.kind.isStructural then inside node.contentKey else [node]

namespace Document

/-- The nodes that are reached from a zone while the zones of `active` are being followed; `room`
bounds how deep zones nest. -/
def reachedFrom (doc : Document) : (room : Nat) → (active : List String) → String → List Node
  | 0, _, _ => []
  | room + 1, active, key =>
    if active.contains key then []
    else ((doc.zone? key).getD []).flatMap (Node.reached (doc.reachedFrom room (key :: active)))

/-- The nodes that are reached from a zone. -/
def reached (doc : Document) (key : String) : List Node :=
  doc.reachedFrom (doc.zones.length + 1) [] key

/-- The sections of the page, from the nodes of the top level that are left; `loose` is the run of
other nodes just before them. -/
def outlineFrom (doc : Document) : (loose : List Node) → List Node → List Outline
  | loose, [] => Outline.ofLoose loose
  | loose, node :: nodes =>
    if node.kind.isStructural then
      Outline.ofLoose loose ++ [⟨some node, doc.reached node.contentKey⟩] ++
        doc.outlineFrom [] nodes
    else doc.outlineFrom (loose ++ [node]) nodes

/-- The sections of the page of a document. -/
def outline (doc : Document) : List Outline :=
  doc.outlineFrom [] doc.topLevel

end Document

/-! ### Compilation follows the outline -/

namespace Nodes

/-- The markup of some nodes, with the number of those that are shown. -/
def compiled (nodes : List Node) : Compiled :=
  ⟨content nodes, (bodies nodes).length⟩

/-- The markup of some nodes, with their number, if any are shown. -/
def compiled? (nodes : List Node) : Option Compiled :=
  if (bodies nodes).isEmpty then none else some (compiled nodes)

theorem bodies_flatten (groups : List (List Node)) :
    bodies groups.flatten = (groups.map bodies).flatten := by
  rw [bodies, List.filterMap_flatten]
  rfl

theorem content_compiled? (nodes : List Node) :
    (compiled? nodes).map Compiled.content = Forest.lines? (bodies nodes) := by
  rw [compiled?, Forest.lines?]
  split <;> rfl

/-- Groups of nodes are compiled like all their nodes one after another; a group of which nothing is
shown takes no line. -/
theorem lines_compiled? (groups : List (List Node)) :
    Compiled.lines (groups.map compiled?) = compiled groups.flatten := by
  have hcontent : ((groups.map compiled?).filterMap id).map Compiled.content =
      (groups.map bodies).filterMap Forest.lines? := by
    rw [List.map_filterMap, List.filterMap_map, List.filterMap_map]
    exact List.filterMap_congr fun nodes _ => content_compiled? nodes
  have hnumber : ((groups.map compiled?).filterMap id).foldr (·.converted + ·) 0 =
      (bodies groups.flatten).length := by
    induction groups with
    | nil => rfl
    | cons nodes groups ih =>
      have hrest := ih (by
        rw [List.map_filterMap, List.filterMap_map, List.filterMap_map]
        exact List.filterMap_congr fun nodes _ => content_compiled? nodes)
      rw [List.map_cons, List.flatten_cons, bodies_append, List.length_append, ← hrest, compiled?]
      split
      · rename_i hempty
        rw [List.isEmpty_iff.mp hempty]
        simp
      · rfl
  rw [Compiled.lines, hcontent, hnumber, Forest.lines_flatten, ← bodies_flatten]
  rfl

/-- None of some nodes is compiled when none is shown. -/
theorem isEmpty_compiled? (nodes : List Node) :
    (nodes.filterMap fun node => compiled? [node]).isEmpty = (bodies nodes).isEmpty := by
  induction nodes with
  | nil => rfl
  | cons node nodes ih =>
    rw [← List.singleton_append, bodies_append, List.filterMap_append, List.filterMap_cons,
      List.filterMap_nil, compiled?]
    cases (bodies [node]) with
    | nil => exact ih
    | cons body bodies => rfl

/-- One more node is compiled after the others. -/
theorem filterMap_compiled?_concat (nodes : List Node) (node : Node) :
    (nodes ++ [node]).filterMap (fun node => compiled? [node]) =
      (nodes.filterMap fun node => compiled? [node]) ++ (compiled? [node]).toList := by
  rw [List.filterMap_append, List.filterMap_cons]
  cases compiled? [node] <;> rfl

end Nodes

namespace Node

/-- A node is compiled as its template gives it. -/
theorem result_compileTemplate (limit : Nat) (node : Node) :
    node.compileTemplate.result limit = Nodes.compiled? [node] := by
  have hbodies : Nodes.bodies [node] = node.markup?.toList := by
    rw [Nodes.bodies, List.filterMap_cons]
    cases node.markup? <;> rfl
  rw [compileTemplate, Traced.result_bind, result_template, Nodes.compiled?, Nodes.compiled,
    Nodes.content, hbodies]
  cases node.markup? <;> rfl

variable {limit : Nat} {expand : String → Traced Compiled} {inside : String → List Node}

/-- A node of a zone is compiled to the lines of the nodes reached from it, if any are shown. -/
theorem result_compileInside (h : ∀ key, (expand key).result limit = Nodes.compiled (inside key))
    (node : Node) :
    (node.compileInside expand).result limit = Nodes.compiled? (node.reached inside) := by
  rw [compileInside, reached]
  split
  · have hempty : (Nodes.compiled (inside node.contentKey)).content.isEmpty =
        (Nodes.bodies (inside node.contentKey)).isEmpty := by
      rw [Bool.eq_iff_iff, List.isEmpty_iff, List.isEmpty_iff, Nodes.compiled,
        Nodes.content_eq_nil_iff]
    simp only [Traced.result_bind, Traced.result_pure, h, hempty]
    rfl
  · exact node.result_compileTemplate limit

/-- Each node of a zone is compiled to the lines of the nodes reached from it. -/
theorem result_compileAll (h : ∀ key, (expand key).result limit = Nodes.compiled (inside key))
    (nodes : List Node) :
    (compileAll expand nodes).result limit =
      (nodes.map (Node.reached inside)).map Nodes.compiled? := by
  induction nodes with
  | nil => rfl
  | cons node nodes ih =>
    simp only [compileAll, Traced.result_bind, Traced.result_pure, List.map_cons, ih,
      result_compileInside h]

end Node

/-- The number of nodes that go into a section, with the node it comes from. -/
def Outline.converted (part : Outline) : Nat :=
  part.head.toList.length + (Nodes.bodies part.nodes).length

/-- A section with the number of nodes that go into it. -/
def Outline.compiled (part : Outline) : Compiled :=
  ⟨[part.element], part.converted⟩

/-- The number of nodes that go into some sections. -/
def Outline.convertedAll : List Outline → Nat
  | [] => 0
  | part :: parts => part.converted + convertedAll parts

@[simp] theorem Outline.convertedAll_append (parts others : List Outline) :
    convertedAll (parts ++ others) = convertedAll parts + convertedAll others := by
  induction parts with
  | nil => simp [convertedAll]
  | cons part parts ih => simp [convertedAll, ih, Nat.add_assoc]

/-- Sections make a page with all nodes that go into them. -/
theorem Outline.lines_compiled (parts : List Outline) :
    Compiled.lines ((parts.map compiled).map some) = ⟨page parts, convertedAll parts⟩ := by
  have hall : ((parts.map compiled).map some).filterMap id = parts.map compiled := by
    simp [List.filterMap_map]
  have hcount : (parts.map compiled).foldr (·.converted + ·) 0 = convertedAll parts := by
    induction parts with
    | nil => rfl
    | cons part parts ih =>
      rw [List.map_cons, List.foldr_cons, ih (by simp [List.filterMap_map])]
      rfl
  rw [Compiled.lines, hall, hcount, List.map_map]
  rfl

namespace Document

variable (doc : Document) (limit : Nat)

/-- A zone is compiled to the nodes reached from it. -/
theorem result_expand (room : Nat) (active : List String) (key : String) :
    (doc.expand room active key).result limit =
      Nodes.compiled (doc.reachedFrom room active key) := by
  induction room generalizing active key with
  | zero => rfl
  | succ room ih =>
    rw [expand, reachedFrom]
    split
    · rfl
    · cases doc.zone? key with
      | none => rfl
      | some children =>
        have hchildren := Node.result_compileAll (fun inner => ih (key :: active) inner) children
        rw [Traced.result_bind, Traced.result_pure, hchildren, Nodes.lines_compiled?,
          Option.getD_some, List.flatMap_def]

/-- The markup of a zone is that of the nodes reached from it. -/
theorem content_expand (room : Nat) (active : List String) (key : String) :
    ((doc.expand room active key).result limit).content =
      Nodes.content (doc.reachedFrom room active key) := by
  rw [result_expand]
  rfl

/-- A section is compiled with the nodes reached from its zone. -/
theorem result_compileSection (node : Node) :
    (doc.compileSection node).result limit =
      Outline.compiled ⟨some node, doc.reached node.contentKey⟩ := by
  simp only [compileSection, compileZone, Traced.result_bind, Traced.result_pure,
    Node.result_attributes, result_expand]
  exact congrArg (Compiled.mk _) (Nat.add_comm _ 1)

/-- The section around a run of nodes is that of its outline. -/
theorem result_wrapLoose (nodes : List Node) :
    (wrapLoose (nodes.filterMap fun node => Nodes.compiled? [node])).result limit =
      (Outline.ofLoose nodes).map Outline.compiled := by
  have hlines := Nodes.lines_compiled? (nodes.map fun node => [node])
  rw [← List.flatMap_def, List.flatMap_singleton', List.map_map] at hlines
  have hloose : Compiled.lines ((nodes.filterMap fun node => Nodes.compiled? [node]).map some) =
      Nodes.compiled nodes := by
    rw [← hlines, Compiled.lines, Compiled.lines, List.filterMap_map, List.filterMap_map]
    simp only [Function.id_comp, List.filterMap_some]
    rfl
  rw [wrapLoose, Outline.ofLoose, Nodes.isEmpty_compiled?]
  split
  · rfl
  · rw [Traced.result_bind, Traced.result_pure, hloose]
    exact congrArg (fun number => [Compiled.mk _ number]) (Nat.zero_add _).symm

/-- The sections that are compiled are those of the outline. -/
theorem result_compileSections (nodes loose : List Node) :
    (doc.compileSections (loose.filterMap fun node => Nodes.compiled? [node]) nodes).result limit =
      (doc.outlineFrom loose nodes).map Outline.compiled := by
  induction nodes generalizing loose with
  | nil => exact result_wrapLoose limit loose
  | cons node nodes ih =>
    rw [compileSections, outlineFrom]
    split
    · have hrest := ih []
      simp only [List.filterMap_nil] at hrest
      simp only [Traced.result_bind, Traced.result_pure, List.map_append, hrest,
        result_wrapLoose, List.map_cons, List.map_nil, result_compileSection]
    · rw [Traced.result_bind, Node.result_compileTemplate, ← Nodes.filterMap_compiled?_concat]
      exact ih (loose ++ [node])

/-- The page of a document is the page of its outline. -/
theorem result_compileForest : doc.compileForest.result limit = Outline.page doc.outline := by
  have hsections := doc.result_compileSections limit doc.topLevel []
  rw [List.filterMap_nil] at hsections
  simp only [compileForest, Traced.result_bind, Traced.result_pure, hsections]
  exact congrArg Compiled.content (Outline.lines_compiled doc.outline)

end Document

end PageMarkup
