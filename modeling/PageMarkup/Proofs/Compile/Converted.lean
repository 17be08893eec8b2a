import Mathlib.Data.List.Flatten
import PageMarkup.Proofs.Compile.Visits

/-!
# How many nodes are converted

The last entry of a compilation says how many nodes it converted.  These are the sections on the top
level and, of the nodes that are reached from it, those that have something to show.  Where ids are
not placed twice no node is reached twice, so none is counted twice.
-/

namespace PageMarkup

/-- The node is part of the page: it is a section, or has something to show. -/
def Node.isShown (node : Node) : Bool :=
  node.kind.isStructural || node.markup?.isSome

/-- What is reached from a node is visited at it, if this holds of zones. -/
theorem Node.reached_sublist_visits {reached visits : String → List Node}
    (h : ∀ key, (reached key).Sublist (visits key)) (node : Node) :
    (node.reached reached).Sublist (node.visits visits) := by
  rw [Node.reached, Node.visits]
  split
  · exact (h node.contentKey).cons node
  · exact List.Sublist.refl [node]

namespace Nodes

/-- There is as much markup as there are nodes with something to show. -/
theorem length_bodies (nodes : List Node) :
    (bodies nodes).length = nodes.countP (·.markup?.isSome) := by
  rw [bodies, List.length_filterMap_eq_countP]

/-- Of nodes without a section among them those are shown that have something to show. -/
theorem countP_isShown {nodes : List Node} (h : ∀ node ∈ nodes, node.kind.isStructural = false) :
    nodes.countP Node.isShown = (bodies nodes).length := by
  rw [length_bodies]
  refine List.countP_congr fun node hnode => ?_
  rw [Node.isShown, h node hnode, Bool.false_or]

end Nodes

namespace Document

variable (doc : Document)

/-- A section counts itself and what is shown in it, a run of other nodes what is shown of them. -/
theorem convertedAll_outlineFrom (loose nodes : List Node) :
    Outline.convertedAll (doc.outlineFrom loose nodes) =
      (Nodes.bodies loose).length + nodes.countP (·.kind.isStructural) +
        (Nodes.bodies (nodes.flatMap (Node.reached doc.reached))).length := by
  have hloose (loose : List Node) :
      Outline.convertedAll (Outline.ofLoose loose) = (Nodes.bodies loose).length := by
    rw [Outline.ofLoose]
    split
    · rename_i hempty
      rw [List.isEmpty_iff.mp hempty]
      rfl
    · simp [Outline.convertedAll, Outline.converted]
  -- the run in front grows until a section comes, so it is left arbitrary
  induction nodes generalizing loose with
  | nil =>
    rw [outlineFrom, hloose]
    rfl
  | cons node nodes ih =>
    rw [outlineFrom, List.flatMap_cons, Nodes.bodies_append, List.length_append, Node.reached,
      List.countP_cons]
    split
    · have hnone : (Nodes.bodies []).length = 0 := rfl
      have hhead : Outline.convertedAll [⟨some node, doc.reached node.contentKey⟩] =
          1 + (Nodes.bodies (doc.reached node.contentKey)).length := rfl
      rw [Outline.convertedAll_append, Outline.convertedAll_append, hloose, ih, hnone, hhead]
      omega
    · rw [ih, Nodes.bodies_append, List.length_append]
      omega

/-- A compilation leaves one entry, then those of the issues and of the sections, then one that
counts the nodes that go into the sections of the page. -/
theorem entries_compile (limit : Nat) :
    doc.compile.entries limit =
      [⟨.init, "Compiling document: " ++ toString doc.topLevel.length ++ " top-level nodes, " ++
        toString doc.zones.length ++ " zones", none⟩] ++
      ((noteIssues doc.issues).entries limit ++
        (doc.compileSections [] doc.topLevel).entries limit) ++
      [⟨.success, "Compiled " ++ toString (Outline.convertedAll doc.outline) ++ " nodes into " ++
        toString (Text.size (doc.compile.result limit).toList) ++ " bytes", none⟩] := by
  have hsections : (doc.compileSections [] doc.topLevel).result limit =
      doc.outline.map Outline.compiled := doc.result_compileSections limit doc.topLevel []
  have hpage : (doc.compile.result limit).toList = (Outline.page doc.outline).render := by
    rw [compile, ← doc.result_compileForest limit]
    exact String.toList_ofList
  have hentries : doc.compile.entries limit = doc.compileForest.entries limit :=
    List.append_nil _
  rw [hpage, hentries, compileForest]
  simp only [Traced.entries_bind, Traced.entries_pure, hsections, Outline.lines_compiled,
    List.append_nil, List.append_assoc]
  rfl

/-- The last entry of a compilation counts the nodes that go into the sections of the page. -/
theorem getLast?_entries_compile (limit : Nat) :
    (doc.compile.entries limit).getLast? = some ⟨.success,
      "Compiled " ++ toString (Outline.convertedAll doc.outline) ++ " nodes into " ++
        toString (Text.size (doc.compile.result limit).toList) ++ " bytes", none⟩ := by
  rw [entries_compile]
  exact List.getLast?_concat

/-! ### No node is reached twice -/

/-- What is reached from a zone is visited in it. -/
theorem reachedFrom_sublist_visitsFrom (room : Nat) (active : List String) (key : String) :
    (doc.reachedFrom room active key).Sublist (doc.visitsFrom room active key) := by
  induction room generalizing active key with
  | zero => exact List.Sublist.refl []
  | succ room ih =>
    rw [reachedFrom, visitsFrom]
    split
    · exact List.Sublist.refl []
    · exact List.Sublist.flatMap_right _ fun node _ => node.reached_sublist_visits (ih _)

/-- What is reached from the top level is visited. -/
theorem reached_sublist_visits :
    (doc.topLevel.flatMap (Node.reached doc.reached)).Sublist doc.visits :=
  List.Sublist.flatMap_right _ fun node _ =>
    node.reached_sublist_visits (doc.reachedFrom_sublist_visitsFrom _ _)

end Document

end PageMarkup
