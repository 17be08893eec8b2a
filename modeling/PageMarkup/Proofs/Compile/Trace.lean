import PageMarkup.Proofs.Compile.Converted
import PageMarkup.Proofs.Compile.Walk
import PageMarkup.Proofs.Filter
import PageMarkup.Proofs.Import.Skeleton

/-!
# The entries of a compilation and its page

A compilation counts nodes, leaves entries and gives markup, each at another place.  They agree:
what the last entry says of the number of nodes is the number of entries about nodes that were
converted, and these are the sections on the top level and those other visited nodes that have
something to show; and there is a section in the markup for each section on the top level and for
each entry about a section put around other nodes.  All of it follows from one statement: the
entries of some kind that a compilation leaves are, node by node, those of the nodes that are
reached.
-/

namespace PageMarkup

/-! ### Entries of some kind -/

/-- The entries of some kind tell nothing about how zones are expanded. -/
structure Entry.PassesOverZones (p : Entry → Bool) : Prop where
  warn : ∀ message, p ⟨.warn, message, none⟩ = false
  unresolved : ∀ key, p ⟨.block, "Zone " ++ key ++ " unresolved; empty content", none⟩ = false

/-- Where each entry is of another kind there is none of this kind. -/
theorem Traced.Every.selected_eq_nil {α : Type} {x : Traced α} {p : Entry → Bool}
    (h : x.Every fun entry => p entry = false) (limit : Nat) : x.selected p limit = [] :=
  List.filter_eq_nil_iff.mpr fun entry hentry => by simp [h limit entry hentry]

namespace Node

/-- The entry that says that a section on the top level was converted. -/
def sectionEntry (limit : Nat) (node : Node) : Entry :=
  ⟨.block, "Section " ++ node.id ++ " compiled", some <| Clip.data limit <| Json.ofFields [
    ("id", .text node.id),
    ("type", .text node.kind.name),
    ("zone", .text node.contentKey),
    ("background", ((Template.valueOf? .bgColor node.kept).map Json.text).getD .null)]⟩

/-- The entries of some kind about some nodes. -/
def selectedAll (p : Entry → Bool) (limit : Nat) (nodes : List Node) : List Entry :=
  nodes.flatMap fun node => node.compileTemplate.selected p limit

variable {p : Entry → Bool} {limit : Nat} {expand : String → Traced Compiled}
  {inside : String → List Node}

/-- In a zone a node leaves the entries of the nodes that are reached from it. -/
theorem selected_compileInside (hp : Entry.PassesOverZones p)
    (h : ∀ key, (expand key).selected p limit = selectedAll p limit (inside key)) (node : Node) :
    (node.compileInside expand).selected p limit = selectedAll p limit (node.reached inside) := by
  rw [compileInside, reached]
  split
  · simp only [Traced.selected_bind, Traced.selected_pure, Traced.selected_note, h, List.append_nil,
      List.filter_cons, hp.warn]
    rfl
  · rw [selectedAll, List.flatMap_singleton]

theorem selected_compileAll (hp : Entry.PassesOverZones p)
    (h : ∀ key, (expand key).selected p limit = selectedAll p limit (inside key))
    (nodes : List Node) :
    (compileAll expand nodes).selected p limit =
      selectedAll p limit (nodes.flatMap (Node.reached inside)) := by
  induction nodes with
  | nil => rfl
  | cons node nodes ih =>
    rw [compileAll, List.flatMap_cons, selectedAll, List.flatMap_append]
    simp only [Traced.selected_bind, Traced.selected_pure, List.append_nil, ih,
      selected_compileInside hp h]
    rfl

end Node

namespace Document

variable (doc : Document) {p : Entry → Bool} (limit : Nat)

/-- The expansion of a zone leaves the entries of the nodes that are reached from it. -/
theorem selected_expand (hp : Entry.PassesOverZones p) (room : Nat) (active : List String)
    (key : String) :
    (doc.expand room active key).selected p limit =
      Node.selectedAll p limit (doc.reachedFrom room active key) := by
  induction room generalizing active key with
  | zero => rfl
  | succ room ih =>
    rw [expand, reachedFrom]
    split
    · rw [Traced.selected_bind, Traced.selected_note, List.filter_cons, hp.warn]
      rfl
    · cases doc.zone? key with
      | none =>
        rw [Traced.selected_bind, Traced.selected_note, List.filter_cons, hp.unresolved]
        rfl
      | some children =>
        have hchildren := Node.selected_compileAll hp (fun inner => ih (key :: active) inner)
          children
        rw [Traced.selected_bind, Traced.selected_pure, List.append_nil, hchildren,
          Option.getD_some]

/-- The entries of some kind about a node of the top level and what is inside it. -/
def selectedAt (p : Entry → Bool) (limit : Nat) (node : Node) : List Entry :=
  if node.kind.isStructural then
    node.attributes.selected p limit ++ Node.selectedAll p limit (doc.reached node.contentKey)
      ++ [node.sectionEntry limit].filter p
  else node.compileTemplate.selected p limit

theorem selected_compileSection (hp : Entry.PassesOverZones p) {node : Node}
    (hkind : node.kind.isStructural = true) :
    (doc.compileSection node).selected p limit = doc.selectedAt p limit node := by
  rw [compileSection, selectedAt, if_pos hkind]
  simp only [compileZone, Traced.selected_bind, Traced.selected_pure, Traced.selected_noteWith,
    Node.result_attributes, doc.selected_expand limit hp, List.append_nil, List.append_assoc]
  rfl

/-- If sections around other nodes are passed over, the sections of the page leave the entries of
the nodes of the top level. -/
theorem selected_compileSections (hp : Entry.PassesOverZones p)
    (hwrap : ∀ loose, (wrapLoose loose).selected p limit = []) (loose : List Compiled)
    (nodes : List Node) :
    (doc.compileSections loose nodes).selected p limit =
      nodes.flatMap (doc.selectedAt p limit) := by
  induction nodes generalizing loose with
  | nil => exact hwrap loose
  | cons node nodes ih =>
    rw [compileSections, List.flatMap_cons]
    split
    · rename_i hkind
      simp only [Traced.selected_bind, Traced.selected_pure, hwrap, ih, List.nil_append,
        List.append_nil, doc.selected_compileSection limit hp hkind]
    · rename_i hkind
      rw [Traced.selected_bind, ih, selectedAt, if_neg hkind]

end Document

/-! ### What templates leave -/

/-- Entries of some kind are neither about values nor warnings. -/
def Entry.PassesOverTemplates (p : Entry → Bool) : Prop :=
  ∀ entry : Entry, entry.phase = .filter ∨ entry.phase = .warn → p entry = false

namespace Node

/-- The entry that says that a node was converted. -/
def conversionEntry (limit : Nat) (node : Node) : Entry :=
  ⟨.block, node.kind.name ++ " " ++ node.id ++ " compiled", some <| Clip.data limit <|
    Json.ofFields [("id", .text node.id), ("type", .text node.kind.name)]⟩

variable {p : Entry → Bool}

/-- A template leaves entries about values and warnings only. -/
theorem selected_template_eq_nil (hp : Entry.PassesOverTemplates p) (limit : Nat) (node : Node) :
    node.template.selected p limit = [] := by
  by_cases hkind : node.kind = .section
  · rw [template, hkind]
    rfl
  · have hwarns := (isReported_template hkind).warnsOf
    refine Traced.Every.selected_eq_nil (hwarns.every (fun entry hfilter => ?_) ?_) limit
    · exact hp entry (.inl hfilter)
    · exact fun entry hwarning => hp entry (.inr hwarning.phase)

theorem selected_attributes_eq_nil (hp : Entry.PassesOverTemplates p) (limit : Nat) (node : Node) :
    node.attributes.selected p limit = [] :=
  Traced.Every.selected_eq_nil
    (node.every_attributes fun entry hfilter => hp entry (.inl hfilter)) limit

/-- A node that is no section leaves the entries of its template, and one more if it has something
to show. -/
theorem selected_compileTemplate (limit : Nat) (node : Node) :
    node.compileTemplate.selected p limit = node.template.selected p limit ++
      if node.markup?.isSome then [node.conversionEntry limit].filter p else [] := by
  rw [compileTemplate, Traced.selected_bind, result_template]
  cases node.markup? with
  | none => rfl
  | some content =>
    simp only [Traced.selected_bind, Traced.selected_noteWith, Traced.selected_pure,
      List.append_nil]
    rfl

end Node

/-! ### Conversions -/

namespace Entry

/-- The entry says that a node was converted. -/
def isConversion (entry : Entry) : Bool :=
  entry.phase == .block && entry.data.isSome

/-- The entry says that a section was put around nodes of the top level. -/
def isSynthesis (entry : Entry) : Bool :=
  entry.phase == .block && entry.data.isNone &&
    "Synthesized section".toList.isPrefixOf entry.message.toList

/-- The entry begins or ends a compilation, or reports an error. -/
def isBorder (entry : Entry) : Bool :=
  entry.phase == .init || entry.phase == .success || entry.phase == .error

theorem passesOverZones_isConversion : PassesOverZones isConversion where
  warn _ := rfl
  unresolved _ := rfl

theorem passesOverZones_isSynthesis : PassesOverZones isSynthesis where
  warn _ := rfl
  unresolved key := by
    rw [isSynthesis, String.toList_append, String.toList_append, List.append_assoc]
    rfl

theorem passesOverZones_isBorder : PassesOverZones isBorder where
  warn _ := rfl
  unresolved _ := rfl

theorem passesOverTemplates_isConversion : PassesOverTemplates isConversion := by
  rintro entry (hphase | hphase) <;> simp [isConversion, hphase]

theorem passesOverTemplates_isSynthesis : PassesOverTemplates isSynthesis := by
  rintro entry (hphase | hphase) <;> simp [isSynthesis, hphase]

theorem passesOverTemplates_isBorder : PassesOverTemplates isBorder := by
  rintro entry (hphase | hphase) <;> simp [isBorder, hphase]

end Entry

/-- The entries about conversions of some nodes are as many as there is markup of them. -/
theorem Node.length_selectedAll (limit : Nat) (nodes : List Node) :
    (selectedAll Entry.isConversion limit nodes).length = (Nodes.bodies nodes).length := by
  have hnode (node : Node) :
      (node.compileTemplate.selected Entry.isConversion limit).length =
        if node.markup?.isSome then 1 else 0 := by
    rw [selected_compileTemplate, selected_template_eq_nil Entry.passesOverTemplates_isConversion]
    split <;> rfl
  rw [Nodes.length_bodies]
  induction nodes with
  | nil => rfl
  | cons node nodes ih =>
    rw [selectedAll, List.flatMap_cons, List.length_append, hnode, List.countP_cons, ← ih,
      Nat.add_comm]
    rfl

/-- What is reached from a node are the nodes visited at it that are no sections, if this holds of
zones. -/
theorem Node.reached_eq_filter_visits {reached visits : String → List Node}
    (h : ∀ key, reached key = (visits key).filter fun node => !node.kind.isStructural)
    (node : Node) :
    node.reached reached = (node.visits visits).filter fun node => !node.kind.isStructural := by
  rw [Node.reached, Node.visits, List.filter_cons]
  split
  · rename_i hkind
    rw [if_neg (by simp [hkind]), h]
  · rename_i hkind
    rw [if_pos (by simpa using hkind), List.filter_nil]

/-- No section is put around nodes inside a section. -/
theorem Node.selectedAll_eq_nil (limit : Nat) (nodes : List Node) :
    selectedAll Entry.isSynthesis limit nodes = [] := by
  refine List.flatMap_eq_nil_iff.mpr fun node _ => ?_
  rw [selected_compileTemplate, selected_template_eq_nil Entry.passesOverTemplates_isSynthesis]
  split <;> rfl

namespace Document

variable (doc : Document) (limit : Nat)

/-- The entries about conversions are as many as the sections on the top level and the markup of
the other nodes that are reached from it. -/
theorem length_conversions (loose : List Compiled) (nodes : List Node) :
    ((doc.compileSections loose nodes).selected Entry.isConversion limit).length =
      nodes.countP (·.kind.isStructural) +
        (Nodes.bodies (nodes.flatMap (Node.reached doc.reached))).length := by
  have hwrap (loose : List Compiled) :
      (wrapLoose loose).selected Entry.isConversion limit = [] := by
    rw [wrapLoose]
    split <;> rfl
  rw [doc.selected_compileSections limit Entry.passesOverZones_isConversion hwrap]
  induction nodes with
  | nil => rfl
  | cons node nodes ih =>
    rw [List.flatMap_cons, List.length_append, ih, List.flatMap_cons, Nodes.bodies_append,
      List.length_append, List.countP_cons, selectedAt, Node.reached]
    split
    · rw [Node.selected_attributes_eq_nil Entry.passesOverTemplates_isConversion,
        List.nil_append, List.length_append, Node.length_selectedAll]
      have hone : ([node.sectionEntry limit].filter Entry.isConversion).length = 1 := rfl
      omega
    · have hnode := Node.length_selectedAll limit [node]
      rw [Node.selectedAll, List.flatMap_singleton] at hnode
      omega

/-- What is reached from a zone are the nodes visited in it that are no sections. -/
theorem reachedFrom_eq_filter (room : Nat) (active : List String) (key : String) :
    doc.reachedFrom room active key =
      (doc.visitsFrom room active key).filter fun node => !node.kind.isStructural := by
  induction room generalizing active key with
  | zero => rfl
  | succ room ih =>
    rw [reachedFrom, visitsFrom]
    split
    · rfl
    · rw [List.filter_flatMap]
      exact List.flatMap_congr fun node _ => node.reached_eq_filter_visits (ih (key :: active))

/-- What is reached from the top level are the visited nodes that are no sections. -/
theorem reached_eq_filter_visits :
    doc.topLevel.flatMap (Node.reached doc.reached) =
      doc.visits.filter fun node => !node.kind.isStructural := by
  rw [visits, List.filter_flatMap]
  exact List.flatMap_congr fun node _ =>
    node.reached_eq_filter_visits (doc.reachedFrom_eq_filter _ _)

/-! ### Sections around other nodes -/

/-- A section is put around a run of nodes, and reported, if any of them is shown. -/
theorem length_selected_wrapLoose (nodes : List Node) :
    ((wrapLoose (nodes.filterMap fun node => Nodes.compiled? [node])).selected
      Entry.isSynthesis limit).length = (Outline.ofLoose nodes).countP (·.head.isNone) := by
  rw [wrapLoose, Outline.ofLoose, Nodes.isEmpty_compiled?]
  split
  · rfl
  · have hentry (number : String) : Entry.isSynthesis
        ⟨.block, "Synthesized section around " ++ number ++ " top-level nodes", none⟩ = true := by
      rw [Entry.isSynthesis, String.toList_append, String.toList_append, List.append_assoc]
      rfl
    rw [Traced.selected_bind, Traced.selected_pure, Traced.selected_note, List.append_nil,
      List.filter_cons_of_pos (hentry _)]
    rfl

/-- The sections of the outline that come from no node are those that are reported. -/
theorem length_syntheses (nodes loose : List Node) :
    ((doc.compileSections (loose.filterMap fun node => Nodes.compiled? [node]) nodes).selected
      Entry.isSynthesis limit).length = (doc.outlineFrom loose nodes).countP (·.head.isNone) := by
  induction nodes generalizing loose with
  | nil => exact length_selected_wrapLoose limit loose
  | cons node nodes ih =>
    rw [compileSections, outlineFrom]
    split
    · rename_i hkind
      have hsection : (doc.compileSection node).selected Entry.isSynthesis limit = [] := by
        rw [doc.selected_compileSection limit Entry.passesOverZones_isSynthesis hkind, selectedAt,
          if_pos hkind, Node.selected_attributes_eq_nil Entry.passesOverTemplates_isSynthesis,
          Node.selectedAll_eq_nil]
        rfl
      have hrest := ih []
      rw [List.filterMap_nil] at hrest
      simp only [Traced.selected_bind, Traced.selected_pure, hsection, List.nil_append,
        List.append_nil, List.length_append, hrest, List.countP_append,
        length_selected_wrapLoose]
      rfl
    · have hnode := Node.selectedAll_eq_nil limit [node]
      rw [Node.selectedAll, List.flatMap_singleton] at hnode
      rw [Traced.selected_bind, hnode, List.nil_append, Node.result_compileTemplate,
        ← Nodes.filterMap_compiled?_concat]
      exact ih (loose ++ [node])

/-- The other sections of the outline are those on the top level. -/
theorem countP_outlineFrom (nodes loose : List Node) :
    (doc.outlineFrom loose nodes).countP (·.head.isNone) + nodes.countP (·.kind.isStructural) =
      (doc.outlineFrom loose nodes).length := by
  have hloose (loose : List Node) : (Outline.ofLoose loose).countP (·.head.isNone) =
      (Outline.ofLoose loose).length := by
    rw [Outline.ofLoose]
    split <;> rfl
  induction nodes generalizing loose with
  | nil => exact hloose loose
  | cons node nodes ih =>
    rw [outlineFrom, List.countP_cons]
    split
    · have hrest := ih []
      rw [List.countP_append, List.countP_append, List.length_append, List.length_append, hloose,
        ← hrest]
      simp
      omega
    · rename_i hkind
      have hrest := ih (loose ++ [node])
      simpa [hkind] using hrest

/-! ### The whole compilation -/

/-- What an issue leaves is a warning. -/
theorem selected_noteIssues {p : Entry → Bool} (hp : Entry.PassesOverZones p)
    (issues : List Issue) : (noteIssues issues).selected p limit = [] :=
  Traced.Every.selected_eq_nil (every_noteIssues fun issue _ => hp.warn issue.message) limit

/-- The entries of a compilation between the first and the last. -/
def between : List Entry :=
  (noteIssues doc.issues).entries limit ++ (doc.compileSections [] doc.topLevel).entries limit

/-- Those of some kind are left by the sections of the page. -/
theorem filter_between {p : Entry → Bool} (hp : Entry.PassesOverZones p) :
    (doc.between limit).filter p = (doc.compileSections [] doc.topLevel).selected p limit := by
  have hissues := selected_noteIssues limit hp doc.issues
  rw [Traced.selected] at hissues
  rw [between, List.filter_append, hissues, List.nil_append]
  rfl

/-- The entries about conversions are as many as the nodes that go into the sections. -/
theorem countP_isConversion_between :
    (doc.between limit).countP Entry.isConversion = Outline.convertedAll doc.outline := by
  have hnone : (Nodes.bodies []).length = 0 := rfl
  rw [List.countP_eq_length_filter, doc.filter_between limit Entry.passesOverZones_isConversion,
    length_conversions, outline, convertedAll_outlineFrom, hnone, Nat.zero_add]

/-- The nodes that go into the sections are the sections on the top level and the other visited
nodes that have something to show. -/
theorem convertedAll_outline :
    Outline.convertedAll doc.outline = doc.topLevel.countP (·.kind.isStructural) +
      doc.visits.countP (fun node => !node.kind.isStructural &&
        (node.template.result limit).isSome) := by
  have hnone : (Nodes.bodies []).length = 0 := rfl
  rw [outline, convertedAll_outlineFrom, hnone, Nat.zero_add, reached_eq_filter_visits,
    Nodes.length_bodies, List.countP_filter]
  simp only [Node.result_template, Bool.and_comm]

/-- The entries about sections around other nodes and the sections on the top level are as many as
the sections of the page. -/
theorem countP_isSynthesis_between :
    (doc.between limit).countP Entry.isSynthesis + doc.topLevel.countP (·.kind.isStructural) =
      doc.outline.length := by
  have hcount := doc.length_syntheses limit doc.topLevel []
  rw [List.filterMap_nil] at hcount
  rw [List.countP_eq_length_filter, doc.filter_between limit Entry.passesOverZones_isSynthesis,
    hcount, outline, countP_outlineFrom]

/-- No entry between the first and the last is of their kinds, or about an error. -/
theorem isBorder_eq_false {entry : Entry}
    (h : entry ∈ doc.between limit) : entry.isBorder = false := by
  have hwrap (loose : List Compiled) : (wrapLoose loose).selected Entry.isBorder limit = [] := by
    rw [wrapLoose]
    split <;> rfl
  have hnone : (doc.compileSections [] doc.topLevel).selected Entry.isBorder limit = [] := by
    rw [doc.selected_compileSections limit Entry.passesOverZones_isBorder hwrap]
    refine List.flatMap_eq_nil_iff.mpr fun node _ => ?_
    have hnode (node : Node) : node.compileTemplate.selected Entry.isBorder limit = [] := by
      rw [Node.selected_compileTemplate,
        Node.selected_template_eq_nil Entry.passesOverTemplates_isBorder]
      split <;> rfl
    rw [selectedAt]
    split
    · rw [Node.selected_attributes_eq_nil Entry.passesOverTemplates_isBorder, Node.selectedAll,
        List.flatMap_eq_nil_iff.mpr fun node _ => hnode node]
      rfl
    · exact hnode node
  rw [← doc.filter_between limit Entry.passesOverZones_isBorder] at hnone
  simpa using List.filter_eq_nil_iff.mp hnone entry h

/-- The entries of a compilation match its page.  The first entry begins the compilation and the
last ends it, and none in between does either or reports an error.  The last entry says how many
nodes were converted, which is the number of entries about conversions, and how many bytes the
markup takes.  As many nodes are converted as there are sections on the top level and visits of
other nodes whose template gives markup; and with the sections that are put around other nodes the
sections of the top level are those of the markup.  The visits are those of a walk that gives the
same markup and entries. -/
theorem compile_trace (doc : Document) (journal : Journal) :
    ∃ text first middle last, ∃ walk : Walk,
      doc.compile.runOn journal =
        (text, { journal with entries := journal.entries ++ (first :: middle ++ [last]) }) ∧
      first.phase = .init ∧
      (∀ entry ∈ middle,
        entry.phase ≠ .init ∧ entry.phase ≠ .success ∧ entry.phase ≠ .error) ∧
      last = ⟨.success, "Compiled " ++ toString (middle.countP Entry.isConversion) ++
        " nodes into " ++ toString (Text.size text.toList) ++ " bytes", none⟩ ∧
      (doc.walk journal.limit (doc.zones.length + 1)).run .start = some (text, walk) ∧
      walk.entries = first :: middle ++ [last] ∧
      middle.countP Entry.isConversion =
        doc.topLevel.countP (·.kind.isStructural) +
          walk.visited.countP (fun node => !node.kind.isStructural &&
            (node.template.result journal.limit).isSome) ∧
      middle.countP Entry.isSynthesis + doc.topLevel.countP (·.kind.isStructural) =
        (Markup.sectionTags text.toList).length := by
  have hentries := doc.entries_compile journal.limit
  rw [← doc.countP_isConversion_between journal.limit] at hentries
  have hsections : (Markup.sectionTags (doc.compile.result journal.limit).toList).length =
      doc.outline.length := by
    rw [toList_compile, Outline.sectionTags_render_page fun part => doc.isProper_of_mem_outline,
      List.length_map]
  have hcount := doc.countP_isConversion_between journal.limit
  rw [doc.convertedAll_outline journal.limit] at hcount
  obtain ⟨history, hwalk, -⟩ := doc.runs_walk journal.limit .start rfl
  refine ⟨doc.compile.result journal.limit, _, doc.between journal.limit, _, _, ?_, rfl, ?_, rfl,
    hwalk, hentries, ?_, ?_⟩
  · rw [Traced.runOn]
    exact congrArg (fun added => (doc.compile.result journal.limit,
      { journal with entries := journal.entries ++ added })) hentries
  · intro entry hentry
    simpa [Entry.isBorder, not_or, and_assoc] using doc.isBorder_eq_false journal.limit hentry
  · exact hcount
  · rw [hsections]
    exact doc.countP_isSynthesis_between journal.limit

end Document

end PageMarkup
