import PageMarkup.Proofs.Compile.Visits
import PageMarkup.Proofs.Journal

/-!
# What is reported about the nodes that are visited

A compilation reports each node it comes to: it was converted, or a warning says why it was not, or
that it is a section inside another.  The warnings of a template all name its node.  So no node that
can be reached is passed over in silence, and without issues no warning is about a zone.
-/

namespace PageMarkup

namespace Entry

/-- The entry is a warning of the node. -/
inductive IsWarningOf (node : Node) : Entry → Prop
  | skipped (missing : String) : IsWarningOf node
      ⟨.warn, node.kind.name ++ " " ++ node.id ++ " has no " ++ missing ++ "; skipped", none⟩
  | unknownShown {name : String} (h : node.kind = .unknown name) : IsWarningOf node
      ⟨.warn, "Unknown block type '" ++ name ++ "' (" ++ node.id ++ ")" ++ " degraded to text",
        none⟩
  | unknownSkipped {name : String} (h : node.kind = .unknown name) : IsWarningOf node
      ⟨.warn, "Unknown block type '" ++ name ++ "' (" ++ node.id ++ ")" ++ " skipped", none⟩
  | flattened (h : node.kind = .section) : IsWarningOf node
      ⟨.warn, "Section " ++ node.id ++ " nested inside a section; children flattened", none⟩

/-- The entry says that the node was converted. -/
structure IsConversionOf (node : Node) (entry : Entry) : Prop where
  phase : entry.phase = .block
  message : entry.message = node.kind.name ++ " " ++ node.id ++ " compiled"
  data : entry.data.isSome

/-- The entry is about the node. -/
def IsAbout (node : Node) (entry : Entry) : Prop :=
  entry.IsConversionOf node ∨ entry.IsWarningOf node

/-- The entry is a warning that a zone refers back to itself. -/
def RefersBack (entry : Entry) : Prop :=
  entry.phase = .warn ∧
    ∃ key, entry.message = "Zone " ++ key ++ " refers back to itself; left empty"

/-- A warning of a node is not about a zone. -/
theorem IsWarningOf.not_refersBack {node : Node} {entry : Entry} (h : entry.IsWarningOf node) :
    ¬entry.RefersBack := by
  rintro ⟨-, key, hmessage⟩
  -- Three characters from the end tell the warnings apart.
  cases h <;> exact append_ne_append 3 (by decide) (by decide) (by decide) hmessage

/-- A warning of a node warns. -/
theorem IsWarningOf.phase {node : Node} {entry : Entry} (h : entry.IsWarningOf node) :
    entry.phase = .warn := by
  cases h <;> rfl

/-- An entry that is no report is not about a zone that refers back. -/
theorem not_refersBack_of_phase {phase : Phase} (h : phase ∈ Phase.plain)
    (message : String) (data : Option Json) : ¬RefersBack ⟨phase, message, data⟩ := by
  rintro ⟨hwarn, -⟩
  obtain rfl : phase = .warn := hwarn
  exact absurd h (by decide)

end Entry

/-! ### Filtered values -/

section Filter

variable {P : Entry → Prop} (h : ∀ entry : Entry, entry.phase = .filter → P entry)
include h

namespace Restricted

theorem every_record (target : Restricted) (raw : String) (allowed node : Option String) :
    (target.record raw allowed node).Every P := by
  have hnote (message : String) (data : Json) : (Traced.noteWith .filter message data).Every P :=
    Traced.every_noteWith fun _ => h _ rfl
  have hclipped : (Traced.clipped raw).Every P := fun _ _ hentry => absurd hentry List.not_mem_nil
  unfold record
  cases allowed with
  | none => exact Traced.Every.bind (Traced.every_pure _) fun _ => hnote _ _
  | some value =>
    exact Traced.Every.bind hclipped fun _ =>
      Traced.Every.bind (Traced.every_pure _) fun _ => hnote _ _

/-- The only entries of a filter are about values. -/
theorem every_filterText_of_filter (target : Restricted) (raw : String) (node : Option String) :
    (target.filterText raw node).Every P := by
  unfold filterText
  split
  · exact Traced.every_pure none
  · exact Traced.Every.whenTrue (every_record h target raw _ node) fun _ => Traced.every_pure _

theorem every_filterValue (target : Restricted) (value : Value) (node : Option String) :
    (target.filterValue value node).Every P := by
  unfold filterValue
  cases value.text? with
  | some raw => exact every_filterText_of_filter h target raw node
  | none =>
    exact Traced.Every.whenTrue (every_record h target _ none node) fun _ => Traced.every_pure none

end Restricted

/-- The attributes of a node leave entries about values only. -/
theorem Node.every_attributes (node : Node) : node.attributes.Every P := by
  rw [attributes]
  induction node.kind.attributeRules with
  | nil => exact Traced.every_pure []
  | cons rule rules ih =>
    rw [Props.attributes]
    have hrest (value : Option String) : (do
        let rest ← node.props.attributes node.id rules
        return (value.map (rule.target, ·)).toList ++ rest : Traced _).Every P :=
      Traced.Every.bind ih fun rest => Traced.every_pure _
    cases node.props.value? rule.names with
    | none => exact Traced.Every.bind (Traced.every_pure none) hrest
    | some value =>
      have hvalue := Restricted.every_filterValue h rule.target value (some node.id)
      exact Traced.Every.bind hvalue hrest

/-- A restricted property of a node or of a record leaves entries about values only. -/
theorem Template.every_restricted_of_filter (target : Restricted) (names : List String)
    (node : Node) (props : Props) : (restricted target names node props).Every P := by
  rw [restricted]
  cases props.text? names with
  | none => exact Traced.every_pure none
  | some raw => exact Restricted.every_filterText_of_filter h target raw (some node.id)

end Filter

/-! ### Templates -/

/-- Every entry is about a value or a warning of the node. -/
def Traced.WarnsOf {α : Type} (node : Node) (x : Traced α) : Prop :=
  x.Every fun entry => entry.phase = .filter ∨ entry.IsWarningOf node

/-- What holds of entries about values and of the warnings of a node holds of all entries. -/
theorem Traced.WarnsOf.every {α : Type} {node : Node} {x : Traced α} (h : x.WarnsOf node)
    {P : Entry → Prop} (hfilter : ∀ entry : Entry, entry.phase = .filter → P entry)
    (hwarning : ∀ entry : Entry, entry.IsWarningOf node → P entry) : x.Every P :=
  fun limit entry hentry => (h limit entry hentry).elim (hfilter entry) (hwarning entry)

/-- The template warns of its node only, and it does where it gives nothing. -/
structure Rendering.IsReported (node : Node) (x : Rendering) : Prop where
  warnsOf : x.WarnsOf node
  exists_warning : ∀ limit, x.result limit = none →
    ∃ entry ∈ x.entries limit, entry.IsWarningOf node

/-- The template is built of steps that leave entries about values only, and ends with markup, or
with a warning and nothing. -/
inductive Rendering.IsPlain (node : Node) : Rendering → Prop
  | shown (content : Forest) : IsPlain node (return some content)
  | skipped (missing : String) : IsPlain node (Template.skip node missing)
  | step {α : Type} {x : Traced α} {f : α → Rendering}
      (hx : x.Every fun entry => entry.phase = .filter) (hf : ∀ a, IsPlain node (f a)) :
      IsPlain node (x >>= f)

namespace Rendering

variable {node : Node} {x : Rendering}

/-- A template that only asks whether there is anything to show. -/
theorem isPlain_ite (node : Node) (isEmpty : Bool) (missing : String) (content : Forest) :
    IsPlain node (if isEmpty then Template.skip node missing else return some content) := by
  split
  · exact .skipped missing
  · exact .shown content

theorem IsPlain.isReported (h : IsPlain node x) : IsReported node x := by
  induction h with
  | shown content => exact ⟨Traced.every_pure _, fun _ h => absurd h (Option.some_ne_none content)⟩
  | skipped missing =>
    have hwarning : Entry.IsWarningOf node ⟨.warn, _, none⟩ := .skipped missing
    refine ⟨?_, fun _ _ => ⟨_, List.mem_cons_self, hwarning⟩⟩
    exact Traced.Every.bind (Traced.every_note (.inr hwarning)) fun _ => Traced.every_pure _
  | @step α x f hx _ ih =>
    refine ⟨Traced.Every.bind (fun limit entry hentry => .inl (hx limit entry hentry))
      fun a => (ih a).warnsOf, fun limit h => ?_⟩
    obtain ⟨entry, hentry, hwarning⟩ := (ih (x.result limit)).exists_warning limit h
    exact ⟨entry, by rw [Traced.entries_bind]; exact List.mem_append_right _ hentry, hwarning⟩

/-- Where the template gives markup it does not warn. -/
theorem IsPlain.not_warn (h : IsPlain node x) {limit : Nat} (hshown : (x.result limit).isSome) :
    ∀ entry ∈ x.entries limit, entry.phase ≠ .warn := by
  induction h with
  | shown content => exact List.forall_mem_nil _
  | skipped missing => exact absurd hshown (by simp [Template.skip])
  | @step α x f hx _ ih =>
    rw [Traced.entries_bind]
    refine List.forall_mem_append.mpr ⟨fun entry hentry => ?_, ih (x.result limit) hshown⟩
    rw [hx limit entry hentry]
    decide

end Rendering

namespace Template

open Rendering

variable (node : Node)

/-- The attributes of a node are a step of its template. -/
theorem isPlain_attributes {f : List (Restricted × String) → Rendering}
    (hf : ∀ attributes, IsPlain node (f attributes)) : IsPlain node (node.attributes >>= f) :=
  .step (node.every_attributes fun _ => id) hf

/-- A restricted property is a step of the template of its node. -/
theorem isPlain_restricted {target : Restricted} {names : List String} {props : Props}
    {f : Option String → Rendering} (hf : ∀ value, IsPlain node (f value)) :
    IsPlain node (restricted target names node props >>= f) :=
  .step (every_restricted_of_filter (fun _ => id) target names node props) hf

theorem every_planTables (plans : List Props) :
    (planTables node plans).Every fun entry => entry.phase = .filter := by
  induction plans with
  | nil => exact Traced.every_pure []
  | cons plan plans ih =>
    refine Traced.Every.bind ?_ fun table => Traced.Every.bind ih fun _ => Traced.every_pure _
    exact Traced.Every.bind (every_restricted_of_filter (fun _ => id) _ _ node plan) fun _ =>
      Traced.every_pure _

theorem isPlain_headingNode : IsPlain node (headingNode node) := by
  rw [headingNode]
  split
  · exact .skipped "text"
  · exact isPlain_attributes node fun _ => .shown _

theorem isPlain_textNode : IsPlain node (textNode node) := by
  rw [textNode]
  split
  · exact .skipped "text"
  · exact isPlain_attributes node fun _ => .shown _

theorem isPlain_imageNode : IsPlain node (imageNode node) := by
  refine isPlain_attributes node fun attributes => ?_
  split
  · exact .skipped "usable src"
  · exact .shown _

theorem isPlain_buttonNode : IsPlain node (buttonNode node) := by
  rw [buttonNode]
  split
  · exact .skipped "label"
  · exact isPlain_attributes node fun _ => .shown _

theorem isPlain_emptyNode (name : String) : IsPlain node (emptyNode name node) :=
  isPlain_attributes node fun _ => .shown _

theorem isPlain_box (attributes : List (Restricted × String)) (parts : List Markup) :
    IsPlain node (box node attributes parts) :=
  isPlain_ite node parts.isEmpty "content" _

theorem isPlain_cardNode : IsPlain node (cardNode node) := by
  refine isPlain_attributes node fun attributes => isPlain_restricted node fun source => ?_
  dsimp only
  split
  · exact isPlain_box node attributes _
  · exact isPlain_restricted node fun _ => isPlain_box node attributes _

theorem isPlain_heroNode : IsPlain node (heroNode node) := by
  refine isPlain_attributes node fun attributes => ?_
  dsimp only
  split
  · exact isPlain_box node attributes _
  · exact isPlain_restricted node fun _ => isPlain_box node attributes _

theorem isPlain_testimonialNode : IsPlain node (testimonialNode node) := by
  rw [testimonialNode]
  dsimp only
  split
  · exact .skipped "quote"
  · exact isPlain_restricted node fun _ => .shown _

theorem isPlain_pricingNode : IsPlain node (pricingNode node) := by
  rw [pricingNode]
  dsimp only
  split
  · exact .skipped "plans"
  · exact .step (every_planTables node _) fun _ => .shown _

/-- A kind outside the vocabulary is reported in either case. -/
theorem isReported_unknownNode {name : String} (h : node.kind = .unknown name) :
    IsReported node (unknownNode name node) := by
  have hnote {message : String} (hwarning : Entry.IsWarningOf node ⟨.warn, message, none⟩)
      (content : Option Forest) :
      IsReported node (do Traced.note .warn message; return content) :=
    ⟨Traced.Every.bind (Traced.every_note (.inr hwarning)) fun _ => Traced.every_pure _,
      fun _ _ => ⟨_, List.mem_cons_self, hwarning⟩⟩
  rw [unknownNode]
  split
  · exact hnote (.unknownShown h) _
  · exact hnote (.unknownSkipped h) none

end Template

/-- The template of a kind of the vocabulary that is no section is plain. -/
theorem Node.isPlain_template {node : Node} (h : node.kind ≠ .section)
    (hknown : node.kind.isUnknown = false) : Rendering.IsPlain node node.template := by
  unfold Node.template
  split
  · rename_i hkind
    exact absurd hkind h
  · exact Template.isPlain_headingNode node
  · exact Template.isPlain_textNode node
  · exact Template.isPlain_imageNode node
  · exact Template.isPlain_buttonNode node
  · exact Template.isPlain_emptyNode node "divider"
  · exact Template.isPlain_emptyNode node "spacer"
  · exact Rendering.isPlain_ite node _ "columns" _
  · exact Template.isPlain_cardNode node
  · exact Rendering.isPlain_ite node _ "features" _
  · exact Template.isPlain_pricingNode node
  · exact Template.isPlain_testimonialNode node
  · exact Rendering.isPlain_ite node _ "stats" _
  · exact Rendering.isPlain_ite node _ "questions" _
  · exact Template.isPlain_heroNode node
  · rename_i name hkind
    rw [hkind] at hknown
    exact absurd hknown (by simp [Kind.isUnknown])

/-- The template of a node that is no section reports where it gives nothing. -/
theorem Node.isReported_template {node : Node} (h : node.kind ≠ .section) :
    Rendering.IsReported node node.template := by
  cases hknown : node.kind.isUnknown with
  | false => exact (isPlain_template h hknown).isReported
  | true =>
    obtain ⟨name, hkind⟩ : ∃ name, node.kind = .unknown name := by
      cases hkind : node.kind with
      | unknown name => exact ⟨name, rfl⟩
      | _ => exact absurd hknown (by simp [hkind, Kind.isUnknown])
    have htemplate : node.template = Template.unknownNode name node := by
      rw [template, hkind]
    rw [htemplate]
    exact Template.isReported_unknownNode node hkind

/-! ### All entries of a compilation -/

namespace Document

variable {P : Entry → Prop}
  (hplain : ∀ {phase : Phase}, phase ∈ Phase.plain → ∀ message data, P ⟨phase, message, data⟩)
  (hfilter : ∀ entry : Entry, entry.phase = .filter → P entry)
  (hwarn : ∀ message, P ⟨.warn, message, none⟩) (doc : Document)
include hplain hfilter hwarn

omit hplain in
/-- A template leaves warnings and entries about values only. -/
theorem every_template {node : Node} (h : ¬node.kind.isStructural) : node.template.Every P := by
  rw [Kind.isStructural_iff] at h
  refine (Node.isReported_template h).warnsOf.every hfilter fun entry hwarning => ?_
  cases hwarning <;> exact hwarn _

/-- A zone leaves the entries of its nodes, of zones inside it and of circles. -/
theorem every_expand (room : Nat) (active : List String) (key : String) :
    (doc.expand room active key).Every P := by
  induction room generalizing active key with
  | zero => exact Traced.every_pure _
  | succ room ih =>
    by_cases hkey : key ∈ active
    · rw [expand, if_pos (by simpa using hkey)]
      exact Traced.Every.bind (Traced.every_note (hwarn _)) fun _ => Traced.every_pure _
    · refine every_expand_of_notMem hplain hkey fun children _ node _ => ?_
      rw [Node.compileInside]
      split
      · refine Traced.Every.bind (Traced.every_note (hwarn _)) fun _ => ?_
        exact Traced.Every.bind (ih _ _) fun _ => Traced.every_pure _
      · rename_i hkind
        exact Node.every_compileTemplate hplain (every_template hfilter hwarn hkind)

/-- A compilation leaves warnings, entries about values and those of its plain phases only. -/
theorem every_compile_of_reports : doc.compile.Every P := by
  refine every_compile hplain (fun issue _ => hwarn issue.message) (fun node _ _ => ?_)
    fun node _ hkind => every_template hfilter hwarn hkind
  exact every_compileSection hplain (node.every_attributes hfilter)
    (doc.every_expand hplain hfilter hwarn _ _ _)

end Document

/-! ### Without issues no zone refers back -/

/-- Warnings of nodes are not about zones. -/
theorem Traced.WarnsOf.not_refersBack {α : Type} {node : Node} {x : Traced α}
    (h : x.WarnsOf node) : x.Every fun entry => ¬entry.RefersBack :=
  h.every (fun _ hfilter hback => absurd (hfilter.symm.trans hback.1) (by decide))
    fun _ hwarning => hwarning.not_refersBack

namespace Document

variable {doc : Document}

/-- The template of a node does not warn of zones. -/
theorem not_refersBack_template {node : Node} (h : ¬node.kind.isStructural) :
    node.template.Every fun entry => ¬entry.RefersBack := by
  rw [Kind.isStructural_iff] at h
  exact (Node.isReported_template h).warnsOf.not_refersBack

/-- While the zones on the way to a section are being expanded its own zone is not among them, and
so on inside of it. -/
theorem StandsAt.not_refersBack_expand (hnodup : (doc.nodes.map Node.id).Nodup)
    {path : List String} {node : Node} (h : doc.StandsAt path node) (hkind : node.kind = .section)
    (room : Nat) :
    (doc.expand room path node.contentKey).Every fun entry => ¬entry.RefersBack := by
  induction room generalizing path node with
  | zero => exact Traced.every_pure _
  | succ room ih =>
    refine every_expand_of_notMem Entry.not_refersBack_of_phase (h.contentKey_notMem hnodup) ?_
    intro children hzone child hchild
    rw [Node.compileInside]
    split
    · rename_i hstructural
      have hsection := Kind.isStructural_iff.mp hstructural
      have hinside : child ∈ doc.children node Zone.content := by
        rw [Document.children, ← Node.contentKey, hzone]
        exact hchild
      have hwarning := (Entry.IsWarningOf.flattened hsection).not_refersBack
      refine Traced.Every.bind (Traced.every_note hwarning) fun _ => ?_
      exact Traced.Every.bind (ih (.inside h hkind hinside) hsection) fun _ => Traced.every_pure _
    · rename_i hstructural
      exact Node.every_compileTemplate Entry.not_refersBack_of_phase
        (not_refersBack_template hstructural)

/-- In a document without issues no zone refers back to itself. -/
theorem not_refersBack_compile (h : doc.issues = []) :
    doc.compile.Every fun entry => ¬entry.RefersBack := by
  have hnodup : (doc.nodes.map Node.id).Nodup := (issues_eq_nil_iff.mp h).2.1
  refine every_compile Entry.not_refersBack_of_phase (by simp [h]) ?_ ?_
  · intro node hnode hkind
    refine every_compileSection Entry.not_refersBack_of_phase ?_ ?_
    · exact node.every_attributes fun entry hfilter hback =>
        absurd (hfilter.symm.trans hback.1) (by decide)
    · exact StandsAt.not_refersBack_expand hnodup (.top hnode) (Kind.isStructural_iff.mp hkind) _
  · exact fun node _ hkind => not_refersBack_template hkind

end Document

/-! ### Each visit leaves an entry -/

namespace Traced

variable {α β : Type} {limit : Nat} {P : Entry → Prop}

/-- The computation leaves an entry that satisfies `P`. -/
def Leaves (limit : Nat) (P : Entry → Prop) (x : Traced α) : Prop :=
  ∃ entry ∈ x.entries limit, P entry

/-- What a first step leaves stays. -/
theorem Leaves.first {x : Traced α} (h : x.Leaves limit P) (f : α → Traced β) :
    (x >>= f).Leaves limit P := by
  obtain ⟨entry, hentry, hP⟩ := h
  exact ⟨entry, by rw [entries_bind]; exact List.mem_append_left _ hentry, hP⟩

/-- What a second step leaves is added. -/
theorem Leaves.next {x : Traced α} {f : α → Traced β}
    (h : (f (x.result limit)).Leaves limit P) : (x >>= f).Leaves limit P := by
  obtain ⟨entry, hentry, hP⟩ := h
  exact ⟨entry, by rw [entries_bind]; exact List.mem_append_right _ hentry, hP⟩

/-- What is made of a result leaves no further entry. -/
theorem Leaves.map {x : Traced α} (h : x.Leaves limit P) (f : α → β) :
    (f <$> x).Leaves limit P :=
  h.first fun a => pure (f a)

end Traced

namespace Node

variable {limit : Nat}

/-- Wherever a compilation comes to the node, an entry is left that satisfies `P`. -/
structure IsMarked (limit : Nat) (P : Entry → Prop) (node : Node) : Prop where
  leaf : node.kind ≠ .section → node.compileTemplate.Leaves limit P
  compiled : node.kind = .section →
    ∀ data, P ⟨.block, "Section " ++ node.id ++ " compiled", some data⟩
  flattened : node.kind = .section →
    P ⟨.warn, "Section " ++ node.id ++ " nested inside a section; children flattened", none⟩

/-- A node that is no section is reported when it is compiled. -/
theorem leaves_compileTemplate {node : Node} (h : node.kind ≠ .section) :
    node.compileTemplate.Leaves limit (Entry.IsAbout node) := by
  have hreported := isReported_template h
  rw [compileTemplate]
  cases hresult : node.template.result limit with
  | none =>
    obtain ⟨entry, hentry, hwarning⟩ := hreported.exists_warning limit hresult
    exact Traced.Leaves.first ⟨entry, hentry, .inr hwarning⟩ _
  | some content =>
    refine Traced.Leaves.next ?_
    rw [hresult]
    exact Traced.Leaves.first ⟨_, List.mem_cons_self, .inl ⟨rfl, rfl, rfl⟩⟩ _

/-- Every node is reported where a compilation comes to it. -/
theorem isMarked_isAbout (limit : Nat) (node : Node) :
    node.IsMarked limit (Entry.IsAbout node) where
  leaf := leaves_compileTemplate
  compiled hkind data := .inl ⟨rfl, by rw [hkind]; rfl, rfl⟩
  flattened hkind := .inr (.flattened hkind)

/-- A node that is no section and shows nothing is warned of. -/
theorem isMarked_warn (limit : Nat) {node : Node} (hkind : node.kind ≠ .section)
    (hnone : node.markup? = none) : node.IsMarked limit (·.phase = .warn) where
  leaf h := by
    obtain ⟨entry, hentry, hwarning⟩ := (isReported_template h).exists_warning limit
      ((result_template limit node).trans hnone)
    exact Traced.Leaves.first ⟨entry, hentry, hwarning.phase⟩ _
  compiled h := absurd h hkind
  flattened h := absurd h hkind

variable {P : Entry → Prop} {visit : Node} (hvisited : visit.IsMarked limit P)
  {expand : String → Traced Compiled} {inside : String → List Node}
  (h : ∀ key, visit ∈ inside key → (expand key).Leaves limit P)
include hvisited h

/-- A node of a zone leaves its entry, and with a section the nodes inside it. -/
theorem leaves_compileInside {node : Node} (hvisit : visit ∈ node.visits inside) :
    (node.compileInside expand).Leaves limit P := by
  rw [visits] at hvisit
  rw [compileInside]
  split at hvisit
  · rename_i hkind
    rw [if_pos hkind]
    rcases List.mem_cons.mp hvisit with rfl | hvisit
    · have hsection := Kind.isStructural_iff.mp hkind
      exact Traced.Leaves.first ⟨_, List.mem_cons_self, hvisited.flattened hsection⟩ _
    · exact Traced.Leaves.next ((h node.contentKey hvisit).first _)
  · rename_i hkind
    rw [if_neg hkind]
    obtain rfl := List.mem_singleton.mp hvisit
    exact hvisited.leaf fun hsection => hkind (Kind.isStructural_iff.mpr hsection)

/-- Every node that is visited in a zone leaves its entry. -/
theorem leaves_compileAll {nodes : List Node}
    (hvisit : visit ∈ nodes.flatMap (Node.visits inside)) :
    (compileAll expand nodes).Leaves limit P := by
  induction nodes with
  | nil => exact absurd hvisit List.not_mem_nil
  | cons node nodes ih =>
    rcases List.mem_append.mp hvisit with hvisit | hvisit
    · exact Traced.Leaves.first (leaves_compileInside hvisited h hvisit) _
    · exact Traced.Leaves.next ((ih hvisit).first _)

end Node

namespace Document

section Visit

variable (doc : Document) {limit : Nat} {P : Entry → Prop} {visit : Node}
  (hvisited : visit.IsMarked limit P)
include hvisited

/-- Every node that is visited in the expansion of a zone leaves its entry. -/
theorem leaves_expand (room : Nat) (active : List String) (key : String)
    (hvisit : visit ∈ doc.visitsFrom room active key) :
    (doc.expand room active key).Leaves limit P := by
  induction room generalizing active key with
  | zero => exact absurd hvisit List.not_mem_nil
  | succ room ih =>
    rw [visitsFrom] at hvisit
    rw [expand]
    split at hvisit
    · exact absurd hvisit List.not_mem_nil
    · rename_i hkey
      rw [if_neg hkey]
      cases hzone : doc.zone? key with
      | none =>
        rw [hzone] at hvisit
        exact absurd hvisit List.not_mem_nil
      | some children =>
        rw [hzone] at hvisit
        exact Traced.Leaves.first (Node.leaves_compileAll hvisited (ih (key :: active)) hvisit) _

/-- Every node that is visited from a section on the top level leaves its entry. -/
theorem leaves_compileSection {node : Node} (hkind : node.kind = .section)
    (hvisit : visit = node ∨ visit ∈ doc.visitsFrom (doc.zones.length + 1) [] node.contentKey) :
    (doc.compileSection node).Leaves limit P := by
  rw [compileSection]
  rcases hvisit with rfl | hvisit
  · exact Traced.Leaves.next (Traced.Leaves.next
      (Traced.Leaves.first ⟨_, List.mem_cons_self, hvisited.compiled hkind _⟩ _))
  · exact Traced.Leaves.next ((doc.leaves_expand hvisited _ _ _ hvisit).first _)

/-- Every node that is visited from the top level leaves its entry. -/
theorem leaves_compileSections {nodes : List Node}
    (hvisit : visit ∈ nodes.flatMap (Node.visits (doc.visitsFrom (doc.zones.length + 1) [])))
    (loose : List Compiled) : (doc.compileSections loose nodes).Leaves limit P := by
  induction nodes generalizing loose with
  | nil => exact absurd hvisit List.not_mem_nil
  | cons node nodes ih =>
    rw [List.flatMap_cons, Node.visits, List.mem_append, List.mem_cons] at hvisit
    rw [compileSections]
    split at hvisit
    · rename_i hkind
      rw [if_pos hkind]
      refine Traced.Leaves.next ?_
      rcases hvisit with hvisit | hvisit
      · have hsection := Kind.isStructural_iff.mp hkind
        exact Traced.Leaves.first (doc.leaves_compileSection hvisited hsection hvisit) _
      · exact Traced.Leaves.next ((ih hvisit []).first _)
    · rename_i hkind
      rw [if_neg hkind]
      rcases hvisit with hvisit | hvisit
      · obtain rfl : visit = node := hvisit.resolve_right List.not_mem_nil
        have hleaf : visit.kind ≠ .section := fun h => hkind (Kind.isStructural_iff.mpr h)
        exact Traced.Leaves.first (hvisited.leaf hleaf) _
      · exact Traced.Leaves.next (ih hvisit _)

/-- Every node that is visited leaves its entry. -/
theorem leaves_compile (hvisit : visit ∈ doc.visits) : doc.compile.Leaves limit P := by
  have hsections := doc.leaves_compileSections hvisited hvisit []
  refine Traced.Leaves.map ?_ _
  exact Traced.Leaves.next (Traced.Leaves.next (hsections.first _))

end Visit

variable {doc : Document}

/-- In a document without issues every node that can be reached is reported. -/
theorem exists_isAbout_of_reaches (h : doc.issues = []) {node : Node} (hnode : doc.Reaches node)
    (limit : Nat) : ∃ entry ∈ doc.compile.entries limit, entry.IsAbout node := by
  have hnodup : (doc.nodes.map Node.id).Nodup := (issues_eq_nil_iff.mp h).2.1
  exact doc.leaves_compile (node.isMarked_isAbout limit) ((mem_visits_iff hnodup).mpr hnode)

/-- A text that is empty, in a section inside a section. -/
def emptyText : Document where
  root := []
  topLevel := [⟨.section, "outer", []⟩]
  zones := [("inner:content", [⟨.text, "words", []⟩]), ("outer:content", [⟨.section, "inner", []⟩])]

/-- The empty text can be reached, so it is reported. -/
theorem exists_isAbout_emptyText :
    emptyText.issues = [] ∧ emptyText.Reaches ⟨.text, "words", []⟩ ∧
      ∃ entry ∈ emptyText.compile.entries 512, entry.IsAbout ⟨.text, "words", []⟩ := by
  have hissues : emptyText.issues = [] := by decide +kernel
  have houter : emptyText.StandsAt [] ⟨.section, "outer", []⟩ := .top List.mem_cons_self
  have hinner : emptyText.StandsAt ["outer:content"] ⟨.section, "inner", []⟩ :=
    .inside houter rfl List.mem_cons_self
  have hreaches : emptyText.Reaches ⟨.text, "words", []⟩ :=
    ⟨_, .inside hinner rfl List.mem_cons_self⟩
  exact ⟨hissues, hreaches, exists_isAbout_of_reaches hissues hreaches 512⟩

/-- A text in a zone of a heading. -/
def textInHeading : Document where
  root := []
  topLevel := [⟨.heading, "h1", [("title", .text "Hi")]⟩]
  zones := [("h1:content", [⟨.text, "t1", [("text", .text "lost")]⟩])]

/-- Only sections show what is in their zones: the text in the heading is placed without an issue,
and no entry names it. -/
theorem unreported_textInHeading :
    textInHeading.issues = [] ∧ ⟨.text, "t1", [("text", .text "lost")]⟩ ∈ textInHeading.nodes ∧
      ∀ entry ∈ textInHeading.compile.entries Journal.defaultLimit,
        ¬"t1".toList <:+: entry.message.toList := by
  refine ⟨by decide +kernel, List.mem_cons_of_mem _ List.mem_cons_self, by decide +kernel⟩

end Document

end PageMarkup
