import PageMarkup.Proofs.Import.Stored
import PageMarkup.Proofs.Journal

/-!
# What compilation leaves in the journal

The compilation of a document reports what it has to change, to drop or to leave out.  Where all
nodes are stored as an import stores them nothing has to be changed: no value is filtered, and a
warning only ever says that a node has nothing to show.  The same is true of a whole document if it
has no issues and none of its zones holds a section.
-/

namespace PageMarkup

/-- The entry is no report about a value, and if it is a warning, then one about a node with nothing
to show. -/
structure Entry.IsQuiet (entry : Entry) : Prop where
  notFilter : entry.phase ≠ .filter
  exists_skipped : entry.phase = .warn → ∃ front, entry.message = front ++ "; skipped"

/-- An entry that is no report is quiet. -/
theorem Entry.isQuiet_of_phase {phase : Phase} (h : phase ∈ Phase.plain)
    (message : String) (data : Option Json) : Entry.IsQuiet ⟨phase, message, data⟩ where
  notFilter hfilter := by
    obtain rfl : phase = .filter := hfilter
    exact absurd h (by decide)
  exists_skipped hwarn := by
    obtain rfl : phase = .warn := hwarn
    exact absurd h (by decide)

/-! ### Restricted attributes -/

/-- What a row of a table of attributes reads an import stores with the restriction of the row. -/
theorem Kind.covers_attributeRules (kind : Kind) :
    ∀ rule ∈ kind.attributeRules, rule.target.Covers rule.names := by
  cases kind with
  | unknown name => simp [attributeRules]
  | _ => decide

/-- Attributes that are read from stored properties leave no entry. -/
theorem Props.AreStored.every_attributes {P : Entry → Prop} {props : Props} (h : props.AreStored)
    (node : String) {rules : List AttributeRule}
    (hrules : ∀ rule ∈ rules, rule.target.Covers rule.names) :
    (props.attributes node rules).Every P := by
  induction rules with
  | nil => exact Traced.every_pure []
  | cons rule rules ih =>
    have hrest := ih fun other hother => hrules other (List.mem_cons_of_mem rule hother)
    rw [attributes]
    cases hvalue : props.value? rule.names with
    | none =>
      refine Traced.Every.bind (Traced.every_pure none) fun kept => ?_
      exact Traced.Every.bind hrest fun rest => Traced.every_pure _
    | some value =>
      obtain ⟨text, rfl, hallow⟩ :=
        h.exists_text_of_value? (hrules rule List.mem_cons_self) hvalue
      refine Traced.Every.bind (Restricted.every_filterText hallow (some node)) fun kept => ?_
      exact Traced.Every.bind hrest fun rest => Traced.every_pure _

namespace Template

variable {node : Node}

/-- An address that is read from stored properties leaves no entry. -/
theorem every_restricted {P : Entry → Prop} {props : Props} (h : props.AreStored)
    {target : Restricted} {names : List String} (hnames : target.Covers names) (node : Node) :
    (restricted target names node props).Every P := by
  rw [restricted]
  cases htext : props.text? names with
  | none => exact Traced.every_pure none
  | some text => exact Restricted.every_filterText (h.allow_of_text? hnames htext) (some node.id)

/-- The records of a property stand in one of the values that are stored. -/
theorem areStored_of_mem_records (h : node.IsStored) {names : List String} {fields : Props}
    (hfields : fields ∈ records names node.props) : fields.AreStored := by
  rw [records] at hfields
  cases hvalue : node.props.value? names with
  | none =>
    rw [hvalue] at hfields
    exact absurd hfields List.not_mem_nil
  | some value =>
    rw [hvalue, Option.bind_some] at hfields
    obtain ⟨name, -, hmem⟩ := Props.exists_mem_of_value? hvalue
    exact h.records (name, value) hmem fields hfields

/-! ### Templates -/

theorem isQuiet_skip (node : Node) (missing : String) :
    (skip node missing).Every Entry.IsQuiet := by
  refine Traced.Every.bind (Traced.every_note ?_) fun _ => Traced.every_pure none
  exact ⟨show Phase.warn ≠ .filter by decide, fun _ => ⟨_, rfl⟩⟩

/-- A template that only asks whether there is anything to show. -/
theorem isQuiet_ite (node : Node) (isEmpty : Bool) (missing : String) (content : Option Forest) :
    (if isEmpty then skip node missing else return content : Rendering).Every Entry.IsQuiet := by
  split
  · exact isQuiet_skip node missing
  · exact Traced.every_pure content

theorem isQuiet_box (attributes : List (Restricted × String)) (parts : List Markup) :
    (box node attributes parts).Every Entry.IsQuiet :=
  isQuiet_ite node parts.isEmpty "content" _

/-- The tables of stored plans are made quietly. -/
theorem isQuiet_planTables {plans : List Props} (hplans : ∀ plan ∈ plans, plan.AreStored) :
    (planTables node plans).Every Entry.IsQuiet := by
  induction plans with
  | nil => exact Traced.every_pure []
  | cons plan plans ih =>
    have hplan := hplans plan List.mem_cons_self
    have hrest := ih fun other hother => hplans other (List.mem_cons_of_mem plan hother)
    refine Traced.Every.bind ?_ fun table => Traced.Every.bind hrest fun _ => Traced.every_pure _
    exact Traced.Every.bind (every_restricted hplan (by decide) node) fun _ => Traced.every_pure _

end Template

/-- The attributes of a stored node leave no entry. -/
theorem Node.IsStored.every_attributes {P : Entry → Prop} {node : Node} (h : node.IsStored) :
    node.attributes.Every P :=
  h.own.every_attributes node.id node.kind.covers_attributeRules

namespace Template

variable {node : Node} (h : node.IsStored)
include h

theorem isQuiet_headingNode : (headingNode node).Every Entry.IsQuiet := by
  rw [headingNode]
  split
  · exact isQuiet_skip node "text"
  · exact Traced.Every.bind h.every_attributes fun _ => Traced.every_pure _

theorem isQuiet_textNode : (textNode node).Every Entry.IsQuiet := by
  rw [textNode]
  split
  · exact isQuiet_skip node "text"
  · exact Traced.Every.bind h.every_attributes fun _ => Traced.every_pure _

theorem isQuiet_imageNode : (imageNode node).Every Entry.IsQuiet := by
  rw [imageNode]
  refine Traced.Every.bind h.every_attributes fun attributes => ?_
  split
  · exact isQuiet_skip node "usable src"
  · exact Traced.every_pure _

theorem isQuiet_buttonNode : (buttonNode node).Every Entry.IsQuiet := by
  rw [buttonNode]
  split
  · exact isQuiet_skip node "label"
  · exact Traced.Every.bind h.every_attributes fun _ => Traced.every_pure _

theorem isQuiet_emptyNode (name : String) : (emptyNode name node).Every Entry.IsQuiet :=
  Traced.Every.bind h.every_attributes fun _ => Traced.every_pure _

theorem isQuiet_cardNode : (cardNode node).Every Entry.IsQuiet := by
  rw [cardNode]
  refine Traced.Every.bind h.every_attributes fun attributes => ?_
  refine Traced.Every.bind (every_restricted h.own (by decide) node) fun source => ?_
  dsimp only
  split
  · exact isQuiet_box attributes _
  · exact Traced.Every.bind (every_restricted h.own (by decide) node) fun _ =>
      isQuiet_box attributes _

theorem isQuiet_heroNode : (heroNode node).Every Entry.IsQuiet := by
  rw [heroNode]
  refine Traced.Every.bind h.every_attributes fun attributes => ?_
  dsimp only
  split
  · exact isQuiet_box attributes _
  · exact Traced.Every.bind (every_restricted h.own (by decide) node) fun _ =>
      isQuiet_box attributes _

theorem isQuiet_testimonialNode : (testimonialNode node).Every Entry.IsQuiet := by
  rw [testimonialNode]
  dsimp only
  split
  · exact isQuiet_skip node "quote"
  · exact Traced.Every.bind (every_restricted h.own (by decide) node) fun _ => Traced.every_pure _

theorem isQuiet_pricingNode : (pricingNode node).Every Entry.IsQuiet := by
  rw [pricingNode]
  split
  · exact isQuiet_skip node "plans"
  · refine Traced.Every.bind (isQuiet_planTables ?_) fun _ => Traced.every_pure _
    exact fun plan hplan => areStored_of_mem_records h hplan

end Template

/-- The template of a stored node of the vocabulary says at most that there is nothing to show. -/
theorem Node.IsStored.isQuiet_template {node : Node} (h : node.IsStored)
    (hknown : node.kind.isUnknown = false) : node.template.Every Entry.IsQuiet := by
  unfold Node.template
  split
  · exact Traced.every_pure none
  · exact Template.isQuiet_headingNode h
  · exact Template.isQuiet_textNode h
  · exact Template.isQuiet_imageNode h
  · exact Template.isQuiet_buttonNode h
  · exact Template.isQuiet_emptyNode h "divider"
  · exact Template.isQuiet_emptyNode h "spacer"
  · exact Template.isQuiet_ite node _ _ _
  · exact Template.isQuiet_cardNode h
  · exact Template.isQuiet_ite node _ _ _
  · exact Template.isQuiet_pricingNode h
  · exact Template.isQuiet_testimonialNode h
  · exact Template.isQuiet_ite node _ _ _
  · exact Template.isQuiet_ite node _ _ _
  · exact Template.isQuiet_heroNode h
  · rename_i name hkind
    rw [hkind] at hknown
    exact absurd hknown (by simp [Kind.isUnknown])

/-! ### Documents -/

namespace Document

/-- Every node can be compiled quietly, and no zone holds a section. -/
structure IsQuiet (doc : Document) : Prop where
  issues : doc.issues = []
  attributes : ∀ node ∈ doc.topLevel, node.attributes.Every Entry.IsQuiet
  template : ∀ node ∈ doc.nodes, node.template.Every Entry.IsQuiet
  isContent : ∀ entry ∈ doc.zones, ∀ node ∈ entry.2, node.kind.isStructural = false

variable {doc : Document} (h : doc.IsQuiet)
include h

/-- The document is compiled quietly. -/
theorem IsQuiet.compile : doc.compile.Every Entry.IsQuiet :=
  every_compile_of_isContent Entry.isQuiet_of_phase h.issues h.isContent h.attributes
    fun node hnode _ => h.template node hnode

end Document

end PageMarkup
