import PageMarkup.Import.Draft
import PageMarkup.Proofs.Dict
import PageMarkup.Proofs.Template.Results

/-!
# What computations leave in the journal

Compilation and import leave entries while they compute.  This file is about what all of their
entries have in common: a statement about every entry of a computation follows from the same
statement about its steps, whatever the steps give.  A value that its restriction allows as it is
leaves no entry at all.
-/

namespace PageMarkup

variable {α β : Type} {P : Entry → Prop}

namespace Traced

/-- Every entry that the computation leaves satisfies `P`, whatever the limit of the journal is. -/
def Every (P : Entry → Prop) (x : Traced α) : Prop :=
  ∀ limit, ∀ entry ∈ x.entries limit, P entry

/-- A computation without entries. -/
theorem every_pure (a : α) : (pure a : Traced α).Every P := by
  intro limit entry hentry
  exact absurd hentry List.not_mem_nil

/-- The entries of two steps are those of the first and those of the second. -/
theorem Every.bind {x : Traced α} {f : α → Traced β} (hx : x.Every P)
    (hf : ∀ a, (f a).Every P) : (x >>= f).Every P := by
  intro limit entry hentry
  rw [entries_bind, List.mem_append] at hentry
  rcases hentry with hentry | hentry
  · exact hx limit entry hentry
  · exact hf _ limit entry hentry

/-- A step that is taken or not. -/
theorem Every.whenTrue {taken : Bool} {x : Traced Unit} {f : Unit → Traced β} (hx : x.Every P)
    (hf : ∀ a, (f a).Every P) : (if taken then x >>= f else f ()).Every P := by
  split
  · exact hx.bind hf
  · exact hf ()

/-- What is made of a result leaves no further entry. -/
theorem Every.map {x : Traced α} (h : x.Every P) (f : α → β) : (f <$> x).Every P :=
  h.bind fun a => every_pure (f a)

theorem every_note {phase : Phase} {message : String} (h : P ⟨phase, message, none⟩) :
    (note phase message).Every P := by
  intro limit entry hentry
  obtain rfl := List.mem_singleton.mp hentry
  exact h

theorem every_noteWith {phase : Phase} {message : String} {data : Json}
    (h : ∀ shown, P ⟨phase, message, some shown⟩) : (noteWith phase message data).Every P := by
  intro limit entry hentry
  obtain rfl := List.mem_singleton.mp hentry
  exact h _

end Traced

namespace Restricted

/-- A value that is allowed as it is leaves no entry. -/
theorem every_filterText {target : Restricted} {raw : String} (h : target.allow raw = some raw)
    (node : Option String) : (target.filterText raw node).Every P := by
  have hkept : (target.allow raw != some raw) = false := by
    rw [h]
    simp
  unfold filterText
  split
  · exact Traced.every_pure none
  · simp only [hkept, Bool.false_eq_true, if_false]
    exact Traced.every_pure _

end Restricted

namespace Drafting

/-- Every entry that the computation leaves satisfies `P`, whatever nodes were made before. -/
def Every (P : Entry → Prop) (x : Drafting α) : Prop :=
  ∀ made, (x.run made).Every P

theorem every_pure (a : α) : (pure a : Drafting α).Every P := by
  intro made
  exact Traced.every_pure (a, made)

theorem Every.bind {x : Drafting α} {f : α → Drafting β} (hx : x.Every P)
    (hf : ∀ a, (f a).Every P) : (x >>= f).Every P := by
  intro made
  exact Traced.Every.bind (hx made) fun found => hf found.1 found.2

theorem every_monadLift {x : Traced α} (h : x.Every P) : (liftM x : Drafting α).Every P := by
  intro made
  exact Traced.Every.bind h fun a => Traced.every_pure (a, made)

theorem every_note {phase : Phase} {message : String} (h : P ⟨phase, message, none⟩) :
    (note phase message).Every P :=
  every_monadLift (Traced.every_note h)

theorem every_noteWith {phase : Phase} {message : String} {data : Json}
    (h : ∀ shown, P ⟨phase, message, some shown⟩) : (noteWith phase message data).Every P :=
  every_monadLift (Traced.every_noteWith h)

/-- A new node leaves no entry. -/
theorem every_node (kind : Kind) : (node kind).Every P := by
  intro made
  exact Traced.every_pure _

end Drafting

/-- A restricted property leaves the entries about its value, if it has one. -/
theorem Node.every_styled {target : Restricted} {raw : Option String} {node : Node}
    (h : ∀ value ∈ raw, (target.filterText value (some node.id)).Every P) (name : String) :
    (node.styled name target raw).Every P := by
  cases raw with
  | none => exact Drafting.every_pure node
  | some value =>
    unfold styled
    refine Drafting.Every.bind ?_ fun allowed => Drafting.every_pure _
    exact Drafting.every_monadLift (h value rfl)

/-- A restricted property that is allowed as it is leaves no entry. -/
theorem Node.every_styled_of_allow {target : Restricted} {raw : Option String}
    (h : ∀ value ∈ raw, target.allow value = some value) (node : Node) (name : String) :
    (node.styled name target raw).Every P :=
  every_styled (fun value hvalue => Restricted.every_filterText (h value hvalue) _) name

/-! ### Compilation

Where a statement holds of every entry that begins or ends a compilation or is about a block, it
holds of all entries of a compilation if it does of those of templates, of attributes and of what
warns.
-/

/-- The phases of a compilation that goes without a report. -/
def Phase.plain : List Phase := [.init, .block, .success]


section Compile

variable (hplain : ∀ {phase : Phase}, phase ∈ Phase.plain →
  ∀ message data, P ⟨phase, message, data⟩)
include hplain

/-- A node that is no section leaves the entries of its template and one more. -/
theorem Node.every_compileTemplate {node : Node} (h : node.template.Every P) :
    node.compileTemplate.Every P := by
  refine Traced.Every.bind h fun content => ?_
  split
  · exact Traced.every_pure none
  · refine Traced.Every.bind (Traced.every_noteWith fun shown => ?_) fun _ => Traced.every_pure _
    exact hplain (by decide) _ _

omit hplain in
/-- The nodes of a zone leave their entries one after another. -/
theorem Node.every_compileAll {expand : String → Traced Compiled} {nodes : List Node}
    (h : ∀ node ∈ nodes, (node.compileInside expand).Every P) :
    (compileAll expand nodes).Every P := by
  induction nodes with
  | nil => exact Traced.every_pure []
  | cons node nodes ih =>
    have hrest := ih fun other hother => h other (List.mem_cons_of_mem node hother)
    refine Traced.Every.bind (h node List.mem_cons_self) fun _ => ?_
    exact Traced.Every.bind hrest fun _ => Traced.every_pure _

namespace Document

variable {doc : Document}

/-- A zone that is not being expanded leaves the entries of its nodes. -/
theorem every_expand_of_notMem {room : Nat} {active : List String} {key : String}
    (hkey : key ∉ active)
    (h : ∀ children, doc.zone? key = some children →
      ∀ node ∈ children, (node.compileInside (doc.expand room (key :: active))).Every P) :
    (doc.expand (room + 1) active key).Every P := by
  rw [expand, if_neg (by simpa using hkey)]
  cases hzone : doc.zone? key with
  | none =>
    refine Traced.Every.bind (Traced.every_note ?_) fun _ => Traced.every_pure _
    exact hplain (by decide) _ _
  | some children =>
    exact Traced.Every.bind (Node.every_compileAll (h children hzone)) fun _ => Traced.every_pure _

theorem every_wrapLoose (loose : List Compiled) : (wrapLoose loose).Every P := by
  rw [wrapLoose]
  split
  · exact Traced.every_pure []
  · refine Traced.Every.bind (Traced.every_note ?_) fun _ => Traced.every_pure _
    exact hplain (by decide) _ _

/-- A section on the top level leaves the entries of its attributes and of its zone, and one
more. -/
theorem every_compileSection {node : Node} (hattributes : node.attributes.Every P)
    (hzone : (doc.compileZone node.contentKey).Every P) : (doc.compileSection node).Every P := by
  refine Traced.Every.bind hattributes fun attributes => ?_
  refine Traced.Every.bind hzone fun inner => ?_
  refine Traced.Every.bind (Traced.every_noteWith fun shown => ?_) fun _ => Traced.every_pure _
  exact hplain (by decide) _ _

/-- The sections of the page leave the entries of the nodes of the top level. -/
theorem every_compileSections {nodes : List Node}
    (hsection : ∀ node ∈ nodes, node.kind.isStructural → (doc.compileSection node).Every P)
    (htemplate : ∀ node ∈ nodes, ¬node.kind.isStructural → node.template.Every P)
    (loose : List Compiled) : (doc.compileSections loose nodes).Every P := by
  induction nodes generalizing loose with
  | nil => exact every_wrapLoose hplain loose
  | cons node nodes ih =>
    have hrest := ih (fun other hother => hsection other (List.mem_cons_of_mem node hother))
      (fun other hother => htemplate other (List.mem_cons_of_mem node hother))
    rw [compileSections]
    split
    · rename_i hkind
      refine Traced.Every.bind (every_wrapLoose hplain loose) fun before => ?_
      refine Traced.Every.bind (hsection node List.mem_cons_self hkind) fun this => ?_
      exact Traced.Every.bind (hrest []) fun _ => Traced.every_pure _
    · rename_i hkind
      have hnode := Node.every_compileTemplate hplain (htemplate node List.mem_cons_self hkind)
      exact Traced.Every.bind hnode fun _ => hrest _

omit hplain in
/-- Issues leave a warning each. -/
theorem every_noteIssues {issues : List Issue}
    (h : ∀ issue ∈ issues, P ⟨.warn, issue.message, none⟩) :
    (noteIssues issues).Every P := by
  induction issues with
  | nil => exact Traced.every_pure ()
  | cons issue issues ih =>
    refine Traced.Every.bind (Traced.every_note (h issue List.mem_cons_self)) fun _ => ?_
    exact ih fun other hother => h other (List.mem_cons_of_mem issue hother)

/-- A document leaves the entries of its issues and of the nodes of its top level, one before them
and one after them. -/
theorem every_compile (hissues : ∀ issue ∈ doc.issues, P ⟨.warn, issue.message, none⟩)
    (hsection : ∀ node ∈ doc.topLevel, node.kind.isStructural → (doc.compileSection node).Every P)
    (htemplate : ∀ node ∈ doc.topLevel, ¬node.kind.isStructural → node.template.Every P) :
    doc.compile.Every P := by
  refine Traced.Every.map ?_ _
  refine Traced.Every.bind (Traced.every_note (hplain (by decide) _ _)) fun _ => ?_
  refine Traced.Every.bind (every_noteIssues hissues) fun _ => ?_
  refine Traced.Every.bind (every_compileSections hplain hsection htemplate []) fun sections => ?_
  refine Traced.Every.bind (Traced.every_note ?_) fun _ => Traced.every_pure _
  exact hplain (by decide) _ _

/-- A document without issues whose zones hold no section leaves the entries of the attributes of
its sections and of the templates of its other nodes. -/
theorem every_compile_of_isContent (hissues : doc.issues = [])
    (hcontent : ∀ entry ∈ doc.zones, ∀ node ∈ entry.2, node.kind.isStructural = false)
    (hattributes : ∀ node ∈ doc.topLevel, node.attributes.Every P)
    (htemplate : ∀ node ∈ doc.nodes, ¬node.kind.isStructural → node.template.Every P) :
    doc.compile.Every P := by
  -- None of the nodes of a zone is a section, so nothing inside a zone is expanded in turn.
  have hzone (key : String) : (doc.compileZone key).Every P := by
    refine every_expand_of_notMem hplain List.not_mem_nil fun children hchildren node hnode => ?_
    have hentry : (key, children) ∈ doc.zones := Dict.mem_of_get? hchildren
    have hmem : node ∈ doc.nodes :=
      List.mem_append_right _ (List.mem_flatMap.mpr ⟨(key, children), hentry, hnode⟩)
    have hleaf := hcontent (key, children) hentry node hnode
    rw [Node.compileInside, hleaf]
    exact Node.every_compileTemplate hplain (htemplate node hmem (by simp [hleaf]))
  refine every_compile hplain (by simp [hissues]) (fun node hnode _ => ?_) ?_
  · exact every_compileSection hplain (hattributes node hnode) (hzone node.contentKey)
  · exact fun node hnode => htemplate node (List.mem_append_left _ hnode)

end Document

end Compile

/-! ### Messages -/

/-- Texts with different ends differ. -/
theorem append_ne_append {front back other tail : String} (count : Nat)
    (hback : count ≤ back.toList.reverse.length) (htail : count ≤ tail.toList.reverse.length)
    (h : back.toList.reverse.take count ≠ tail.toList.reverse.take count) :
    front ++ back ≠ other ++ tail := by
  intro hsame
  have hchars := congrArg (fun text : String => text.toList.reverse.take count) hsame
  simp only [String.toList_append, List.reverse_append, List.take_append_of_le_length hback,
    List.take_append_of_le_length htail] at hchars
  exact h hchars

end PageMarkup
