import PageMarkup.Proofs.Import.Grid
import PageMarkup.Proofs.Import.Stored

/-!
# The ids of drafted nodes

A node gets the next number of its kind, so no id is given twice, although some nodes are made and
then dropped.  This file follows the numbers through everything that elements are read as: the nodes
of a computation have numbers between those that were given before and those that are given when it
ends, their ids differ, and their properties are stored as an import stores them.
-/

namespace PageMarkup

open Text

/-! ### Ids -/

namespace Kind

/-- The kinds of the vocabulary. -/
def known : List Kind :=
  [.section, .heading, .text, .image, .button, .divider, .spacer, .columns, .card, .featureGrid,
   .pricingCards, .testimonial, .statsRow, .faq, .hero]

theorem mem_known {kind : Kind} (h : kind.isUnknown = false) : kind ∈ known := by
  cases kind with
  | unknown name => exact absurd h (by simp [isUnknown])
  | _ => decide

/-- Kinds of the vocabulary are told apart by their names in small letters. -/
theorem eq_of_lowered_name : ∀ kind ∈ known, ∀ other ∈ known,
    lowered kind.name = lowered other.name → kind = other := by
  decide

/-- The name of a kind of the vocabulary is one word. -/
theorem not_hyphen_mem_name : ∀ kind ∈ known, '-' ∉ (lowered kind.name).toList := by
  decide

end Kind

namespace Drafting

/-- An id tells the kind and the number of its node. -/
theorem idOf_inj {kind other : Kind} (hkind : kind.isUnknown = false)
    (hother : other.isUnknown = false) {n m : Nat} (h : idOf kind n = idOf other m) :
    kind = other ∧ n = m := by
  have hchars := congrArg String.toList h
  have hdash : "-".toList = ['-'] := rfl
  simp only [idOf, String.toList_append, hdash, List.append_assoc, List.singleton_append] at hchars
  have hdigits : '-' ∉ (toString n).toList := by
    intro hmem
    rw [Nat.toString_eq_ofList_toDigits, String.toList_ofList] at hmem
    exact absurd (Nat.isDigit_of_mem_toDigits (by decide) (by decide) hmem) (by decide)
  -- Neither name nor number holds a hyphen, so both ids are cut at the same one.
  have hparts := (List.append_cons_inj_of_notMem
    (Kind.not_hyphen_mem_name kind (Kind.mem_known hkind)) hdigits).mp hchars
  obtain ⟨hname, -, hnumber⟩ := hparts
  refine ⟨?_, ?_⟩
  · exact Kind.eq_of_lowered_name kind (Kind.mem_known hkind) other (Kind.mem_known hother)
      (String.toList_inj.mp hname)
  · exact eq_of_digits hnumber

end Drafting

namespace Node

@[simp] theorem id_withProp (node : Node) (name : String) (value : Value) :
    (node.withProp name value).id = node.id := rfl

@[simp] theorem id_withText (node : Node) (name : String) (value : Option String) :
    (node.withText name value).id = node.id := by
  cases value <;> rfl

@[simp] theorem id_next (made : List Kind) (kind : Kind) :
    (next made kind).id = Drafting.idOf kind (made.count kind + 1) := rfl

/-- The node is of the vocabulary, and its id was given after nodes of the kinds `made` were made
and before nodes of the kinds `after` were. -/
structure IsNumbered (node : Node) (made after : List Kind) : Prop where
  isKnown : node.kind.isUnknown = false
  exists_number : ∃ number, made.count node.kind < number ∧ number ≤ after.count node.kind ∧
    node.id = Drafting.idOf node.kind number

variable {node other : Node} {made before mid after later : List Kind}

/-- The number stays between wider bounds. -/
theorem IsNumbered.mono (h : node.IsNumbered mid after)
    (hbefore : ∀ kind, before.count kind ≤ mid.count kind)
    (hlater : ∀ kind, after.count kind ≤ later.count kind) : node.IsNumbered before later := by
  obtain ⟨number, hlow, hhigh, hid⟩ := h.exists_number
  refine ⟨h.isKnown, number, ?_, ?_, hid⟩
  · exact Nat.lt_of_le_of_lt (hbefore node.kind) hlow
  · exact Nat.le_trans hhigh (hlater node.kind)

/-- Ids that are given one after the other differ. -/
theorem IsNumbered.id_ne (h : node.IsNumbered before mid) (hother : other.IsNumbered mid after) :
    node.id ≠ other.id := by
  intro hsame
  obtain ⟨number, -, hhigh, hid⟩ := h.exists_number
  obtain ⟨next, hlow, -, hnext⟩ := hother.exists_number
  rw [hid, hnext] at hsame
  obtain ⟨hkind, rfl⟩ := Drafting.idOf_inj h.isKnown hother.isKnown hsame
  rw [← hkind] at hlow
  omega

/-- A new node gets a new number. -/
theorem isNumbered_of_id_eq (hknown : node.kind.isUnknown = false)
    (hid : node.id = Drafting.idOf node.kind (made.count node.kind + 1)) :
    node.IsNumbered made (node.kind :: made) := by
  refine ⟨hknown, made.count node.kind + 1, Nat.lt_succ_self _, ?_, hid⟩
  rw [List.count_cons_self]

end Node

/-! ### Drafted nodes -/

/-- The nodes were made and stored while the kinds of the nodes made grew from `made` to `after`. -/
structure Nodes.AreNumbered (made : List Kind) (nodes : List Node) (after : List Kind) : Prop where
  mono : ∀ kind, made.count kind ≤ after.count kind
  isNumbered : ∀ node ∈ nodes, node.IsNumbered made after
  nodup : (nodes.map Node.id).Nodup
  isStored : ∀ node ∈ nodes, node.IsStored

namespace Nodes.AreNumbered

variable {made mid after : List Kind} {nodes others : List Node}

/-- No node is made, or nodes are made and dropped. -/
theorem nil (h : ∀ kind, made.count kind ≤ after.count kind) : AreNumbered made [] after where
  mono := h
  isNumbered _ hnode := absurd hnode List.not_mem_nil
  nodup := List.nodup_nil
  isStored _ hnode := absurd hnode List.not_mem_nil

/-- A node is made and kept. -/
theorem one {node : Node} {kind : Kind} (hkind : node.kind = kind)
    (hid : node.id = Drafting.idOf kind (made.count kind + 1)) (hknown : kind.isUnknown = false)
    (hstored : node.IsStored) : AreNumbered made [node] (kind :: made) := by
  subst hkind
  have hnumbered := Node.isNumbered_of_id_eq hknown hid
  refine ⟨fun _ => List.count_le_count_cons, ?_, by simp, ?_⟩
  · intro other hother
    exact List.mem_singleton.mp hother ▸ hnumbered
  · intro other hother
    exact List.mem_singleton.mp hother ▸ hstored

/-- Nodes are made one after another. -/
theorem append (h : AreNumbered made nodes mid) (hothers : AreNumbered mid others after) :
    AreNumbered made (nodes ++ others) after := by
  refine ⟨fun kind => Nat.le_trans (h.mono kind) (hothers.mono kind), ?_, ?_, ?_⟩
  · intro node hnode
    rcases List.mem_append.mp hnode with hnode | hnode
    · exact (h.isNumbered node hnode).mono (fun _ => Nat.le_refl _) hothers.mono
    · exact (hothers.isNumbered node hnode).mono h.mono fun _ => Nat.le_refl _
  · -- The first nodes have numbers up to those in `mid`, the others have later ones.
    rw [List.map_append, List.nodup_append]
    refine ⟨h.nodup, hothers.nodup, ?_⟩
    intro id hid other hother
    obtain ⟨node, hnode, rfl⟩ := List.mem_map.mp hid
    obtain ⟨next, hnext, rfl⟩ := List.mem_map.mp hother
    exact (h.isNumbered node hnode).id_ne (hothers.isNumbered next hnext)
  · exact List.forall_mem_append.mpr ⟨h.isStored, hothers.isStored⟩

/-- The order in which nodes stand does not matter. -/
theorem perm (h : AreNumbered made nodes after) (hperm : nodes.Perm others) :
    AreNumbered made others after where
  mono := h.mono
  isNumbered node hnode := h.isNumbered node (hperm.mem_iff.mpr hnode)
  nodup := (hperm.map Node.id).nodup_iff.mp h.nodup
  isStored node hnode := h.isStored node (hperm.mem_iff.mpr hnode)

end Nodes.AreNumbered

/-- The nodes were made for the inside of a section: none of them is a section. -/
structure Drafted (made : List Kind) (nodes : List Node) (after : List Kind) : Prop
    extends Nodes.AreNumbered made nodes after where
  isContent : ∀ node ∈ nodes, node.kind.isStructural = false

namespace Drafted

variable {made mid after : List Kind} {nodes others : List Node}

/-- No node is made. -/
theorem nil (made : List Kind) : Drafted made [] made where
  toAreNumbered := .nil fun _ => Nat.le_refl _
  isContent _ hnode := absurd hnode List.not_mem_nil

/-- A node is made and dropped; its number is not given again. -/
theorem drop (made : List Kind) (kind : Kind) : Drafted made [] (kind :: made) where
  toAreNumbered := .nil fun _ => List.count_le_count_cons
  isContent _ hnode := absurd hnode List.not_mem_nil

/-- A node is made and kept. -/
theorem one {node : Node} {kind : Kind} (hkind : node.kind = kind)
    (hid : node.id = Drafting.idOf kind (made.count kind + 1))
    (hcategory : kind.isUnknown = false ∧ kind.isStructural = false) (hstored : node.IsStored) :
    Drafted made [node] (kind :: made) where
  toAreNumbered := .one hkind hid hcategory.1 hstored
  isContent _ hnode := by
    obtain rfl := List.mem_singleton.mp hnode
    rw [hkind]
    exact hcategory.2

/-- Nodes are made one after another. -/
theorem append (h : Drafted made nodes mid) (hothers : Drafted mid others after) :
    Drafted made (nodes ++ others) after where
  toAreNumbered := h.toAreNumbered.append hothers.toAreNumbered
  isContent := List.forall_mem_append.mpr ⟨h.isContent, hothers.isContent⟩

end Drafted

/-- Whatever nodes were made before, the computation drafts nodes for the inside of a section. -/
def Drafts (x : Drafting (List Node)) : Prop :=
  ∀ limit made, Drafted made (x.result limit made).1 (x.result limit made).2

namespace Drafts

theorem nil : Drafts (pure []) := by
  intro limit made
  exact Drafted.nil made

/-- Computations one after another draft what each of them drafts. -/
theorem append {x y z : Drafting (List Node)} (hx : Drafts x) (hy : Drafts y) (hz : Drafts z) :
    Drafts (do
      let before ← x
      let here ← y
      return before ++ here ++ (← z)) := by
  intro limit made
  have hbefore := hx limit made
  have hhere := hy limit (x.result limit made).2
  have hrest := hz limit (y.result limit (x.result limit made).2).2
  exact (hbefore.append hhere).append hrest

end Drafts

end PageMarkup
