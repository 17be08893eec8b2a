import PageMarkup.Import.Element
import PageMarkup.Proofs.Compile.Outline

/-!
# What drafting gives

Nodes are drafted in a computation that numbers them by kind and leaves entries in the journal.
This file says what each step gives, entries apart, and when the nodes of a computation have a given
markup, whatever ids they get.
-/

namespace PageMarkup

/-! ### Results -/

namespace Drafting

variable {α β : Type}

/-- The result of a computation that starts when nodes of the kinds `made` have been made, and the
kinds of the nodes made when it ends. -/
def result (limit : Nat) (made : List Kind) (x : Drafting α) : α × List Kind :=
  Traced.result limit (x.run made)

variable (limit : Nat) (made : List Kind)

@[simp] theorem result_pure (a : α) : (pure a : Drafting α).result limit made = (a, made) := (rfl)

@[simp] theorem result_bind (x : Drafting α) (f : α → Drafting β) :
    (x >>= f).result limit made =
      (f (x.result limit made).1).result limit (x.result limit made).2 := (rfl)

@[simp] theorem result_note (phase : Phase) (message : String) :
    (note phase message).result limit made = ((), made) := (rfl)

@[simp] theorem result_noteWith (phase : Phase) (message : String) (data : Json) :
    (noteWith phase message data).result limit made = ((), made) := (rfl)

@[simp] theorem result_monadLift (x : Traced α) :
    (liftM x : Drafting α).result limit made = (x.result limit, made) := (rfl)

/-- A new node gets the next number of its kind. -/
@[simp] theorem result_node (kind : Kind) :
    (node kind).result limit made =
      (⟨kind, idOf kind (made.count kind + 1), []⟩, kind :: made) := (rfl)

theorem bind_assoc {γ : Type} (x : Drafting α) (f : α → Drafting β) (g : β → Drafting γ) :
    x >>= f >>= g = x >>= fun a => f a >>= g := by
  funext made limit
  exact Prod.ext rfl (List.append_assoc _ _ _)

/-- A number is told from its digits. -/
theorem eq_of_digits {n m : Nat} (h : (toString n).toList = (toString m).toList) : n = m := by
  have hread := congrArg (fun digits => Nat.ofDigitChars 10 digits 0) h
  simpa [Nat.toString_eq_ofList_toDigits, Nat.ofDigitChars_ten_toDigits] using hread

end Drafting

namespace Node

/-- A restricted property is stored in its allowed form, if it has one. -/
@[simp] theorem result_styled (limit : Nat) (made : List Kind) (node : Node) (name : String)
    (target : Restricted) (raw : Option String) :
    (node.styled name target raw).result limit made =
      (node.withText name (raw.bind target.allow), made) := by
  cases raw with
  | none => rfl
  | some raw =>
    rw [styled, Drafting.result_bind]
    simp

/-! ### Properties of a node in the making -/

@[simp] theorem kind_withProp (node : Node) (name : String) (value : Value) :
    (node.withProp name value).kind = node.kind := rfl

@[simp] theorem kind_withText (node : Node) (name : String) (value : Option String) :
    (node.withText name value).kind = node.kind := by
  cases value <;> rfl

/-- A property that was given a value has it, and the others are left alone. -/
@[simp] theorem get?_withProp (node : Node) (name key : String) (value : Value) :
    Dict.get? key (node.withProp name value).props =
      if key = name then some value else Dict.get? key node.props := by
  rw [withProp]
  split
  · rename_i h
    rw [h, Dict.get?_insert_self]
  · rename_i h
    rw [Dict.get?_insert_of_ne h]

/-- A text property that was given a value has it, and the others are left alone. -/
@[simp] theorem get?_withText (node : Node) (name key : String) (value : Option String) :
    Dict.get? key (node.withText name value).props =
      if key = name then (value.map Value.text).or (Dict.get? key node.props)
      else Dict.get? key node.props := by
  cases value with
  | none => simp [withText]
  | some value => simp [withText]

end Node

/-! ### What drafting ensures -/

namespace Drafting

variable {α β : Type} {P : α → Prop} {Q : β → Prop}

/-- What the computation gives has the property, whatever nodes were made before. -/
def Ensures (P : α → Prop) (x : Drafting α) : Prop :=
  ∀ limit made, P (x.result limit made).1

theorem ensures_true (x : Drafting α) : x.Ensures fun _ => True :=
  fun _ _ => trivial

theorem ensures_pure {a : α} (h : P a) : Ensures P (pure a : Drafting α) :=
  fun _ _ => h

theorem Ensures.bind {x : Drafting α} {f : α → Drafting β} (hx : x.Ensures P)
    (hf : ∀ a, P a → (f a).Ensures Q) : (x >>= f).Ensures Q :=
  fun limit made => hf _ (hx limit made) limit (x.result limit made).2

end Drafting

/-! ### Nodes with a given markup -/

/-- The nodes that a computation makes are no sections, and this is their markup. -/
structure Yields (x : Drafting (List Node)) (bodies : List Forest) : Prop where
  isStructural : ∀ limit made, ∀ node ∈ (x.result limit made).1, node.kind.isStructural = false
  bodies_eq : ∀ limit made, Nodes.bodies (x.result limit made).1 = bodies
  count_section : ∀ limit made, (x.result limit made).2.count .section = made.count .section

namespace Yields

theorem nil : Yields (pure []) [] where
  isStructural limit made := by simp
  bodies_eq limit made := by simp [Nodes.bodies]
  count_section limit made := by simp

/-- A computation that makes one node, which is no section, yields its markup. -/
theorem singleton {x : Drafting (List Node)} {forest : Forest} (kind : Kind)
    (hkind : kind.isStructural = false)
    (h : ∀ limit made, ∃ node, x.result limit made = ([node], kind :: made) ∧
      node.kind = kind ∧ node.markup? = some forest) :
    Yields x [forest] where
  isStructural limit made := by
    obtain ⟨node, hresult, hnode, -⟩ := h limit made
    simp [hresult, hnode, hkind]
  bodies_eq limit made := by
    obtain ⟨node, hresult, -, hmarkup⟩ := h limit made
    simp [hresult, hmarkup, Nodes.bodies]
  count_section limit made := by
    obtain ⟨node, hresult, -⟩ := h limit made
    have hne : kind ≠ .section := by
      rintro rfl
      exact absurd hkind (by decide)
    rw [hresult, List.count_cons_of_ne hne]

variable {x y z : Drafting (List Node)} {bodies others more : List Forest}

/-- Computations one after another yield what each of them yields. -/
theorem append (h : Yields x bodies) (hy : Yields y others) (hz : Yields z more) :
    Yields (do
      let before ← x
      let here ← y
      return before ++ here ++ (← z)) (bodies ++ others ++ more) where
  isStructural limit made node hnode := by
    simp only [Drafting.result_bind, Drafting.result_pure, List.mem_append] at hnode
    rcases hnode with (hnode | hnode) | hnode
    · exact h.isStructural _ _ node hnode
    · exact hy.isStructural _ _ node hnode
    · exact hz.isStructural _ _ node hnode
  bodies_eq limit made := by
    simp only [Drafting.result_bind, Drafting.result_pure, Nodes.bodies_append, h.bodies_eq,
      hy.bodies_eq, hz.bodies_eq]
  count_section limit made := by
    simp only [Drafting.result_bind, Drafting.result_pure, h.count_section, hy.count_section,
      hz.count_section]

end Yields

end PageMarkup
