import Mathlib.Logic.Function.Iterate
import PageMarkup.Markup.Reader

/-!
# The stack of open elements

A forest is read with a stack: at the bottom a root that collects what stands outside of all
elements, above it the open elements, the innermost on top.  A closing tag takes elements from the
stack as long as it is higher than where the element to close stands, and at the end elements are
taken from it as long as there is more than one.  This file runs the stack step by step, each round
of these two loops being a step of its own, and proves that the run ends with the forest.
-/

namespace PageMarkup

namespace Markup

/-- The open elements, the innermost first, and the root. -/
abbrev Stack := List OpenElement

namespace Stack

/-- Add an item to the innermost element. -/
def attach (item : Markup) : Stack → Stack
  | [] => []
  | top :: rest => ⟨top.tag, item :: top.held⟩ :: rest

/-- Close the innermost element and add it to the one around it; the root stays open. -/
def closeTop : Stack → Stack
  | top :: below :: rest => attach (.element top.tag top.held.reverse) (below :: rest)
  | stack => stack

/-- The height at which the innermost element with a name stands. -/
def height? (name : String) : Stack → Option Nat
  | [] => none
  | top :: rest => if top.tag.name == name then some rest.length else height? name rest

/-- The root while nothing has been read. -/
def root : OpenElement := ⟨⟨"", []⟩, []⟩

end Stack

/-! ### The run -/

/-- Where a run stands: at the next token, in the loop that closes elements down to a height, or in
the loop at the end. -/
inductive Config where
  | reading (stack : Stack) (rest : List Token)
  | closing (height : Nat) (stack : Stack) (rest : List Token)
  | ending (stack : Stack)

namespace Config

open Stack

/-- The stack. -/
def stack : Config → Stack
  | reading stack _ => stack
  | closing _ stack _ => stack
  | ending stack => stack

/-- The tokens that have not been read. -/
def rest : Config → List Token
  | reading _ rest => rest
  | closing _ _ rest => rest
  | ending _ => []

/-- One step.  A run stands still when only the root is left at the end. -/
def next : Config → Config
  | reading stack [] => ending stack
  | reading stack (.text run :: rest) => reading (attach (.text run) stack) rest
  | reading stack (.opening tag :: rest) =>
    if !isVoid tag.name && rest.contains (.closing tag.name) then
      reading (⟨tag, []⟩ :: stack) rest
    else reading (attach (.element tag []) stack) rest
  | reading stack (.closing name :: rest) =>
    match (height? name stack).filter (0 < ·) with
    | some height => closing height stack rest
    | none => reading stack rest
  | closing height stack rest =>
    if height < stack.length then closing height (closeTop stack) rest else reading stack rest
  | ending stack => if 1 < stack.length then ending (closeTop stack) else ending stack

/-- The beginning of a run. -/
def start (cs : List Char) : Config :=
  reading [root] (tokens cs)

/-- Where the run stands after some steps. -/
def after (steps : Nat) (cs : List Char) : Config :=
  next^[steps] (start cs)

end Config

/-! ### The stack is never empty -/

namespace Stack

variable {stack : Stack}

@[simp] theorem length_attach (item : Markup) (stack : Stack) :
    (attach item stack).length = stack.length := by
  cases stack <;> rfl

theorem length_closeTop (h : 1 < stack.length) : stack.closeTop.length + 1 = stack.length := by
  match stack with
  | top :: below :: rest => rfl

/-- Every round makes the stack lower as long as more than the root is left. -/
theorem length_iterate_closeTop {rounds : Nat} (h : rounds < stack.length) :
    (closeTop^[rounds] stack).length = stack.length - rounds := by
  induction rounds with
  | zero => rfl
  | succ rounds ih =>
    have hbefore := ih (by omega)
    have hround : (closeTop^[rounds] stack).closeTop.length + 1 =
        (closeTop^[rounds] stack).length := length_closeTop (by omega)
    rw [Function.iterate_succ_apply']
    omega

theorem closeTop_of_length_le (h : stack.length ≤ 1) : stack.closeTop = stack := by
  match stack with
  | [] => rfl
  | [root] => rfl

theorem closeTop_ne_nil (h : stack ≠ []) : stack.closeTop ≠ [] := by
  match stack with
  | [root] => exact h
  | top :: below :: rest => exact List.cons_ne_nil _ _

theorem attach_ne_nil (h : stack ≠ []) (item : Markup) : attach item stack ≠ [] := by
  match stack with
  | top :: rest => exact List.cons_ne_nil _ _

end Stack

namespace Config

/-- A step leaves something on the stack. -/
theorem stack_next_ne_nil {config : Config} (h : config.stack ≠ []) : config.next.stack ≠ [] := by
  cases config with
  | reading stack rest =>
    cases rest with
    | nil => exact h
    | cons token rest =>
      cases token with
      | text run => exact Stack.attach_ne_nil h _
      | opening tag =>
        rw [next]
        split
        · exact List.cons_ne_nil _ _
        · exact Stack.attach_ne_nil h _
      | closing name =>
        rw [next]
        split
        · exact h
        · exact h
  | closing height stack rest =>
    rw [next]
    split
    · exact Stack.closeTop_ne_nil h
    · exact h
  | ending stack =>
    rw [next]
    split
    · exact Stack.closeTop_ne_nil h
    · exact h

theorem after_succ (steps : Nat) (cs : List Char) : after (steps + 1) cs = (after steps cs).next :=
  Function.iterate_succ_apply' next steps (start cs)

/-- At no time is the stack empty. -/
theorem stack_after_ne_nil (steps : Nat) (cs : List Char) : (after steps cs).stack ≠ [] := by
  induction steps with
  | zero => exact List.cons_ne_nil _ _
  | succ steps ih =>
    rw [after_succ]
    exact stack_next_ne_nil ih

/-! ### The loops end -/

/-- Some steps lead from one place of a run to another. -/
def Reaches (config config' : Config) : Prop :=
  ∃ steps, next^[steps] config = config'

theorem Reaches.refl (config : Config) : Reaches config config :=
  ⟨0, rfl⟩

theorem Reaches.trans {config config' config'' : Config} (h : Reaches config config')
    (h' : Reaches config' config'') : Reaches config config'' := by
  obtain ⟨steps, rfl⟩ := h
  obtain ⟨more, rfl⟩ := h'
  exact ⟨more + steps, Function.iterate_add_apply next more steps config⟩

theorem reaches_of_next {config config' : Config} (h : Reaches config.next config') :
    Reaches config config' := by
  obtain ⟨steps, rfl⟩ := h
  exact ⟨steps + 1, Function.iterate_succ_apply next steps config⟩

/-- A loop that closes the innermost element while the stack is higher than some height closes all
that is higher. -/
theorem reaches_iterate {loop : Stack → Config} {height : Nat} (hpos : 0 < height)
    (hloop : ∀ stack : Stack, height < stack.length → (loop stack).next = loop stack.closeTop)
    (stack : Stack) :
    Reaches (loop stack) (loop (Stack.closeTop^[stack.length - height] stack)) := by
  induction hrounds : stack.length - height generalizing stack with
  | zero => exact .refl _
  | succ rounds ih =>
    have hlength : stack.closeTop.length + 1 = stack.length := Stack.length_closeTop (by omega)
    refine reaches_of_next ?_
    rw [hloop stack (by omega), Function.iterate_succ_apply]
    exact ih stack.closeTop (by omega)

/-- The loop of a closing tag closes what is higher than the height. -/
theorem reaches_closing {height : Nat} (hpos : 0 < height) (stack : Stack) (rest : List Token) :
    Reaches (closing height stack rest)
      (reading (Stack.closeTop^[stack.length - height] stack) rest) := by
  have hloop (stack : Stack) (hhigher : height < stack.length) :
      (closing height stack rest).next = closing height stack.closeTop rest := by
    rw [next, if_pos hhigher]
  have hheight : (Stack.closeTop^[stack.length - height] stack).length ≤ height := by
    rcases Nat.eq_zero_or_pos stack.length with hnil | hne
    · rw [hnil, Nat.zero_sub, Function.iterate_zero_apply]
      omega
    · rw [Stack.length_iterate_closeTop (by omega)]
      omega
  refine (reaches_iterate hpos hloop stack).trans (reaches_of_next ?_)
  rw [next, if_neg (by omega)]
  exact .refl _

/-- The loop at the end closes everything. -/
theorem reaches_ending (stack : Stack) :
    Reaches (ending stack) (ending (Stack.closeTop^[stack.length - 1] stack)) :=
  reaches_iterate Nat.one_pos (fun stack hhigher => by rw [next, if_pos hhigher]) stack

end Config

/-! ### The growing forest as a stack -/

namespace Growth

open Stack

/-- The open elements above a root that holds what stands before them. -/
def stack (growth : Growth) : Stack :=
  growth.pending ++ [⟨root.tag, growth.roots⟩]

@[simp] theorem length_stack (growth : Growth) :
    growth.stack.length = growth.pending.length + 1 := by
  simp [stack]

theorem stack_add (item : Markup) (growth : Growth) :
    (growth.add item).stack = attach item growth.stack := by
  obtain ⟨pending, roots⟩ := growth
  cases pending <;> rfl

theorem stack_push (tag : Tag) (growth : Growth) :
    (growth.push tag).stack = ⟨tag, []⟩ :: growth.stack := rfl

/-- Closing elements up to one that satisfies a condition is closing the innermost one as often as
there are elements inside that one, and once more. -/
theorem stack_closeThrough (last : Tag → Bool) (roots : List Markup) (top : OpenElement)
    (rest : List OpenElement) (items : List Markup) :
    (closeThrough last roots items (top :: rest)).stack =
      closeTop^[(top :: rest).findIdx (last ·.tag) + 1]
        (⟨top.tag, items ++ top.held⟩ :: stack ⟨rest, roots⟩) := by
  have htop (rest : List OpenElement) (top : OpenElement) (items : List Markup) :
      closeTop (⟨top.tag, items ++ top.held⟩ :: stack ⟨rest, roots⟩) =
        attach (.element top.tag (items ++ top.held).reverse) (stack ⟨rest, roots⟩) := by
    cases rest <;> rfl
  induction rest generalizing top items with
  | nil =>
    rw [closeThrough, Function.iterate_succ_apply, htop, List.findIdx_cons]
    cases last top.tag with
    | true => rfl
    | false => rfl
  | cons next rest ih =>
    rw [closeThrough, Function.iterate_succ_apply, htop, List.findIdx_cons]
    cases last top.tag with
    | true =>
      rw [if_pos rfl, stack_add]
      rfl
    | false =>
      rw [if_neg Bool.false_ne_true, ih]
      rfl

/-- The height of an open element from the number of elements inside it. -/
theorem height?_stack (name : String) (pending : List OpenElement) (roots : List Markup) :
    (height? name (stack ⟨pending, roots⟩)).filter (0 < ·) =
      if pending.any (·.tag.name == name) then
        some (pending.length - pending.findIdx (·.tag.name == name))
      else none := by
  induction pending with
  | nil =>
    rw [stack, List.nil_append, height?]
    split <;> rfl
  | cons top rest ih =>
    rw [stack, List.cons_append, height?, List.any_cons, List.findIdx_cons]
    cases htop : top.tag.name == name with
    | true => simp
    | false => simpa [stack] using ih

/-- A closing tag does what the loop does. -/
theorem reaches_close (name : String) (growth : Growth) (rest : List Token) :
    Config.Reaches (.reading growth.stack (.closing name :: rest))
      (.reading (growth.close name).stack rest) := by
  obtain ⟨pending, roots⟩ := growth
  refine Config.reaches_of_next ?_
  rw [Config.next, height?_stack, close]
  cases hany : pending.any (·.tag.name == name) with
  | false =>
    rw [if_neg Bool.false_ne_true, if_neg Bool.false_ne_true]
    exact .refl _
  | true =>
    rw [if_pos rfl, if_pos rfl]
    have hlt : pending.findIdx (·.tag.name == name) < pending.length :=
      List.findIdx_lt_length.mpr (by simpa using hany)
    have hpos : 0 < pending.length - pending.findIdx (·.tag.name == name) := by omega
    have hloop := Config.reaches_closing hpos (stack ⟨pending, roots⟩) rest
    have hrounds : (stack ⟨pending, roots⟩).length - (pending.length -
        pending.findIdx (·.tag.name == name)) = pending.findIdx (·.tag.name == name) + 1 := by
      have hlength : (stack ⟨pending, roots⟩).length = pending.length + 1 := length_stack _
      omega
    rw [hrounds] at hloop
    cases pending with
    | nil => cases hany
    | cons top pending =>
      rw [stack_closeThrough]
      exact hloop

/-- The run does with the tokens what the growing forest does. -/
theorem reaches_extend (tokens : List Token) (growth : Growth) :
    Config.Reaches (.reading growth.stack tokens) (.reading (growth.extend tokens).stack []) := by
  induction tokens generalizing growth with
  | nil => exact .refl _
  | cons token rest ih =>
    cases token with
    | text run =>
      refine Config.reaches_of_next ?_
      rw [Config.next, ← stack_add]
      exact ih _
    | closing name => exact (reaches_close name growth rest).trans (ih _)
    | opening tag =>
      refine Config.reaches_of_next ?_
      rw [Config.next, extend, ← stack_add, ← stack_push]
      split
      · exact ih _
      · exact ih _

theorem pending_closeThrough_false (roots items : List Markup) (pending : List OpenElement) :
    (closeThrough (fun _ => false) roots items pending).pending = [] := by
  induction pending generalizing items with
  | nil => rfl
  | cons top rest ih => exact ih _

/-- At the end the root is left, with the forest. -/
theorem reaches_finish (growth : Growth) :
    Config.Reaches (.ending growth.stack) (.ending [⟨root.tag, growth.finish.reverse⟩]) := by
  obtain ⟨pending, roots⟩ := growth
  have hlast : (closeThrough (fun _ => false) roots [] pending).stack =
      [⟨root.tag, (finish ⟨pending, roots⟩).reverse⟩] := by
    rw [stack, pending_closeThrough_false, finish, List.reverse_reverse]
    rfl
  have hloop := Config.reaches_ending (stack ⟨pending, roots⟩)
  cases pending with
  | nil =>
    rw [← hlast]
    exact .refl _
  | cons top rest =>
    have hlength : (stack ⟨top :: rest, roots⟩).length = rest.length + 2 := length_stack _
    have hrounds : rest.length + 1 < (stack ⟨top :: rest, roots⟩).length := by omega
    have hone := length_iterate_closeTop hrounds
    have hfind : (top :: rest).findIdx (fun _ => false) = rest.length + 1 :=
      List.findIdx_eq_length_of_false fun _ _ => rfl
    rw [stack_closeThrough, hfind, Function.iterate_succ_apply'] at hlast
    have hlow : (closeTop^[rest.length + 1] (stack ⟨top :: rest, roots⟩)).length ≤ 1 := by omega
    have hstill := closeTop_of_length_le hlow
    have hheight : (stack ⟨top :: rest, roots⟩).length - 1 = rest.length + 1 := by omega
    rw [hheight, ← hstill] at hloop
    rw [← hlast]
    exact hloop

end Growth

/-- The run ends, with the forest in the root. -/
theorem Config.exists_after_eq (cs : List Char) :
    ∃ steps, after steps cs = ending [⟨Stack.root.tag, (Forest.read cs).reverse⟩] := by
  have hread := Growth.reaches_extend (tokens cs) .empty
  have hend : Reaches (reading (Growth.empty.extend (tokens cs)).stack [])
      (ending (Growth.empty.extend (tokens cs)).stack) := reaches_of_next (.refl _)
  exact (hread.trans hend).trans (Growth.reaches_finish _)

end Markup

end PageMarkup
