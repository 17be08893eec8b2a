import PageMarkup.Proofs.Import.Drafts

/-!
# Markup is read in fixed steps

Which nodes are made from markup, in which order and with which properties, does not depend on the
nodes that were made before; these only count for the numbers in the ids.  So reading is a list of
steps, in each of which a node gets a number and is kept or dropped.  From this follows that the
same number of nodes is made wherever markup is read, and that a section before it takes no number
from them.
-/

namespace PageMarkup

open Text

/-! ### Steps -/

/-- A step: a node of a kind gets its number, and some nodes are made of it. -/
structure Step where
  kind : Kind
  make : Node → List Node

namespace Step

/-- The node that gets a number is no section, and how many nodes are made of it does not depend on
its number. -/
structure IsRegular (step : Step) : Prop where
  ne_section : step.kind ≠ .section
  length_make : ∀ node other, (step.make node).length = (step.make other).length

/-- What steps make one after another when nodes of the kinds `made` were made before. -/
def run : List Step → List Kind → List Node × List Kind
  | [], made => ([], made)
  | step :: steps, made =>
    let rest := run steps (step.kind :: made)
    (step.make (Node.next made step.kind) ++ rest.1, rest.2)

variable {steps : List Step}

theorem run_append (steps more : List Step) (made : List Kind) :
    run (steps ++ more) made = ((run steps made).1 ++ (run more (run steps made).2).1,
      (run more (run steps made).2).2) := by
  induction steps generalizing made with
  | nil => rfl
  | cons step steps ih => rw [List.cons_append, run, run, ih, List.append_assoc]

/-- A section that was made before everything else takes no number from the nodes. -/
theorem run_append_section (h : ∀ step ∈ steps, step.IsRegular) (made : List Kind) :
    run steps (made ++ [.section]) = ((run steps made).1, (run steps made).2 ++ [.section]) := by
  induction steps generalizing made with
  | nil => rfl
  | cons step steps ih =>
    obtain ⟨hstep, hsteps⟩ := List.forall_mem_cons.mp h
    have hcount : (made ++ [Kind.section]).count step.kind = made.count step.kind := by
      rw [List.count_append, List.count_singleton, if_neg (by simpa using hstep.ne_section.symm),
        Nat.add_zero]
    have hnext : Node.next (made ++ [.section]) step.kind = Node.next made step.kind := by
      rw [Node.next, hcount, Node.next]
    rw [run, run, ← List.cons_append, ih hsteps, hnext]

/-- The number of nodes does not depend on what was made before. -/
theorem length_run (h : ∀ step ∈ steps, step.IsRegular) (made other : List Kind) :
    (run steps made).1.length = (run steps other).1.length := by
  induction steps generalizing made other with
  | nil => rfl
  | cons step steps ih =>
    obtain ⟨hstep, hsteps⟩ := List.forall_mem_cons.mp h
    rw [run, run, List.length_append, List.length_append, ih hsteps _ (step.kind :: other),
      hstep.length_make _ (Node.next other step.kind)]

end Step

/-! ### Computations that take fixed steps -/

namespace Drafting

/-- The computation takes the same steps whatever nodes were made before. -/
def IsStepwise (x : Drafting (List Node)) : Prop :=
  ∃ steps : List Step, (∀ step ∈ steps, step.IsRegular) ∧
    ∀ limit made, x.result limit made = Step.run steps made

theorem isStepwise_nil : IsStepwise (pure []) :=
  ⟨[], List.forall_mem_nil _, fun _ _ => rfl⟩

/-- A computation that numbers one node takes one step. -/
theorem isStepwise_of_next {x : Drafting (List Node)} {kind : Kind} (h : kind ≠ .section)
    (make : Node → List Node)
    (hmake : ∀ node other, (make node).length = (make other).length)
    (hx : ∀ limit made, x.result limit made = (make (Node.next made kind), kind :: made)) :
    IsStepwise x := by
  refine ⟨[⟨kind, make⟩], fun step hstep => ?_, fun limit made => ?_⟩
  · obtain rfl := List.mem_singleton.mp hstep
    exact ⟨h, hmake⟩
  · rw [hx, Step.run, Step.run, List.append_nil]

/-- A computation that numbers a node and makes one node of it takes one step. -/
theorem isStepwise_node {kind : Kind} (h : kind ≠ .section) {f : Node → Drafting (List Node)}
    (hf : ∃ make : Node → Node, ∀ node limit made,
      (f node).result limit made = ([make node], made)) :
    IsStepwise (node kind >>= f) := by
  obtain ⟨make, hmake⟩ := hf
  refine isStepwise_of_next h (fun node => [make node]) (fun _ _ => rfl) fun limit made => ?_
  rw [result_bind, hmake]
  rfl

/-- A warning is no step. -/
theorem IsStepwise.warn {message : String} {x : Drafting (List Node)} (h : IsStepwise x) :
    IsStepwise (do
      note .warn message
      x) :=
  h

/-- Two computations one after the other take the steps of each. -/
theorem IsStepwise.andThen {x y : Drafting (List Node)} (hx : IsStepwise x) (hy : IsStepwise y) :
    IsStepwise (do
      let here ← x
      return here ++ (← y)) := by
  obtain ⟨here, hhere, hresult⟩ := hx
  obtain ⟨after, hafter, hresult'⟩ := hy
  refine ⟨here ++ after, List.forall_mem_append.mpr ⟨hhere, hafter⟩, fun limit made => ?_⟩
  rw [Step.run_append]
  simp only [result_bind, result_pure, hresult, hresult']

/-- Computations one after another take the steps of each. -/
theorem IsStepwise.append {x y z : Drafting (List Node)} (hx : IsStepwise x) (hy : IsStepwise y)
    (hz : IsStepwise z) : IsStepwise (do
      let before ← x
      let here ← y
      return before ++ here ++ (← z)) := by
  obtain ⟨steps, hsteps, hresult⟩ := hx.andThen (hy.andThen hz)
  refine ⟨steps, hsteps, fun limit made => ?_⟩
  rw [← hresult limit]
  simp only [result_bind, result_pure, List.append_assoc]

/-- In the first section of a page the nodes are those that are made without the section. -/
theorem IsStepwise.result_section {x : Drafting (List Node)} (h : IsStepwise x) (limit : Nat) :
    (x.result limit [.section]).1 = (x.result limit []).1 := by
  obtain ⟨steps, hsteps, hresult⟩ := h
  have hsection := Step.run_append_section hsteps []
  rw [List.nil_append] at hsection
  rw [hresult, hresult, hsection]

/-- The number of nodes that the computation makes. -/
def amount (x : Drafting (List Node)) : Nat :=
  (x.result 0 []).1.length

/-- The same number of nodes is made whatever was made before. -/
theorem IsStepwise.length_eq {x : Drafting (List Node)} (h : IsStepwise x) (limit : Nat)
    (made : List Kind) : (x.result limit made).1.length = x.amount := by
  obtain ⟨steps, hsteps, hresult⟩ := h
  rw [amount, hresult, hresult]
  exact Step.length_run hsteps made []

@[simp] theorem amount_nil : amount (pure []) = 0 := rfl

theorem amount_andThen (x : Drafting (List Node)) {y : Drafting (List Node)} (hy : IsStepwise y) :
    amount (do
      let here ← x
      return here ++ (← y)) = x.amount + y.amount := by
  rw [amount, result_bind, result_bind, result_pure, List.length_append, hy.length_eq]
  rfl

theorem amount_append (x : Drafting (List Node)) {y z : Drafting (List Node)} (hy : IsStepwise y)
    (hz : IsStepwise z) : amount (do
      let before ← x
      let here ← y
      return before ++ here ++ (← z)) = x.amount + y.amount + z.amount := by
  rw [amount, result_bind, result_bind, result_bind, result_pure, List.length_append,
    List.length_append, hy.length_eq, hz.length_eq]
  rfl

end Drafting

/-! ### Single elements -/

namespace Element

open Drafting

variable (element : Element)

theorem isStepwise_skip (what reason : String) : IsStepwise (skip what reason) :=
  isStepwise_nil.warn

theorem isStepwise_toHeading : IsStepwise element.toHeading := by
  rw [toHeading]
  split
  · exact isStepwise_skip _ _
  · exact isStepwise_node (by decide)
      ⟨_, fun node limit made => by simp only [result_bind, Node.result_styled]; rfl⟩

theorem isStepwise_toText : IsStepwise element.toText := by
  rw [toText]
  split
  · exact isStepwise_skip _ _
  · exact isStepwise_node (by decide)
      ⟨_, fun node limit made => by simp only [result_bind, Node.result_styled]; rfl⟩

/-- An image without a source that is allowed gets a number and is dropped. -/
theorem isStepwise_toImage : IsStepwise element.toImage := by
  cases hsrc : (element.attribute? "src").bind Restricted.src.allow with
  | none =>
    exact isStepwise_of_next (by decide) (fun _ => []) (fun _ _ => rfl)
      (result_toImage_of_none hsrc)
  | some src =>
    exact isStepwise_of_next (by decide) (fun node => [((node.withText "alt"
      (element.attribute? "alt")).withText "src" (some src)).withText "align"
        ((element.attribute? "align").bind Restricted.align.allow)]) (fun _ _ => rfl)
      (result_toImage hsrc)

theorem isStepwise_toButton : IsStepwise element.toButton := by
  rw [toButton]
  split
  · exact isStepwise_skip _ _
  · exact isStepwise_node (by decide)
      ⟨_, fun node limit made => by simp only [result_bind, Node.result_styled]; rfl⟩

theorem isStepwise_toDivider : IsStepwise element.toDivider :=
  isStepwise_node (by decide)
    ⟨_, fun node limit made => by simp only [result_bind, Node.result_styled]; rfl⟩

theorem isStepwise_toSpacer : IsStepwise element.toSpacer :=
  isStepwise_node (by decide)
    ⟨_, fun node limit made => by simp only [result_bind, Node.result_styled]; rfl⟩

theorem isStepwise_looseText (content : String) : IsStepwise (Markup.looseText content) :=
  isStepwise_node (by decide) ⟨_, fun _ _ _ => rfl⟩

theorem isStepwise_toUnknown : IsStepwise element.toUnknown := by
  rw [toUnknown]
  split
  · exact isStepwise_skip _ _
  · refine IsStepwise.warn ?_
    exact isStepwise_node (by decide) ⟨_, fun _ _ _ => rfl⟩

theorem isStepwise_toTestimonial : IsStepwise element.toTestimonial := by
  rw [toTestimonial]
  split
  · exact isStepwise_skip _ _
  · exact isStepwise_node (by decide)
      ⟨_, fun node limit made => by simp only [result_bind, Node.result_styled]; rfl⟩

theorem isStepwise_toBox : IsStepwise element.toBox := by
  rw [toBox]
  generalize ((element.find? "heading").bind (·.attribute? "level") == some "1") = isHero
  refine isStepwise_node (by split <;> decide) ?_
  -- A box has a button or not, and an image or not.
  cases element.find? "button" <;>
    cases (if isHero then none else element.find? "image") <;>
      exact ⟨_, fun node limit made => by
        simp only [result_bind, result_pure, Node.result_styled]
        rfl⟩

theorem isStepwise_toFeatures (blurbs : List Element) (columns : Nat) :
    IsStepwise (toFeatures blurbs columns) :=
  isStepwise_node (by decide) ⟨_, fun _ _ _ => rfl⟩

theorem isStepwise_toStatistics (counters : List Element) : IsStepwise (toStatistics counters) :=
  isStepwise_node (by decide) ⟨_, fun _ _ _ => rfl⟩

theorem isStepwise_toPricing (tables : List Element) : IsStepwise (toPricing tables) := by
  rw [toPricing]
  split
  · exact isStepwise_skip _ _
  · exact isStepwise_node (by decide)
      ⟨_, fun node limit made => by simp only [result_bind, result_planRecords]; rfl⟩

theorem isStepwise_toQuestions (toggles : List Element) : IsStepwise (toQuestions toggles) := by
  rw [toQuestions]
  split
  · exact isStepwise_skip _ _
  · exact isStepwise_node (by decide) ⟨_, fun _ _ _ => rfl⟩

theorem isStepwise_columns (cells : List (List Element)) : IsStepwise (do
    let node ← Drafting.node .columns
    reportDropped node cells
    return [node.withProp "columns" (.list (cells.map columnRecord))]) :=
  isStepwise_node (by decide)
    ⟨_, fun node limit made => by simp only [result_bind, result_reportDropped]; rfl⟩

theorem isStepwise_toGrid (rows : List Element) : IsStepwise (toGrid rows) := by
  rw [toGrid]
  split
  · exact isStepwise_skip _ _
  · split
    · exact isStepwise_toFeatures _ _
    · split
      · exact isStepwise_toStatistics _
      · exact isStepwise_columns _

/-- Whatever an element holds, it is read in fixed steps. -/
theorem isStepwise_toNodes : IsStepwise element.toNodes := by
  unfold toNodes
  split
  · exact element.isStepwise_toHeading
  · exact element.isStepwise_toText
  · exact element.isStepwise_toImage
  · exact element.isStepwise_toButton
  · exact element.isStepwise_toDivider
  · exact element.isStepwise_toSpacer
  · exact element.isStepwise_toBox
  · exact isStepwise_toPricing _
  · exact isStepwise_toPricing _
  · exact element.isStepwise_toTestimonial
  · exact isStepwise_toQuestions _
  · exact isStepwise_toQuestions _
  · exact isStepwise_toFeatures _ _
  · exact isStepwise_toStatistics _
  · exact element.isStepwise_toUnknown

end Element

/-! ### Forests -/

namespace Forest

/-- The computations for items take fixed steps, so the one for a forest does. -/
theorem isCompositional_isStepwise :
    IsCompositional (fun _ => True) Drafting.IsStepwise where
  hereditary := ⟨id, id, id⟩
  nil := Drafting.isStepwise_nil
  append _ _ _ := Drafting.IsStepwise.append
  warn _ _ := Drafting.IsStepwise.warn
  text content _ := Element.isStepwise_looseText content
  grid rows _ := Element.isStepwise_toGrid rows
  element element _ := element.isStepwise_toNodes

/-- Whatever a forest holds, it is read in fixed steps. -/
theorem isStepwise_toNodes (forest : Forest) : Drafting.IsStepwise forest.toNodes :=
  isCompositional_isStepwise.forest trivial

end Forest

/-! ### Grids -/

namespace Element

open Drafting

theorem flush_nil : flush [] = pure [] := rfl

/-- Rows are one grid, unless there is nothing in their cells. -/
theorem amount_flush (rows : List Element) :
    amount (flush rows) = if rows.all fun row => row.cells.flatten.isEmpty then 0 else 1 := by
  have hcontents (rows : List Element) : (rows.map cells).flatten.flatten.isEmpty =
      rows.all fun row => row.cells.flatten.isEmpty := by
    induction rows with
    | nil => rfl
    | cons row rows ih =>
      rw [List.map_cons, List.flatten_cons, List.flatten_append, List.all_cons, ← ih]
      cases row.cells.flatten <;> rfl
  rw [← hcontents]
  cases rows with
  | nil => rfl
  | cons row rows =>
    have hflush : flush (row :: rows) = toGrid (row :: rows) := rfl
    rw [hflush, toGrid]
    split
    · rfl
    · split
      · rw [amount, result_toFeatures]
        rfl
      · split
        · rw [amount, result_toStatistics]
          rfl
        · simp only [amount, result_bind, result_reportDropped]
          rfl

end Element

end PageMarkup
