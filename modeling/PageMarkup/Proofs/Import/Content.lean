import Mathlib.Data.List.Chain
import PageMarkup.Proofs.Import.Leaf

/-!
# The content of a section is read back

Content is a sequence of portions: items that are read alone, and rows that are read together as one
grid.  As long as the rows of one portion do not follow those of another, each portion is read
alone, so the content gives what its portions give, and stable portions make stable content.
-/

namespace PageMarkup

open Text

/-! ### Rows -/

namespace Markup

/-- The item is a row of cells. -/
def isRow : Markup → Bool
  | text _ => false
  | element tag _ => tag.name == "row_inner"

end Markup

namespace Forest

/-- The forest starts with a row of cells. -/
def beginsWithRow (forest : Forest) : Bool :=
  forest.head?.any Markup.isRow

/-- The forest ends with a row of cells. -/
def endsWithRow (forest : Forest) : Bool :=
  forest.getLast?.any Markup.isRow

/-- Lines start with a row when the first of them does. -/
theorem beginsWithRow_lines_cons {forest : Forest} (h : forest ≠ []) (forests : List Forest) :
    beginsWithRow (lines (forest :: forests)) = beginsWithRow forest := by
  by_cases hrest : forests = []
  · subst hrest
    rfl
  · rw [lines_cons hrest, beginsWithRow, List.append_assoc, List.head?_append_of_ne_nil _ h]
    rfl

/-- Lines end with a row when the last of them does. -/
theorem endsWithRow_lines_append {forest : Forest} (h : forest ≠ []) (forests : List Forest) :
    endsWithRow (lines (forests ++ [forest])) = endsWithRow forest := by
  by_cases hfront : forests = []
  · subst hfront
    rfl
  · have hlast : lines [forest] = forest := rfl
    rw [lines_append hfront (by simp), hlast, endsWithRow, List.getLast?_append_of_ne_nil _ h]
    rfl

/-- One of the forests that follow one another does not end with a row, or the other one does not
start with one. -/
def DoNotMeet (before after : Forest) : Prop :=
  ¬ (endsWithRow before = true ∧ beginsWithRow after = true)

instance : DecidableRel DoNotMeet := fun before after =>
  inferInstanceAs (Decidable (¬ (endsWithRow before = true ∧ beginsWithRow after = true)))

end Forest

/-! ### Portions -/

/-- A portion of content: an item that is read alone, or the rows of one grid. -/
inductive Portion where
  | single (item : Markup)
  | rows (rows : List Element)

namespace Portion

/-- The items of a portion. -/
def items : Portion → List Markup
  | single item => [item]
  | rows elements => elements.map fun row => .element row.tag row.children

/-- The markup of a portion. -/
def forest (portion : Portion) : Forest :=
  Forest.lines (portion.items.map fun item => [item])

/-- The portion is made of rows. -/
def isRows : Portion → Bool
  | single _ => false
  | rows _ => true

/-- An item that is read alone is an element other than a row; the rows of a grid are rows, and
there is one. -/
def IsShaped : Portion → Prop
  | single item => item.isText = false ∧ item.isRow = false
  | rows elements => elements ≠ [] ∧ ∀ row ∈ elements, row.name = "row_inner"

/-- The computation that reads a portion. -/
def toNodes : Portion → Drafting (List Node)
  | single item => item.toNodes
  | rows elements => Element.toGrid elements

/-- A portion is read as one node, and the template of that node gives the portion again. -/
def IsStable : Portion → Prop
  | single item => (item.isText = false ∧ item.isRow = false) ∧ item.IsStable
  | rows elements => (elements ≠ [] ∧ ∀ row ∈ elements, row.name = "row_inner") ∧
      Yields (Element.toGrid elements) [(rows elements).forest]

/-- The markup of several portions. -/
def content (portions : List Portion) : Forest :=
  Forest.lines (portions.map forest)

/-- Rows of two portions do not meet. -/
def AreApart (portions : List Portion) : Prop :=
  portions.IsChain fun before after => ¬ (before.isRows = true ∧ after.isRows = true)

/-- A stable portion has its shape. -/
theorem IsStable.isShaped {portion : Portion} (h : portion.IsStable) : portion.IsShaped := by
  cases portion with
  | single item => exact h.1
  | rows elements => exact h.1

/-- A stable portion is read as a node with the same markup. -/
theorem IsStable.yields {portion : Portion} (h : portion.IsStable) :
    Yields portion.toNodes [portion.forest] := by
  cases portion with
  | single item => exact h.2
  | rows elements => exact h.2

/-- A portion has an item. -/
theorem IsShaped.items_ne_nil {portion : Portion} (h : portion.IsShaped) :
    portion.items ≠ [] := by
  cases portion with
  | single item => exact List.cons_ne_nil item []
  | rows elements => simpa [items] using h.1

/-- A stable portion has markup. -/
theorem IsStable.forest_ne_nil {portion : Portion} (h : portion.IsStable) :
    portion.forest ≠ [] := by
  obtain ⟨item, items, hitems⟩ := List.exists_cons_of_ne_nil h.isShaped.items_ne_nil
  rw [forest, hitems]
  cases items <;> simp [Forest.lines]

/-- The markup of rows starts and ends with a row. -/
theorem IsStable.meets {portion : Portion} (h : portion.IsStable) (hrows : portion.isRows = true) :
    portion.forest.beginsWithRow = true ∧ portion.forest.endsWithRow = true := by
  cases portion with
  | single item => exact absurd hrows (by simp [isRows])
  | rows elements =>
    obtain ⟨⟨hne, hname⟩, -⟩ := h
    have hrow (row : Element) (hrow : row ∈ elements) :
        Markup.isRow (.element row.tag row.children) = true :=
      beq_iff_eq.mpr (hname row hrow)
    constructor
    · obtain ⟨first, others, rfl⟩ := List.exists_cons_of_ne_nil hne
      rw [forest, items, List.map_map, List.map_cons,
        Forest.beginsWithRow_lines_cons (by simp)]
      exact hrow first List.mem_cons_self
    · obtain ⟨front, last, rfl⟩ := (List.eq_nil_or_concat' elements).resolve_left hne
      rw [forest, items, List.map_map, List.map_append, List.map_singleton,
        Forest.endsWithRow_lines_append (by simp)]
      exact hrow last (by simp)

end Portion

/-! ### Reading portions one after another -/

namespace Markup

/-- Items with a line end before each of them. -/
def spread (items : List Markup) : Forest :=
  items.flatMap fun item => [newline, item]

@[simp] theorem spread_append (items others : List Markup) :
    spread (items ++ others) = spread items ++ spread others :=
  List.flatMap_append

/-- Items on lines of their own have a line end before each of them and one at the end. -/
theorem ownLines_lines_items {items : List Markup} (h : items ≠ []) :
    (Forest.lines (items.map fun item => [item])).ownLines = spread items ++ [newline] := by
  have hlines (items : List Markup) (h : items ≠ []) :
      newline :: Forest.lines (items.map fun item => [item]) = spread items := by
    induction items with
    | nil => exact absurd rfl h
    | cons item items ih =>
      by_cases hrest : items = []
      · subst hrest
        rfl
      · have hnext : newline :: Forest.lines ((item :: items).map fun item => [item]) =
            [newline, item] ++ (newline :: Forest.lines (items.map fun item => [item])) := by
          rw [List.map_cons, Forest.lines_cons (by simpa using hrest)]
          rfl
        rw [hnext, ih hrest]
        rfl
  have hne : Forest.lines (items.map fun item => [item]) ≠ [] := by
    obtain ⟨item, items, rfl⟩ := List.exists_cons_of_ne_nil h
    cases items <;> simp [Forest.lines]
  rw [Forest.ownLines, if_neg (by simpa using hne), ← hlines items h]
  rfl

/-- The end of a line is passed over. -/
theorem toNodesAll_newline (rows : List Element) (items : List Markup) :
    toNodesAll rows (newline :: items) = toNodesAll rows items := by
  rw [newline, toNodesAll]
  exact if_pos (by decide)

/-- Rows are kept until something else follows. -/
theorem toNodesAll_rows {elements : List Element} (h : ∀ row ∈ elements, row.name = "row_inner")
    (rows : List Element) (items : List Markup) :
    toNodesAll rows (spread (Portion.rows elements).items ++ items) =
      toNodesAll (rows ++ elements) items := by
  induction elements generalizing rows with
  | nil => rw [List.append_nil]; rfl
  | cons row elements ih =>
    have hrow : (row.tag.name == "row_inner") = true := beq_iff_eq.mpr (h row List.mem_cons_self)
    have hrest := ih (fun other hother => h other (List.mem_cons_of_mem row hother)) (rows ++ [row])
    have hstep : spread (Portion.rows (row :: elements)).items ++ items =
        newline :: .element row.tag row.children ::
          (spread (Portion.rows elements).items ++ items) := rfl
    rw [hstep, toNodesAll_newline, toNodesAll, hrow, if_pos rfl, hrest, List.append_assoc]
    rfl

/-- Another element is read after the rows that stand before it. -/
theorem toNodesAll_single {item : Markup} (htext : item.isText = false)
    (hrow : item.isRow = false) (rows : List Element) (items : List Markup) :
    toNodesAll rows (spread (Portion.single item).items ++ items) = do
      let before ← Element.flush rows
      let here ← toNodes item
      return before ++ here ++ (← toNodesAll [] items) := by
  have hstep : spread (Portion.single item).items ++ items = newline :: item :: items := rfl
  rw [hstep, toNodesAll_newline]
  cases item with
  | text content => exact absurd htext (by simp [isText])
  | element tag children =>
    have hname : (tag.name == "row_inner") = false := hrow
    rw [toNodesAll, hname]
    rfl

end Markup

/-- An element that only arranges is read as what is in it. -/
theorem Forest.toNodes_layout {tag : Tag} (h : Element.isLayout tag.name = true)
    (children : Forest) : toNodes [.element tag children] = (do
      let before ← pure []
      let here ← toNodes children
      return before ++ here ++ (← pure [])) := by
  have hrow : (tag.name == "row_inner") = false := by
    rw [beq_eq_false_iff_ne]
    intro hname
    rw [hname] at h
    exact absurd h (by decide)
  have hsection : (tag.name == "section") = false := by
    rw [beq_eq_false_iff_ne]
    intro hname
    rw [hname] at h
    exact absurd h (by decide)
  have hread : Markup.toNodes (.element tag children) = toNodes children := by
    rw [Markup.toNodes, hsection, h]
    rfl
  rw [toNodes, Markup.toNodesAll, hrow, hread]
  rfl

/-- A relation between computations that read items and what these give: of the one that gives
nothing it holds, and it is kept where computations follow one another. -/
structure IsSequential {β : Type} (R : Drafting (List Node) → List β → Prop) : Prop where
  nil : R (pure []) []
  append : ∀ {x y z before here after}, R x before → R y here → R z after → R (do
    let before ← x
    let here ← y
    return before ++ here ++ (← z)) (before ++ here ++ after)

/-- The markup of the nodes that are made follows the computations that make them. -/
theorem isSequential_yields : IsSequential Yields where
  nil := Yields.nil
  append := Yields.append

namespace IsSequential

variable {β : Type} {R : Drafting (List Node) → List β → Prop} {portions : List Portion}
  {given : List β}

/-- Portions give one after another what each of them gives, after what the rows give that stand
before them, as long as rows do not meet. -/
theorem toNodesAll (hR : IsSequential R)
    (h : List.Forall₂ (fun portion outcome => portion.IsShaped ∧ R portion.toNodes [outcome])
      portions given)
    (hapart : Portion.AreApart portions) {rows : List Element} {before : List β}
    (hbefore : R (Element.flush rows) before)
    (hrows : (rows = [] ∧ before = []) ∨ ∀ portion ∈ portions.head?, portion.isRows = false) :
    R (Markup.toNodesAll rows
      (Markup.spread (portions.flatMap Portion.items) ++ [Markup.newline])) (before ++ given) := by
  induction h generalizing rows before with
  | nil =>
    have hend : Markup.toNodesAll rows
        (Markup.spread (([] : List Portion).flatMap Portion.items) ++ [Markup.newline]) =
          Element.flush rows :=
      Markup.toNodesAll_newline rows []
    rw [hend, List.append_nil]
    exact hbefore
  | @cons portion outcome portions given hportion _ ih =>
    obtain ⟨hshape, hread⟩ := hportion
    rw [Portion.AreApart, List.isChain_cons] at hapart
    rw [List.flatMap_cons, Markup.spread_append, List.append_assoc]
    cases portion with
    | single item =>
      have hnothing : R (Element.flush []) [] := hR.nil
      have hrest := ih hapart.2 hnothing (.inl ⟨rfl, rfl⟩)
      rw [Markup.toNodesAll_single hshape.1 hshape.2]
      have hall := hR.append hbefore hread hrest
      rwa [List.append_assoc, List.singleton_append] at hall
    | rows elements =>
      -- Rows follow, so none can be pending.
      obtain ⟨rfl, rfl⟩ := hrows.resolve_right fun hnone =>
        absurd (hnone _ rfl) (by simp [Portion.isRows])
      have hflush : Element.flush elements = Element.toGrid elements := by
        rw [Element.flush, if_neg (by simpa using hshape.1)]
      have hpending : R (Element.flush elements) [outcome] := hflush ▸ hread
      rw [Markup.toNodesAll_rows hshape.2]
      exact ih hapart.2 hpending
        (.inr fun next hnext => by simpa [Portion.isRows] using hapart.1 next hnext)

/-- Portions on lines of their own give one after another what each of them gives. -/
theorem ownLines (hR : IsSequential R)
    (h : List.Forall₂ (fun portion outcome => portion.IsShaped ∧ R portion.toNodes [outcome])
      portions given) (hapart : Portion.AreApart portions) :
    R (Forest.toNodes (Forest.lines ((portions.flatMap Portion.items).map
      fun item => [item])).ownLines) given := by
  have hnothing : R (Element.flush []) [] := hR.nil
  have hall := hR.toNodesAll h hapart hnothing (.inl ⟨rfl, rfl⟩)
  cases h with
  | nil => exact hnothing
  | cons hportion _ =>
    have hitems := List.append_ne_nil_of_left_ne_nil hportion.1.items_ne_nil
    rw [Forest.toNodes, Markup.ownLines_lines_items (by rw [List.flatMap_cons]; exact hitems _)]
    exact hall

/-- An element that only arranges gives what is in it. -/
theorem layout (hR : IsSequential R) {name : String} (hname : Element.isLayout name = true)
    {children : Forest} {attributes : List (String × String)}
    (h : R (Forest.toNodes children) given) :
    R (Forest.toNodes [.element ⟨name, attributes⟩ children]) given := by
  have hall := hR.append hR.nil h hR.nil
  rw [List.nil_append, List.append_nil] at hall
  rw [Forest.toNodes_layout hname]
  exact hall

/-- The inside of a section gives what the portions in it give. -/
theorem skeleton (hR : IsSequential R)
    (h : List.Forall₂ (fun portion outcome => portion.IsShaped ∧ R portion.toNodes [outcome])
      portions given) (hapart : Portion.AreApart portions) :
    R (Forest.toNodes [.element fullRow [.block fullColumn
      (Forest.lines ((portions.flatMap Portion.items).map fun item => [item]))]]) given :=
  hR.layout (by decide) (hR.layout (by decide) (hR.ownLines h hapart))

end IsSequential

/-! ### The content of a section -/

/-- Groups of items on lines are the lines of all their items. -/
theorem Forest.lines_lines_items {groups : List (List Markup)} (h : ∀ group ∈ groups, group ≠ []) :
    lines (groups.map fun group => lines (group.map fun item => [item])) =
      lines (groups.flatten.map fun item => [item]) := by
  have hlines : (groups.map fun group => group.map fun item => [item]).filterMap lines? =
      groups.map fun group => lines (group.map fun item => [item]) := by
    rw [List.filterMap_map]
    refine (List.filterMap_congr (g := some ∘ fun group => lines (group.map fun item => [item]))
      fun group hgroup => ?_).trans (congrFun List.filterMap_eq_map groups)
    have hne : group.isEmpty = false := by
      simpa using h group hgroup
    rw [Function.comp_apply, lines?, List.isEmpty_map, hne]
    rfl
  rw [← hlines, lines_flatten, List.map_flatten]

namespace Portion

/-- The markup of several portions is the lines of all their items. -/
theorem content_eq {portions : List Portion} (h : ∀ portion ∈ portions, portion.IsShaped) :
    content portions =
      Forest.lines ((portions.flatMap items).map fun item => [item]) := by
  have hitems : ∀ group ∈ portions.map items, group ≠ [] :=
    List.forall_mem_map.mpr fun portion hportion => (h portion hportion).items_ne_nil
  rw [List.flatMap_def, ← Forest.lines_lines_items hitems, List.map_map]
  rfl

/-- The inside of a section of stable portions is read as nodes with the same markup. -/
theorem yields_skeleton {portions : List Portion} (h : ∀ portion ∈ portions, portion.IsStable)
    (hapart : AreApart portions) :
    Yields (Forest.toNodes [.element fullRow [.block fullColumn (content portions)]])
      (portions.map forest) := by
  rw [content_eq fun portion hportion => (h portion hportion).isShaped]
  refine isSequential_yields.skeleton ?_ hapart
  rw [List.forall₂_map_right_iff, List.forall₂_same]
  exact fun portion hportion => ⟨(h portion hportion).isShaped, (h portion hportion).yields⟩

end Portion

/-! ### The markup of nodes in portions -/

namespace Forest

/-- The markup is that of stable portions whose rows do not meet. -/
def IsPortioned (body : Forest) (portions : List Portion) : Prop :=
  body = Portion.content portions ∧ portions ≠ [] ∧
    (∀ portion ∈ portions, portion.IsStable) ∧ Portion.AreApart portions

/-- Markup of a portion that is rows starts with a row. -/
theorem IsPortioned.begins {body : Forest} {portions : List Portion}
    (h : IsPortioned body portions) {portion : Portion} (hportion : portion ∈ portions.head?)
    (hrows : portion.isRows = true) : body.beginsWithRow = true := by
  obtain ⟨rfl, -, hstable, -⟩ := h
  obtain ⟨others, rfl⟩ := List.head?_eq_some_iff.mp hportion
  have hfirst := hstable portion List.mem_cons_self
  rw [Portion.content, List.map_cons, beginsWithRow_lines_cons hfirst.forest_ne_nil]
  exact (hfirst.meets hrows).1

/-- Markup whose last portion is rows ends with a row. -/
theorem IsPortioned.ends {body : Forest} {portions : List Portion}
    (h : IsPortioned body portions) {portion : Portion} (hportion : portion ∈ portions.getLast?)
    (hrows : portion.isRows = true) : body.endsWithRow = true := by
  obtain ⟨rfl, -, hstable, -⟩ := h
  obtain ⟨front, rfl⟩ := List.getLast?_eq_some_iff.mp hportion
  have hlast := hstable portion (by simp)
  rw [Portion.content, List.map_append, List.map_singleton,
    endsWithRow_lines_append hlast.forest_ne_nil]
  exact (hlast.meets hrows).2

/-- Forests of stable portions that do not meet are stable portions on lines. -/
theorem exists_portions {bodies : List Forest}
    (h : ∀ body ∈ bodies, ∃ portions, IsPortioned body portions)
    (hapart : bodies.IsChain DoNotMeet) :
    ∃ portions : List Portion, lines bodies = Portion.content portions ∧
      (∀ portion ∈ portions, portion.IsStable) ∧ Portion.AreApart portions := by
  choose! split hsplit using h
  have hnil : [] ∉ bodies.map split := by
    intro hmem
    obtain ⟨body, hbody, hempty⟩ := List.mem_map.mp hmem
    exact (hsplit body hbody).2.1 hempty
  refine ⟨(bodies.map split).flatten, ?_, ?_, ?_⟩
  · have hlines : (bodies.map fun body => (split body).map Portion.forest).filterMap lines? =
        bodies := by
      rw [List.filterMap_map]
      refine (List.filterMap_congr fun body hbody => ?_).trans List.filterMap_some
      obtain ⟨hbodyeq, hne, -⟩ := hsplit body hbody
      have hsome : ((split body).map Portion.forest).isEmpty = false := by
        simpa using hne
      rw [Function.comp_apply, lines?, hsome]
      exact congrArg some hbodyeq.symm
    rw [Portion.content, List.map_flatten, List.map_map, ← hlines, lines_flatten, hlines]
    rfl
  · intro portion hportion
    obtain ⟨group, hgroup, hmem⟩ := List.mem_flatten.mp hportion
    obtain ⟨body, hbody, rfl⟩ := List.mem_map.mp hgroup
    exact (hsplit body hbody).2.2.1 portion hmem
  · rw [Portion.AreApart, List.isChain_flatten hnil, List.isChain_map]
    refine ⟨fun group hgroup => ?_,
      hapart.imp_of_mem_imp fun before after hbefore hafter hmeet => ?_⟩
    · obtain ⟨body, hbody, rfl⟩ := List.mem_map.mp hgroup
      exact (hsplit body hbody).2.2.2
    · intro last hlast first hfirst hrows
      exact hmeet ⟨(hsplit before hbefore).ends hlast hrows.1,
        (hsplit after hafter).begins hfirst hrows.2⟩

end Forest

end PageMarkup
