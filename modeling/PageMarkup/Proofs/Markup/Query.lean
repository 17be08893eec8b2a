import PageMarkup.Markup.Query
import PageMarkup.Proofs.Markup.Shape

/-!
# Looking into generated markup

Line ends are no elements, so looking for elements in lines of forests is looking for them in each
forest, and an element that holds a text has no elements inside it.
-/

namespace PageMarkup

namespace Markup

/-- What an element holds that holds a text. -/
def held (content : List Char) : Forest :=
  if content.isEmpty then [] else [text (String.ofList content)]

/-- The text inside an element that holds a text. -/
@[simp] theorem textOfAll_held (content : List Char) :
    textOfAll (held content) = String.ofList content := by
  rw [held]
  split
  · rename_i h
    rw [List.isEmpty_iff.mp h]
    rfl
  · simp [textOfAll, textOf]

variable (name : String)

@[simp] theorem findInAll?_append (items others : List Markup) :
    findInAll? name (items ++ others) = (findInAll? name items).or (findInAll? name others) := by
  induction items with
  | nil => rfl
  | cons item items ih =>
    rw [List.cons_append, findInAll?, findInAll?, ih]
    cases findIn? name item <;> rfl

@[simp] theorem collectAll_append (items others : List Markup) :
    collectAll name (items ++ others) = collectAll name items ++ collectAll name others := by
  induction items with
  | nil => rfl
  | cons item items ih => rw [List.cons_append, collectAll, collectAll, ih, List.append_assoc]

@[simp] theorem findInAll?_newline : findInAll? name [newline] = none := rfl

@[simp] theorem collectAll_newline : collectAll name [newline] = [] := rfl

/-- Inside an element that holds a text there is no element. -/
@[simp] theorem findInAll?_held (content : List Char) : findInAll? name (held content) = none := by
  rw [held]
  split <;> rfl

@[simp] theorem collectAll_held (content : List Char) : collectAll name (held content) = [] := by
  rw [held]
  split <;> rfl

/-- The elements with a name are those in each item. -/
theorem collectAll_eq_flatMap (items : List Markup) :
    collectAll name items = items.flatMap (collect name) := by
  induction items with
  | nil => rfl
  | cons item items ih => rw [collectAll, ih, List.flatMap_cons]

/-- The first element with a name among lines is that of the first line with one. -/
@[simp] theorem findInAll?_lines (forests : List Forest) :
    findInAll? name (Forest.lines forests) = forests.findSome? (findInAll? name) := by
  induction forests with
  | nil => rfl
  | cons forest forests ih =>
    by_cases hrest : forests = []
    · subst hrest
      have hone : Forest.lines [forest] = forest := rfl
      rw [hone, List.findSome?_cons]
      cases findInAll? name forest <;> rfl
    · rw [Forest.lines_cons hrest, findInAll?_append, findInAll?_append, ih, findInAll?_newline,
        Option.or_none, List.findSome?_cons]
      cases findInAll? name forest <;> rfl

theorem readsItems_collectAll : Forest.ReadsItems (collectAll name) where
  nil := rfl
  append := collectAll_append name
  newline := rfl

/-- The elements with a name among lines are those of each line. -/
@[simp] theorem collectAll_lines (forests : List Forest) :
    collectAll name (Forest.lines forests) = forests.flatMap (collectAll name) :=
  (readsItems_collectAll name).lines forests

/-- Lines of their own hold the elements of the lines. -/
@[simp] theorem findInAll?_ownLines (forest : Forest) :
    findInAll? name forest.ownLines = findInAll? name forest := by
  rw [Forest.ownLines]
  split
  · rename_i h
    rw [List.isEmpty_iff.mp h]
  · rw [findInAll?_append, findInAll?_append, findInAll?_newline, Option.or_none, Option.none_or]

/-- Lines of their own hold the elements of the lines. -/
@[simp] theorem collectAll_ownLines (forest : Forest) :
    collectAll name forest.ownLines = collectAll name forest :=
  (readsItems_collectAll name).ownLines forest

end Markup

namespace Forest

/-- The elements of a forest that stand in no other element. -/
def elements (forest : Forest) : List Element :=
  forest.filterMap Markup.element?

@[simp] theorem elements_append (forest other : Forest) :
    elements (forest ++ other) = elements forest ++ elements other :=
  List.filterMap_append

theorem readsItems_elements : ReadsItems elements where
  nil := rfl
  append := elements_append
  newline := rfl

/-- The elements of lines are those of each line. -/
@[simp] theorem elements_lines (forests : List Forest) :
    elements (lines forests) = forests.flatMap elements :=
  readsItems_elements.lines forests

/-- Lines of their own hold the elements of the lines. -/
@[simp] theorem elements_ownLines (forest : Forest) :
    elements forest.ownLines = elements forest :=
  readsItems_elements.ownLines forest

end Forest

end PageMarkup
