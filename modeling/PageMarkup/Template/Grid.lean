import PageMarkup.Template

/-!
# Templates laid out in a grid

Columns, features and statistics stand in rows of cells.  A row is twelve units wide; its columns
share them, the leftmost taking what is left over.
-/

namespace PageMarkup

namespace Template

/-- The widths of the columns of a row. -/
def spans (columns : Nat) : List Nat :=
  let columns := min (max columns 1) 12
  (List.range columns).map fun i => 12 / columns + if i < 12 % columns then 1 else 0

/-- A list cut into pieces of `size` items; the last piece may be shorter. -/
def chunks {α : Type} (size : Nat) (items : List α) : List (List α) :=
  (List.range ((items.length + size - 1) / size)).map fun i => (items.drop (i * size)).take size

/-- One cell of a row. -/
def cell (content : Forest) (span : Nat) : Markup :=
  .block ⟨"column_inner", [("span", toString span)]⟩ content

/-- One row of cells. -/
def row (columns : Nat) (cells : List Forest) : Markup :=
  .block ⟨"row_inner", []⟩ <|
    Forest.lines ((cells.zip (spans columns)).map fun (content, span) => [cell content span])

/-- Cells in rows of a number of columns. -/
def grid (columns : Nat) (cells : List Forest) : Forest :=
  Forest.lines ((chunks (max columns 1) cells).map fun cells => [row columns cells])

/-- The most columns of a row. -/
def mostColumns : Nat := 6

/-- The number of columns that the properties ask for, or else up to three as there are items. -/
def columnsPerRow (props : Props) (items : Nat) : Nat :=
  match (props.value? ["columns", "perRow"]).bind Value.number? with
  | none => min (max items 1) 3
  | some x => if x.isAtLeastOne then min x.wholePart mostColumns else min (max items 1) 3

/-- The cell of a column: its title and its content. -/
def columnCell (item : Props) : Forest :=
  let title := (item.text? titleNames).map fun title => [heading "3" title]
  let content := (item.text? ["content", "text"]).map fun content => [textElement content]
  Forest.lines (title.toList ++ content.toList)

/-- Columns side by side. -/
def columnsNode (node : Node) : Rendering := do
  let items := records ["columns", "items"] node.props
  if items.isEmpty then skip node "columns"
  else return some (grid (min items.length mostColumns) (items.map columnCell))

/-- The cell of a feature. -/
def featureCell (feature : Props) : Forest :=
  let attributes := attribute? "title" (feature.text? ["title", "name"])
    ++ attribute? "icon" (feature.text? ["icon"])
  let description := (feature.text? ["description", "text", "content"]).getD ""
  [richElement ⟨"blurb", attributes⟩ description]

/-- A titled grid of features. -/
def featureGridNode (node : Node) : Rendering := do
  let features := records ["features", "items"] node.props
  if features.isEmpty then skip node "features"
  else
    let columns := columnsPerRow node.props features.length
    return some (Forest.lines (groupTitle node.props ++ [grid columns (features.map featureCell)]))

/-- The cell of a statistic. -/
def statisticCell (statistic : Props) : Forest :=
  let attributes := attribute? "number" (statistic.text? ["value", "number"])
    ++ attribute? "title" (statistic.text? ["label", "title"])
  [.element ⟨"counter", attributes⟩ []]

/-- A row of statistics. -/
def statsRowNode (node : Node) : Rendering := do
  let statistics := records ["stats", "items"] node.props
  if statistics.isEmpty then skip node "stats"
  else return some (grid (min statistics.length mostColumns) (statistics.map statisticCell))

end Template

end PageMarkup
