import PageMarkup.Document.Json
import PageMarkup.Proofs.Dict
import PageMarkup.Proofs.Json.RoundTrip

/-!
# Documents that were printed

A document whose properties are in key order and not nested too deeply comes back from its text, if
its numbers do.  Every document that was read is one of these.
-/

namespace PageMarkup

open Json (Tree)

/-! ### Numbers -/

namespace Binary64

/-- The number comes back from its text. -/
def ReadsBack (x : Binary64) : Prop :=
  Json.read? (Json.compact (.float x)) = some (.float x)

/-- Whether a value is some number can be decided. -/
instance decidableEqFloat (v : Option Json) (x : Binary64) : Decidable (v = some (.float x)) :=
  match v with
  | some (.float y) => decidable_of_iff (y = x) (by simp)
  | none => isFalse (by simp)
  | some .null => isFalse (by simp)
  | some (.bool _) => isFalse (by simp)
  | some (.int _) => isFalse (by simp)
  | some (.text _) => isFalse (by simp)
  | some (.array _) => isFalse (by simp)
  | some (.object _) => isFalse (by simp)

instance : DecidablePred ReadsBack := fun x =>
  inferInstanceAs (Decidable (Json.read? (Json.compact (.float x)) = some (.float x)))

/-- The literal of a number that comes back has its value. -/
theorem ReadsBack.value?_literalOf {x : Binary64} (h : x.ReadsBack) (hfinite : x.isFinite = true) :
    (Json.literalOf (Json.numberLayout.text x)).value? = some (.float x) := by
  have hread : Tree.read? (Json.compact (.float x)) = some (Json.tree (.float x)) :=
    Json.read?_indented (v := .float x) (by simpa [Json.numbers] using hfinite)
  rw [ReadsBack, Json.read?, hread] at h
  exact h

end Binary64

/-! ### Values -/

namespace Value

mutual

/-- At most `room` lists and records stand inside one another, the fields of records are in key
order, and numbers are finite. -/
def Fits (room : Nat) : Value → Prop
  | number x => x.isFinite = true
  | list items => 0 < room ∧ ItemsFit (room - 1) items
  | record fields => 0 < room ∧ Dict.IsSorted fields ∧ FieldsFit (room - 1) fields
  | _ => True

/-- All items fit. -/
def ItemsFit (room : Nat) : List Value → Prop
  | [] => True
  | item :: items => Fits room item ∧ ItemsFit room items

/-- All fields fit. -/
def FieldsFit (room : Nat) : List (String × Value) → Prop
  | [] => True
  | (_, value) :: fields => Fits room value ∧ FieldsFit room fields

end

theorem fieldsFit_iff {room : Nat} {fields : List (String × Value)} :
    FieldsFit room fields ↔ ∀ field ∈ fields, field.2.Fits room := by
  induction fields with
  | nil => simp [FieldsFit]
  | cons field fields ih => simp [FieldsFit, ih]

theorem itemsFit_iff {room : Nat} {items : List Value} :
    ItemsFit room items ↔ ∀ item ∈ items, item.Fits room := by
  induction items with
  | nil => simp [ItemsFit]
  | cons item items ih => simp [ItemsFit, ih]

mutual

/-- What fits has more room than it needs. -/
theorem Fits.mono {room more : Nat} (hle : room ≤ more) : {v : Value} → v.Fits room → v.Fits more
  | null, _ | bool _, _ | text _, _ => trivial
  | number _, h => h
  | list _, h => ⟨h.1.trans_le hle, ItemsFit.mono (Nat.sub_le_sub_right hle 1) h.2⟩
  | record _, h => ⟨h.1.trans_le hle, h.2.1, FieldsFit.mono (Nat.sub_le_sub_right hle 1) h.2.2⟩

theorem ItemsFit.mono {room more : Nat} (hle : room ≤ more) :
    {items : List Value} → ItemsFit room items → ItemsFit more items
  | [], _ => trivial
  | _ :: _, h => ⟨Fits.mono hle h.1, ItemsFit.mono hle h.2⟩

theorem FieldsFit.mono {room more : Nat} (hle : room ≤ more) :
    {fields : List (String × Value)} → FieldsFit room fields → FieldsFit more fields
  | [], _ => trivial
  | _ :: _, h => ⟨Fits.mono hle h.1, FieldsFit.mono hle h.2⟩

end

theorem toFields_eq_map (fields : List (String × Value)) :
    toFields fields = fields.map fun field => (field.1, field.2.toJson) := by
  induction fields with
  | nil => rfl
  | cons field fields ih => rw [toFields, ih, List.map_cons]

theorem ofFields_eq_map (fields : List (String × Json)) :
    ofFields fields = fields.map fun field => (field.1, ofJson field.2) := by
  induction fields with
  | nil => rfl
  | cons field fields ih => rw [ofFields, ih, List.map_cons]

mutual

/-- A value is the one of its JSON value. -/
theorem ofJson_toJson : (v : Value) → ofJson v.toJson = v
  | null | bool _ | number _ | text _ => rfl
  | list items => by rw [toJson, ofJson, ofItems_toItems items]
  | record fields => by rw [toJson, ofJson, ofFields_toFields fields]

theorem ofItems_toItems : (items : List Value) → ofItems (toItems items) = items
  | [] => rfl
  | item :: items => by rw [toItems, ofItems, ofJson_toJson item, ofItems_toItems items]

/-- Fields are those of their JSON values. -/
theorem ofFields_toFields : (fields : List (String × Value)) → ofFields (toFields fields) = fields
  | [] => rfl
  | (name, value) :: fields => by
    rw [toFields, ofFields, ofJson_toJson value, ofFields_toFields fields]

end

/-- Fields in key order are so as JSON. -/
theorem isSorted_toFields {fields : List (String × Value)} (h : Dict.IsSorted fields) :
    Dict.IsSorted (toFields fields) := by
  rw [toFields_eq_map]
  exact List.pairwise_map.mpr h

mutual

/-- The tree of a value that fits has the value, if the numbers come back. -/
theorem value?_tree : (v : Value) → (room : Nat) → v.Fits room →
    (∀ x ∈ v.toJson.numbers, x.ReadsBack) → (Json.tree v.toJson).value? room = some v.toJson
  | null, _, _, _ | bool _, _, _, _ | text _, _, _, _ => rfl
  | number x, room, hfinite, h => (h x (List.mem_singleton_self x)).value?_literalOf hfinite
  | list items, room, hfits, h => by
    rw [toJson, Json.tree, Tree.value?, if_neg (by have := hfits.1; omega),
      values?_trees items (room - 1) hfits.2 h]
    rfl
  | record fields, room, hfits, h => by
    rw [toJson, Json.tree, Tree.value?, if_neg (by have := hfits.1; omega),
      fieldValues?_fieldTrees fields (room - 1) hfits.2.2 h, Option.map_some, Json.ofFields,
      Dict.ofList_of_isSorted (isSorted_toFields hfits.2.1)]

/-- The trees of items that fit have their values. -/
theorem values?_trees : (items : List Value) → (room : Nat) → ItemsFit room items →
    (∀ x ∈ Json.numbersOfItems (toItems items), x.ReadsBack) →
      Tree.values? room (Json.trees (toItems items)) = some (toItems items)
  | [], _, _, _ => rfl
  | item :: items, room, hfits, h => by
    have hitem := value?_tree item room hfits.1 fun x hx => h x (List.mem_append_left _ hx)
    have hitems := values?_trees items room hfits.2 fun x hx => h x (List.mem_append_right _ hx)
    rw [toItems, Json.trees, Tree.values?, hitem, hitems]
    rfl

/-- The trees of fields that fit have their values. -/
theorem fieldValues?_fieldTrees : (fields : List (String × Value)) → (room : Nat) →
    FieldsFit room fields → (∀ x ∈ Json.numbersOfFields (toFields fields), x.ReadsBack) →
      Tree.fieldValues? room (Json.fieldTrees (toFields fields)) = some (toFields fields)
  | [], _, _, _ => rfl
  | (name, value) :: fields, room, hfits, h => by
    have hvalue := value?_tree value room hfits.1 fun x hx => h x (List.mem_append_left _ hx)
    have hfields := fieldValues?_fieldTrees fields room hfits.2
      fun x hx => h x (List.mem_append_right _ hx)
    rw [toFields, Json.fieldTrees, Tree.fieldValues?, hvalue, hfields]
    rfl

end

mutual

/-- The numbers in a value that fits are finite. -/
theorem isFinite_of_mem_numbers : (v : Value) → (room : Nat) → v.Fits room →
    ∀ x ∈ v.toJson.numbers, x.isFinite = true
  | null, _, _, x, hx | bool _, _, _, x, hx | text _, _, _, x, hx => absurd hx List.not_mem_nil
  | number y, _, hfits, x, hx => by
    obtain rfl := List.mem_singleton.mp hx
    exact hfits
  | list items, room, hfits, x, hx =>
    isFinite_of_mem_numbersOfItems items (room - 1) hfits.2 x hx
  | record fields, room, hfits, x, hx =>
    isFinite_of_mem_numbersOfFields fields (room - 1) hfits.2.2 x hx

/-- The numbers in items that fit are finite. -/
theorem isFinite_of_mem_numbersOfItems : (items : List Value) → (room : Nat) → ItemsFit room items →
    ∀ x ∈ Json.numbersOfItems (toItems items), x.isFinite = true
  | [], _, _, x, hx => absurd hx List.not_mem_nil
  | item :: items, room, hfits, x, hx => by
    rcases List.mem_append.mp hx with hx | hx
    · exact isFinite_of_mem_numbers item room hfits.1 x hx
    · exact isFinite_of_mem_numbersOfItems items room hfits.2 x hx

/-- The numbers in fields that fit are finite. -/
theorem isFinite_of_mem_numbersOfFields : (fields : List (String × Value)) → (room : Nat) →
    FieldsFit room fields → ∀ x ∈ Json.numbersOfFields (toFields fields), x.isFinite = true
  | [], _, _, x, hx => absurd hx List.not_mem_nil
  | (name, value) :: fields, room, hfits, x, hx => by
    rcases List.mem_append.mp hx with hx | hx
    · exact isFinite_of_mem_numbers value room hfits.1 x hx
    · exact isFinite_of_mem_numbersOfFields fields room hfits.2 x hx

end

/-! ### Values that were read -/

/-- The value of a literal is a finite number. -/
theorem fits_of_literal {l : Json.Literal} {v : Json} (h : l.value? = some v) (room : Nat) :
    (ofJson v).Fits room := by
  rcases Json.Literal.isInt_or_isFinite_of_value? h with ⟨n, rfl, hn⟩ | ⟨x, rfl, hx⟩
  · exact Binary64.isFinite_ofInt hn
  · exact hx

mutual

/-- A value that was read fits. -/
theorem fits_of_value? : (tree : Tree) → (room : Nat) → (v : Json) → tree.value? room = some v →
    (ofJson v).Fits room
  | .null, _, v, h | .bool _, _, v, h => by
    obtain rfl := Option.some.inj h
    trivial
  | .number l, room, v, h => fits_of_literal h room
  | .text s, _, v, h => by
    obtain ⟨s, -, rfl⟩ := Option.map_eq_some_iff.mp h
    trivial
  | .array trees, room, v, h => by
    rw [Tree.value?] at h
    split at h
    · exact absurd h (by simp)
    · rename_i hroom
      obtain ⟨items, hitems, rfl⟩ := Option.map_eq_some_iff.mp h
      exact ⟨by omega, itemsFit_of_values? trees (room - 1) items hitems⟩
  | .object trees, room, v, h => by
    rw [Tree.value?] at h
    split at h
    · exact absurd h (by simp)
    · rename_i hroom
      obtain ⟨fields, hfields, rfl⟩ := Option.map_eq_some_iff.mp h
      have hfit := fieldsFit_of_fieldValues? trees (room - 1) fields hfields
      refine ⟨by omega, ?_, ?_⟩
      · rw [ofFields_eq_map]
        exact List.pairwise_map.mpr (Dict.isSorted_ofList fields)
      · rw [ofFields_eq_map, fieldsFit_iff, List.forall_mem_map] at hfit ⊢
        exact fun field hfield => hfit field (Dict.mem_of_mem_ofList hfield)

/-- Items that were read fit. -/
theorem itemsFit_of_values? : (trees : List Tree) → (room : Nat) → (items : List Json) →
    Tree.values? room trees = some items → ItemsFit room (ofItems items)
  | [], _, items, h => by
    obtain rfl := Option.some.inj h
    trivial
  | tree :: trees, room, items, h => by
    obtain ⟨item, hitem, h⟩ := Option.bind_eq_some_iff.mp h
    obtain ⟨others, hothers, h⟩ := Option.bind_eq_some_iff.mp h
    obtain rfl := Option.some.inj h
    exact ⟨fits_of_value? tree room item hitem, itemsFit_of_values? trees room others hothers⟩

/-- Fields that were read fit. -/
theorem fieldsFit_of_fieldValues? : (trees : List (Option String × Tree)) → (room : Nat) →
    (fields : List (String × Json)) → Tree.fieldValues? room trees = some fields →
      FieldsFit room (ofFields fields)
  | [], _, fields, h => by
    obtain rfl := Option.some.inj h
    trivial
  | (name, tree) :: trees, room, fields, h => by
    obtain ⟨name, -, h⟩ := Option.bind_eq_some_iff.mp h
    obtain ⟨value, hvalue, h⟩ := Option.bind_eq_some_iff.mp h
    obtain ⟨others, hothers, h⟩ := Option.bind_eq_some_iff.mp h
    obtain rfl := Option.some.inj h
    exact ⟨fits_of_value? tree room value hvalue,
      fieldsFit_of_fieldValues? trees room others hothers⟩

end

end Value

/-! ### Properties -/

/-- There is one less room inside. -/
theorem Json.eq_of_inside? {room inside : Nat} (h : Tree.inside? room = some inside) :
    inside = room - 1 := by
  rw [Tree.inside?] at h
  split at h
  · exact absurd h (by simp)
  · exact (Option.some.inj h).symm

namespace Props

/-- The properties are in key order, at most `room` lists and records stand inside one another, and
numbers are finite. -/
structure IsStorable (room : Nat) (props : Props) : Prop where
  sorted : Dict.IsSorted props
  fits : Value.FieldsFit room props

/-- Properties come back from their tree. -/
theorem IsStorable.ofTree? {room : Nat} {props : Props} (h : props.IsStorable room)
    (hnumbers : ∀ x ∈ Json.numbersOfFields (Value.toFields props), x.ReadsBack) :
    Props.ofTree? (room + 1) (Json.tree (.object (Value.toFields props))) = some props := by
  have hvalue := Value.value?_tree (.record props) (room + 1)
    ⟨Nat.succ_pos room, h.sorted, h.fits⟩ hnumbers
  rw [Value.toJson] at hvalue
  rw [Props.ofTree?, hvalue]
  exact congrArg some (Value.ofFields_toFields props)

/-- Properties that were read are storable. -/
theorem isStorable_of_ofTree? {room : Nat} {tree : Tree} {props : Props}
    (h : Props.ofTree? room tree = some props) : props.IsStorable (room - 1) := by
  obtain ⟨v, hv, h⟩ := Option.bind_eq_some_iff.mp h
  have hfits := Value.fits_of_value? tree room v hv
  cases v with
  | object fields =>
    obtain rfl := Option.some.inj h
    exact ⟨hfits.2.1, hfits.2.2⟩
  | null | bool _ | int _ | float _ | text _ | array _ => exact absurd h (by simp)

theorem isStorable_of_ofSlot? {room : Nat} {slot : Option Tree} {props : Props}
    (h : Props.ofSlot? room slot = some props) : props.IsStorable (room - 1) := by
  cases slot with
  | none =>
    obtain rfl := Option.some.inj h
    exact ⟨List.Pairwise.nil, trivial⟩
  | some tree => exact isStorable_of_ofTree? h

end Props

/-! ### Nodes -/

/-- The names that kinds are known by. -/
def Kind.knownNames : List String :=
  ["Section", "Heading", "Text", "Paragraph", "Image", "Button", "Divider", "Spacer", "Columns",
   "Card", "FeatureGrid", "PricingCards", "Testimonial", "StatsRow", "Stats", "Faq", "FAQ", "Hero"]

/-- A kind that was named is the one of its name. -/
theorem Kind.ofName_name_ofName (name : String) : ofName (ofName name).name = ofName name := by
  by_cases hknown : name ∈ knownNames
  · have hall : ∀ name ∈ knownNames, ofName (ofName name).name = ofName name := by decide
    exact hall name hknown
  · simp only [knownNames, List.mem_cons, List.not_mem_nil, or_false, not_or] at hknown
    have hunknown : ofName name = .unknown name := by
      simp only [ofName, hknown, decide_false, Bool.or_self, Bool.false_eq_true, if_false]
    rw [hunknown]
    exact hunknown

namespace Node

/-- The node is as it is stored: its kind is the one of its name, its id is none of its properties,
and these are storable. -/
structure IsStorable (room : Nat) (node : Node) : Prop where
  kind : Kind.ofName node.kind.name = node.kind
  noId : Dict.get? "id" node.props = none
  props : node.props.IsStorable room

/-- A node with its id among its properties is the node. -/
theorem IsStorable.ofProps {room : Nat} {node : Node} (h : node.IsStorable room) :
    Node.ofProps node.kind.name (Dict.insert "id" (.text node.id) node.props) = node := by
  rw [Node.ofProps, h.kind, Dict.get?_insert_self, Dict.erase_insert _ h.noId]
  rfl

/-- A storable node may stand less deep. -/
theorem IsStorable.mono {room more : Nat} {node : Node} (h : node.IsStorable room)
    (hle : room ≤ more) : node.IsStorable more where
  kind := h.kind
  noId := h.noId
  props := ⟨h.props.sorted, h.props.fits.mono hle⟩

/-- The id may stand among the properties. -/
theorem IsStorable.withId {room : Nat} {node : Node} (h : node.IsStorable room) :
    Props.IsStorable room (Dict.insert "id" (.text node.id) node.props) := by
  refine ⟨Dict.isSorted_insert h.props.sorted, Value.fieldsFit_iff.mpr fun field hfield => ?_⟩
  rcases Dict.mem_insert hfield with rfl | hfield
  · trivial
  · exact Value.fieldsFit_iff.mp h.props.fits field hfield

/-- The numbers in a node are those among its properties. -/
theorem mem_numbers_toJson {node : Node} {x : Binary64} : x ∈ node.toJson.numbers ↔
    x ∈ Json.numbersOfFields (Value.toFields (Dict.insert "id" (.text node.id) node.props)) := by
  simp [toJson, Json.numbers, Json.numbersOfFields]

/-- The numbers in a storable node are finite. -/
theorem IsStorable.isFinite_of_mem {room : Nat} {node : Node} (h : node.IsStorable room)
    {x : Binary64} (hx : x ∈ node.toJson.numbers) : x.isFinite = true :=
  Value.isFinite_of_mem_numbersOfFields _ room h.withId.fits x (mem_numbers_toJson.mp hx)

/-- A node comes back from its tree. -/
theorem IsStorable.ofTree? {room : Nat} {node : Node} (h : node.IsStorable room)
    (hnumbers : ∀ x ∈ node.toJson.numbers, x.ReadsBack) :
    Node.ofTree? (room + 2) (Json.tree node.toJson) = some node := by
  have hread := h.withId.ofTree? fun x hx => hnumbers x (mem_numbers_toJson.mpr hx)
  have hslots : Tree.slots? ["type", "props"] (Json.tree node.toJson) =
      some [some (.text (some node.kind.name)), some (Json.tree
        (.object (Value.toFields (Dict.insert "id" (.text node.id) node.props))))] := rfl
  have hroom : Tree.inside? (room + 2) = some (room + 1) := rfl
  simp only [Node.ofTree?, hroom, hslots, Option.bind_eq_bind, Option.bind_some, Props.ofSlot?,
    hread, h.ofProps]

/-- A node of storable properties is storable. -/
theorem isStorable_ofProps {room : Nat} {props : Props} (h : props.IsStorable room)
    (kind : String) : (Node.ofProps kind props).IsStorable room where
  kind := Kind.ofName_name_ofName kind
  noId := Dict.get?_erase_self "id" props
  props := by
    refine ⟨h.sorted.erase "id", Value.fieldsFit_iff.mpr fun field hfield => ?_⟩
    exact Value.fieldsFit_iff.mp h.fits field (List.mem_of_mem_filter hfield)

/-- A node that was read is storable. -/
theorem isStorable_of_ofTree? {room : Nat} {tree : Tree} {node : Node}
    (h : Node.ofTree? room tree = some node) : node.IsStorable (room - 2) := by
  obtain ⟨inside, hinside, h⟩ := Option.bind_eq_some_iff.mp h
  obtain ⟨slots, hslots, h⟩ := Option.bind_eq_some_iff.mp h
  obtain rfl := Json.eq_of_inside? hinside
  split at h
  · rename_i kind props
    obtain ⟨kind, -, h⟩ := Option.bind_eq_some_iff.mp h
    obtain ⟨props, hprops, h⟩ := Option.bind_eq_some_iff.mp h
    obtain rfl := Option.some.inj h
    exact isStorable_ofProps (Props.isStorable_of_ofSlot? hprops) kind
  · exact absurd h (by simp)

end Node

/-! ### Lists of nodes -/

/-- What is read one by one is read all together. -/
theorem mapM_map_of_forall {α β : Type} {read : β → Option α} {write : α → β} {items : List α}
    (h : ∀ item ∈ items, read (write item) = some item) :
    (items.map write).mapM read = some items := by
  induction items with
  | nil => rfl
  | cons item items ih =>
    rw [List.map_cons, List.mapM_cons, h item List.mem_cons_self,
      ih fun other hother => h other (List.mem_cons_of_mem item hother)]
    rfl

/-- What is read all together was read one by one. -/
theorem exists_mem_of_mapM {α β : Type} {read : α → Option β} {items : List α} {values : List β}
    (h : items.mapM read = some values) :
    ∀ value ∈ values, ∃ item ∈ items, read item = some value := by
  induction items generalizing values with
  | nil =>
    obtain rfl := Option.some.inj h
    simp
  | cons item items ih =>
    rw [List.mapM_cons] at h
    obtain ⟨first, hfirst, h⟩ := Option.bind_eq_some_iff.mp h
    obtain ⟨others, hothers, h⟩ := Option.bind_eq_some_iff.mp h
    obtain rfl := Option.some.inj h
    intro value hvalue
    rcases List.mem_cons.mp hvalue with rfl | hvalue
    · exact ⟨item, List.mem_cons_self, hfirst⟩
    · obtain ⟨other, hother, hread⟩ := ih hothers value hvalue
      exact ⟨other, List.mem_cons_of_mem item hother, hread⟩

namespace Json

theorem trees_eq_map (items : List Json) : trees items = items.map tree := by
  induction items with
  | nil => rfl
  | cons item items ih => rw [trees, ih, List.map_cons]

theorem fieldTrees_eq_map (fields : List (String × Json)) :
    fieldTrees fields = fields.map fun field => (some field.1, tree field.2) := by
  induction fields with
  | nil => rfl
  | cons field fields ih => rw [fieldTrees, ih, List.map_cons]

/-- The numbers of a list are those of its items. -/
theorem mem_numbersOfItems {x : Binary64} {items : List Json} :
    x ∈ numbersOfItems items ↔ ∃ item ∈ items, x ∈ numbers item := by
  induction items with
  | nil => simp [numbersOfItems]
  | cons item items ih => simp [numbersOfItems, ih]

/-- The numbers of a record are those of its fields. -/
theorem mem_numbersOfFields {x : Binary64} {fields : List (String × Json)} :
    x ∈ numbersOfFields fields ↔ ∃ field ∈ fields, x ∈ numbers field.2 := by
  induction fields with
  | nil => simp [numbersOfFields]
  | cons field fields ih => simp [numbersOfFields, ih]

end Json

namespace Node

/-- Nodes come back from the tree of their list. -/
theorem listOfTree?_tree {room : Nat} {nodes : List Node} (h : ∀ node ∈ nodes, node.IsStorable room)
    (hnumbers : ∀ x ∈ Json.numbersOfItems (nodes.map toJson), x.ReadsBack) :
    Node.listOfTree? (room + 3) (Json.tree (.array (nodes.map toJson))) = some nodes := by
  have hroom : Tree.inside? (room + 3) = some (room + 2) := rfl
  have hread : ∀ node ∈ nodes, Node.ofTree? (room + 2) (Json.tree node.toJson) = some node :=
    fun node hnode => (h node hnode).ofTree? fun x hx =>
      hnumbers x (Json.mem_numbersOfItems.mpr ⟨_, List.mem_map_of_mem hnode, hx⟩)
  rw [Json.tree, Json.trees_eq_map, List.map_map]
  simp only [Node.listOfTree?, hroom, Option.bind_eq_bind, Option.bind_some]
  exact mapM_map_of_forall hread

/-- Nodes that were read are storable. -/
theorem forall_isStorable_of_listOfTree? {room : Nat} {tree : Tree} {nodes : List Node}
    (h : Node.listOfTree? room tree = some nodes) : ∀ node ∈ nodes, node.IsStorable (room - 3) := by
  rw [Node.listOfTree?.eq_def] at h
  split at h
  · obtain ⟨inside, hinside, h⟩ := Option.bind_eq_some_iff.mp h
    obtain rfl := Json.eq_of_inside? hinside
    intro node hnode
    obtain ⟨item, -, hitem⟩ := exists_mem_of_mapM h node hnode
    exact isStorable_of_ofTree? hitem
  · exact absurd h (by simp)

end Node

/-! ### Documents -/

namespace Document

/-- The numbers in a document. -/
def numbers (doc : Document) : List Binary64 :=
  doc.toJson.numbers

/-- The document is as it is stored: the keys of its zones are in order, and its nodes and its own
properties are storable as deep inside it as they stand. -/
structure IsStorable (doc : Document) : Prop where
  root : doc.root.IsStorable (Json.greatestNesting - 3)
  topLevel : ∀ node ∈ doc.topLevel, node.IsStorable (Json.greatestNesting - 4)
  sorted : Dict.IsSorted doc.zones
  zones : ∀ zone ∈ doc.zones, ∀ node ∈ zone.2, node.IsStorable (Json.greatestNesting - 5)

/-- The properties of the page come back from their tree. -/
theorem rootOfTree?_tree {room : Nat} {props : Props} (h : props.IsStorable room)
    (hnumbers : ∀ x ∈ Json.numbersOfFields (Value.toFields props), x.ReadsBack) :
    rootOfTree? (room + 2) (Json.tree (.object [("props", .object (Value.toFields props))])) =
      some props := by
  have hroom : Tree.inside? (room + 2) = some (room + 1) := rfl
  have hslots : Tree.slots? ["props"]
      (Json.tree (.object [("props", .object (Value.toFields props))])) =
        some [some (Json.tree (.object (Value.toFields props)))] := rfl
  simp only [rootOfTree?, hroom, hslots, Option.bind_eq_bind, Option.bind_some, Props.ofSlot?,
    h.ofTree? hnumbers]

/-- A zone as JSON. -/
def zoneJson (zone : String × List Node) : String × Json :=
  (zone.1, .array (zone.2.map Node.toJson))

/-- Zones come back from their tree. -/
theorem zonesOfTree?_tree {room : Nat} {zones : List (String × List Node)}
    (hsorted : Dict.IsSorted zones)
    (h : ∀ zone ∈ zones, ∀ node ∈ zone.2, node.IsStorable room)
    (hnumbers : ∀ x ∈ Json.numbersOfFields (zones.map zoneJson), x.ReadsBack) :
    zonesOfTree? (room + 4) (Json.tree (.object (zones.map zoneJson))) = some zones := by
  have hroom : Tree.inside? (room + 4) = some (room + 3) := rfl
  have hread : ∀ zone ∈ zones, (do
      some (← some zone.1, ← Node.listOfTree? (room + 3) (Json.tree (zoneJson zone).2))) =
        some zone := by
    intro zone hzone
    have hnodes := Node.listOfTree?_tree (h zone hzone) fun x hx =>
      hnumbers x (Json.mem_numbersOfFields.mpr ⟨_, List.mem_map_of_mem hzone, hx⟩)
    rw [zoneJson, hnodes]
    rfl
  rw [Json.tree, Json.fieldTrees_eq_map, List.map_map]
  simp only [zonesOfTree?, hroom, Option.bind_eq_bind, Option.bind_some]
  rw [mapM_map_of_forall hread]
  exact congrArg some (Dict.ofList_of_isSorted hsorted)

/-- A document comes back from its tree. -/
theorem IsStorable.ofTree? {doc : Document} (h : doc.IsStorable)
    (hnumbers : ∀ x ∈ doc.numbers, x.ReadsBack) : ofTree? (Json.tree doc.toJson) = some doc := by
  have hslots : Tree.slots? ["root", "content", "zones"] (Json.tree doc.toJson) = some [
      some (Json.tree (.object [("props", .object (Value.toFields doc.root))])),
      some (Json.tree (.array (doc.topLevel.map Node.toJson))),
      some (Json.tree (.object (doc.zones.map zoneJson)))] := rfl
  have hroom : Tree.inside? Json.greatestNesting = some 126 := rfl
  have hroot : rootOfTree? 126 _ = _ := rootOfTree?_tree h.root fun x hx => hnumbers x <|
    List.mem_append_left _ (List.mem_append_left _ hx)
  have htop : Node.listOfTree? 126 _ = _ := Node.listOfTree?_tree h.topLevel fun x hx =>
    hnumbers x <| List.mem_append_right _ (List.mem_append_left _ hx)
  have hzones : zonesOfTree? 126 _ = _ := zonesOfTree?_tree h.sorted h.zones fun x hx =>
    hnumbers x <| List.mem_append_right _ (List.mem_append_right _ (List.mem_append_left _ hx))
  simp only [Document.ofTree?, hroom, hslots, Option.bind_eq_bind, Option.bind_some, slot?, hroot,
    htop, hzones]

theorem isStorable_of_rootOfTree? {room : Nat} {tree : Tree} {props : Props}
    (h : rootOfTree? room tree = some props) : props.IsStorable (room - 2) := by
  obtain ⟨inside, hinside, h⟩ := Option.bind_eq_some_iff.mp h
  obtain ⟨slots, -, h⟩ := Option.bind_eq_some_iff.mp h
  obtain rfl := Json.eq_of_inside? hinside
  split at h
  · exact Props.isStorable_of_ofSlot? h
  · exact absurd h (by simp)

theorem isStorable_of_zonesOfTree? {room : Nat} {tree : Tree} {zones : List (String × List Node)}
    (h : zonesOfTree? room tree = some zones) :
    Dict.IsSorted zones ∧ ∀ zone ∈ zones, ∀ node ∈ zone.2, node.IsStorable (room - 4) := by
  rw [zonesOfTree?.eq_def] at h
  split at h
  · obtain ⟨inside, hinside, h⟩ := Option.bind_eq_some_iff.mp h
    obtain rfl := Json.eq_of_inside? hinside
    obtain ⟨read, hread, h⟩ := Option.bind_eq_some_iff.mp h
    obtain rfl := Option.some.inj h
    refine ⟨Dict.isSorted_ofList read, fun zone hzone => ?_⟩
    obtain ⟨⟨name, tree⟩, -, hzone⟩ := exists_mem_of_mapM hread zone (Dict.mem_of_mem_ofList hzone)
    obtain ⟨key, -, hzone⟩ := Option.bind_eq_some_iff.mp hzone
    obtain ⟨nodes, hnodes, hzone⟩ := Option.bind_eq_some_iff.mp hzone
    obtain rfl := Option.some.inj hzone
    exact Node.forall_isStorable_of_listOfTree? hnodes
  · exact absurd h (by simp)

/-- What a field gives was read, or it is missing. -/
theorem slot?_eq_some {α : Type} {default value : α} {read : Tree → Option α} {slot : Option Tree}
    (h : slot? default read slot = some value) :
    value = default ∨ ∃ tree, read tree = some value := by
  cases slot with
  | none => exact .inl (Option.some.inj h).symm
  | some tree => exact .inr ⟨tree, h⟩

/-- A document that was read is storable. -/
theorem isStorable_of_ofTree? {tree : Tree} {doc : Document} (h : ofTree? tree = some doc) :
    doc.IsStorable := by
  have hroom : Tree.inside? Json.greatestNesting = some 126 := rfl
  rw [ofTree?, hroom, Option.bind_eq_bind, Option.bind_some] at h
  obtain ⟨slots, -, h⟩ := Option.bind_eq_some_iff.mp h
  split at h
  · rename_i rootSlot topSlot zonesSlot
    obtain ⟨root, hroot, h⟩ := Option.bind_eq_some_iff.mp h
    obtain ⟨topLevel, htop, h⟩ := Option.bind_eq_some_iff.mp h
    obtain ⟨zones, hzones, h⟩ := Option.bind_eq_some_iff.mp h
    obtain rfl := Option.some.inj h
    have hzones : Dict.IsSorted zones ∧ ∀ zone ∈ zones, ∀ node ∈ zone.2, node.IsStorable 122 := by
      rcases slot?_eq_some hzones with rfl | ⟨tree, hzones⟩
      · exact ⟨List.Pairwise.nil, by simp⟩
      · exact isStorable_of_zonesOfTree? hzones
    refine ⟨?_, ?_, hzones.1, hzones.2⟩
    · rcases slot?_eq_some hroot with rfl | ⟨tree, hroot⟩
      · exact ⟨List.Pairwise.nil, trivial⟩
      · exact isStorable_of_rootOfTree? hroot
    · rcases slot?_eq_some htop with rfl | ⟨tree, htop⟩
      · simp
      · exact Node.forall_isStorable_of_listOfTree? htop
  · exact absurd h (by simp)

/-- The numbers in nodes that are storable are finite. -/
theorem isFinite_of_mem_nodes {room : Nat} {nodes : List Node}
    (h : ∀ node ∈ nodes, node.IsStorable room) {x : Binary64}
    (hx : x ∈ Json.numbersOfItems (nodes.map Node.toJson)) : x.isFinite = true := by
  obtain ⟨item, hitem, hx⟩ := Json.mem_numbersOfItems.mp hx
  obtain ⟨node, hnode, rfl⟩ := List.mem_map.mp hitem
  exact (h node hnode).isFinite_of_mem hx

/-- The numbers in a storable document are finite. -/
theorem IsStorable.isFinite_of_mem {doc : Document} (h : doc.IsStorable) {x : Binary64}
    (hx : x ∈ doc.numbers) : x.isFinite = true := by
  have hparts : x ∈ Json.numbersOfFields (Value.toFields doc.root) ∨
      x ∈ Json.numbersOfItems (doc.topLevel.map Node.toJson) ∨
        x ∈ Json.numbersOfFields (doc.zones.map zoneJson) := by
    simp only [numbers, toJson, Json.numbers, Json.numbersOfFields, List.mem_append,
      List.append_nil] at hx
    exact hx
  rcases hparts with hx | hx | hx
  · exact Value.isFinite_of_mem_numbersOfFields _ _ h.root.fits x hx
  · exact isFinite_of_mem_nodes h.topLevel hx
  · obtain ⟨field, hfield, hx⟩ := Json.mem_numbersOfFields.mp hx
    obtain ⟨zone, hzone, rfl⟩ := List.mem_map.mp hfield
    exact isFinite_of_mem_nodes (h.zones zone hzone) hx

/-- The text of a storable document is read as the document, if finite numbers come back. -/
theorem IsStorable.read?_print {doc : Document} (h : doc.IsStorable)
    (hnumbers : ∀ x ∈ doc.numbers, x.isFinite = true → x.ReadsBack) :
    read? doc.print = some doc := by
  have hfinite : ∀ x ∈ doc.numbers, x.isFinite = true := fun x hx => h.isFinite_of_mem hx
  rw [read?, print, Json.pretty, String.toList_ofList, Json.read?_indented hfinite]
  exact h.ofTree? fun x hx => hnumbers x hx (hfinite x hx)

end Document

end PageMarkup
