import PageMarkup.Binary64.Decimal
import PageMarkup.Json
import PageMarkup.Text.Basic

/-!
# Property values

What a page editor stores under a property name: nothing, a truth value, a number, a text, a list
or a record.  Editors drift in the names and types they use, so a property is looked up under
several names in order of preference, and scalars are read as text, number or truth value as the
place where they are used demands.
-/

namespace PageMarkup

/-- The value of a property.  The fields of a record are in key order. -/
inductive Value where
  | null
  | bool (value : Bool)
  | number (value : Binary64)
  | text (value : String)
  | list (items : List Value)
  | record (fields : List (String × Value))
  deriving Repr, Inhabited

/-- Properties by name, in key order. -/
abbrev Props := List (String × Value)

namespace Value

/-! ### Between values and JSON -/

mutual

/-- The property value that a JSON value stands for. -/
def ofJson : Json → Value
  | .null => null
  | .bool value => bool value
  | .int value => number (Binary64.ofInt value)
  | .float value => number value
  | .text value => text value
  | .array items => list (ofItems items)
  | .object fields => record (ofFields fields)

/-- The property values of a list of JSON values. -/
def ofItems : List Json → List Value
  | [] => []
  | item :: items => ofJson item :: ofItems items

/-- The property values of the fields of a JSON object. -/
def ofFields : List (String × Json) → List (String × Value)
  | [] => []
  | (name, value) :: fields => (name, ofJson value) :: ofFields fields

end

mutual

/-- The JSON value of a property value. -/
def toJson : Value → Json
  | null => .null
  | bool value => .bool value
  | number value => .float value
  | text value => .text value
  | list items => .array (toItems items)
  | record fields => .object (toFields fields)

/-- The JSON values of a list of property values. -/
def toItems : List Value → List Json
  | [] => []
  | item :: items => toJson item :: toItems items

/-- The JSON fields of a record. -/
def toFields : List (String × Value) → List (String × Json)
  | [] => []
  | (name, value) :: fields => (name, toJson value) :: toFields fields

end

/-! ### Views -/

/-- The text of a text value. -/
def string? : Value → Option String
  | text value => some value
  | _ => none

/-- The items of a list. -/
def items? : Value → Option (List Value)
  | list items => some items
  | _ => none

/-- The fields of a record. -/
def fields? : Value → Option Props
  | record fields => some fields
  | _ => none

/-- Numbers in attributes never have an exponent, and whole numbers no fraction. -/
def numberLayout : Binary64.Layout where
  leastPlain := -1100
  greatestPlain := 1100
  wholeFraction := false
  plusSign := false

/-- A number as text; both zeros are `0`. -/
def numberText (x : Binary64) : String :=
  String.ofList (numberLayout.text (if x.isZero then ⟨false, 0⟩ else x))

/-- The text of a scalar. -/
def text? : Value → Option String
  | text value => some value
  | number value => some (numberText value)
  | bool true => some "true"
  | bool false => some "false"
  | _ => none

/-- A number, or the number that a text spells. -/
def number? : Value → Option Binary64
  | number value => some value
  | text value => Binary64.read? (Text.trim value.toList)
  | _ => none

/-- The spellings of yes in a text. -/
def yesWords : List String := ["true", "on", "yes", "1"]

/-- The spellings of no in a text. -/
def noWords : List String := ["false", "off", "no", "0", ""]

/-- The position of a switch: a truth value, a number other than zero, or a word for it. -/
def switch? : Value → Option Bool
  | bool value => some value
  | number value => some !value.isZero
  | text value =>
    let word := Text.lowered (Text.trimmed value)
    if yesWords.contains word then some true
    else if noWords.contains word then some false
    else none
  | _ => none

/-- Nothing is there to show. -/
def isBlank : Value → Bool
  | null => true
  | text value => Text.allBlank value.toList
  | list items => items.isEmpty
  | record fields => fields.isEmpty
  | bool _ | number _ => false

end Value

namespace Props

/-- The values under some names that are not blank, in the order of the names. -/
def candidates (names : List String) (props : Props) : List Value :=
  (names.filterMap (Dict.get? · props)).filter fun value => !value.isBlank

/-- The first value under some names that is not blank. -/
def value? (names : List String) (props : Props) : Option Value :=
  (props.candidates names).head?

/-- The first text of a scalar under some names that is not blank. -/
def text? (names : List String) (props : Props) : Option String :=
  (props.candidates names).findSome? Value.text?

end Props

end PageMarkup
