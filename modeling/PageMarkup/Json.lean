import PageMarkup.Binary64
import PageMarkup.Dict

/-!
# JSON values

A number without a fraction and an exponent that fits 64 bits is kept as an integer; every other
number is a finite binary floating point number.
-/

namespace PageMarkup

/-- A JSON value. -/
inductive Json where
  | null
  | bool (value : Bool)
  | int (value : Int)
  | float (value : Binary64)
  | text (value : String)
  | array (items : List Json)
  | object (fields : List (String × Json))
  deriving Repr, Inhabited

namespace Json

/-- The value of a field of an object. -/
def field? (name : String) : Json → Option Json
  | object fields => Dict.get? name fields
  | _ => none

/-- The text of a text value. -/
def text? : Json → Option String
  | text value => some value
  | _ => none

/-- An object with its fields in key order; of fields with one name the last counts. -/
def ofFields (fields : List (String × Json)) : Json :=
  object (Dict.ofList fields)

end Json

end PageMarkup
