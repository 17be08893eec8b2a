import PageMarkup.Binary64
import PageMarkup.Dict

/-!
# TOML tables

A table gives values to keys, and some values are tables again.  How a table came to be decides
whether more may be said about it later: a table with a header of its own is complete with that
header, a table that was written in braces is complete at once, and a table that is only named on the
way to another stays open.
-/

namespace PageMarkup

namespace Toml

/-- How a table came to be. -/
inductive Origin where
  /-- It has a header. -/
  | header
  /-- A header names it on the way to another table. -/
  | implied
  /-- A dotted key names it. -/
  | dotted
  /-- It is written in braces. -/
  | braces
  deriving DecidableEq, Repr, Inhabited

end Toml

/-- A value. -/
inductive Toml where
  | text (value : String)
  | integer (value : Int)
  | float (value : Binary64)
  /-- A number out of reach. -/
  | beyond
  | bool (value : Bool)
  /-- A date, a time, or both, as it is written. -/
  | moment (source : List Char)
  | array (items : List Toml)
  /-- The tables of one repeated header. -/
  | tables (items : List (List (String × Toml)))
  | table (origin : Toml.Origin) (fields : List (String × Toml))
  deriving Repr, Inhabited

namespace Toml

/-- The fields of a table, in key order. -/
abbrev Fields := List (String × Toml)

/-! ### Reach -/

mutual

/-- No number in a value is out of reach. -/
def isInReach : Toml → Bool
  | beyond => false
  | array items => areInReach items
  | tables items => tablesInReach items
  | table _ fields => fieldsInReach fields
  | _ => true

/-- No number in some values is out of reach. -/
def areInReach : List Toml → Bool
  | [] => true
  | item :: items => isInReach item && areInReach items

/-- No number in some fields is out of reach. -/
def fieldsInReach : List (String × Toml) → Bool
  | [] => true
  | (_, value) :: fields => isInReach value && fieldsInReach fields

/-- No number in some tables is out of reach. -/
def tablesInReach : List (List (String × Toml)) → Bool
  | [] => true
  | fields :: more => fieldsInReach fields && tablesInReach more

end

/-! ### Building tables -/

/-- The table that a key leads to, with its origin and a way to put a changed one in its place.  A
table that is missing is made.  A repeated header leads to its last table; a table in braces cannot
be entered, nor by a dotted key one that has a header. -/
def enter (byDots : Bool) : Option Toml → Option (Origin × Fields × (Origin → Fields → Toml))
  | none => some (if byDots then .dotted else .implied, [], table)
  | some (table origin fields) =>
    if origin = .braces || (byDots && origin = .header) then none else some (origin, fields, table)
  | some (tables items) =>
    items.getLast?.map fun last => (.header, last, fun _ fields => tables (items.dropLast ++ [fields]))
  | some _ => none

/-- Follow keys from a table to one inside it and change that. -/
def within (byDots : Bool) (change : Origin → Fields → Option (Origin × Fields)) :
    List String → Origin → Fields → Option (Origin × Fields)
  | [], origin, fields => change origin fields
  | key :: keys, origin, fields => do
    let (inside, inner, replace) ← enter byDots (Dict.get? key fields)
    let (inside, inner) ← within byDots change keys inside inner
    some (origin, Dict.insert key (replace inside inner) fields)

/-- Give a dotted key a value.  A key counts once, and a dotted key only adds to tables that dotted
keys have made. -/
def assign (key : List String) (value : Toml) (origin : Origin) (fields : Fields) :
    Option (Origin × Fields) := do
  let name ← key.getLast?
  let way := key.dropLast
  within (!way.isEmpty) (fun inside inner =>
    if (inside = .dotted) == way.isEmpty || Dict.has name inner then none
    else some (inside, Dict.insert name value inner)) way origin fields

/-- Begin the table of a header. -/
def openTable (key : List String) (fields : Fields) : Option Fields := do
  let name ← key.getLast?
  let (_, fields) ← within false (fun inside inner =>
    match Dict.get? name inner with
    | none => some (inside, Dict.insert name (table .header []) inner)
    | some (table .implied fields) => some (inside, Dict.insert name (table .header fields) inner)
    | some _ => none) key.dropLast .header fields
  some fields

/-- Begin one more table of a repeated header. -/
def openRepeated (key : List String) (fields : Fields) : Option Fields := do
  let name ← key.getLast?
  let (_, fields) ← within false (fun inside inner =>
    match Dict.get? name inner with
    | none => some (inside, Dict.insert name (tables [[]]) inner)
    | some (tables items) => some (inside, Dict.insert name (tables (items ++ [[]])) inner)
    | some _ => none) key.dropLast .header fields
  some fields

/-- Give a dotted key a value in the table of the header that was begun last. -/
def assignAt (header key : List String) (value : Toml) (fields : Fields) : Option Fields := do
  let (_, fields) ← within false (assign key value) header .header fields
  some fields

/-- The table in braces that gives some dotted keys their values. -/
def ofAssignments (assignments : List (List String × Toml)) : Option Toml := do
  let (_, fields) ← assignments.foldlM
    (fun ((origin, fields) : Origin × Fields) (key, value) => assign key value origin fields)
    (Origin.braces, [])
  some (table .braces fields)

end Toml

end PageMarkup
