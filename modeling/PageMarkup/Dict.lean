/-!
# Dictionaries in key order

A dictionary is a list of keys with their values in increasing order of the keys, so that two
dictionaries with the same content are equal.  Keys are ordered by code point.
-/

namespace PageMarkup

universe u

variable {α : Type u}

namespace Dict

/-- The value of a key. -/
def get? (key : String) : List (String × α) → Option α
  | [] => none
  | (k, v) :: rest => if k = key then some v else get? key rest

/-- Give a key a value, in place of the one it has. -/
def insert (key : String) (value : α) : List (String × α) → List (String × α)
  | [] => [(key, value)]
  | (k, v) :: rest =>
    if k = key then (key, value) :: rest
    else if key < k then (key, value) :: (k, v) :: rest
    else (k, v) :: insert key value rest

/-- Drop a key with its value. -/
def erase (key : String) (entries : List (String × α)) : List (String × α) :=
  entries.filter fun entry => entry.1 != key

/-- The dictionary of the entries of a list; of entries with one key the last counts. -/
def ofList (entries : List (String × α)) : List (String × α) :=
  entries.foldl (fun dict (key, value) => insert key value dict) []

/-- Change the value of a key, which is `start` where there is none yet. -/
def modify (key : String) (start : α) (change : α → α) (entries : List (String × α)) :
    List (String × α) :=
  insert key (change ((get? key entries).getD start)) entries

/-- The key has a value. -/
def has (key : String) (entries : List (String × α)) : Bool :=
  (get? key entries).isSome

@[simp] theorem get?_nil (key : String) : get? key ([] : List (String × α)) = none := rfl

/-- A key that was given a value has it. -/
@[simp] theorem get?_insert_self (key : String) (value : α) (entries : List (String × α)) :
    get? key (insert key value entries) = some value := by
  induction entries with
  | nil => simp [insert, get?]
  | cons entry rest ih =>
    obtain ⟨k, v⟩ := entry
    by_cases h : k = key
    · simp [insert, get?, h]
    · by_cases hlt : key < k <;> simp [insert, get?, h, hlt, ih]

/-- Giving one key a value leaves the others alone. -/
theorem get?_insert_of_ne {key other : String} (hne : other ≠ key) (value : α)
    (entries : List (String × α)) :
    get? other (insert key value entries) = get? other entries := by
  induction entries with
  | nil => simp [insert, get?, hne.symm]
  | cons entry rest ih =>
    obtain ⟨k, v⟩ := entry
    by_cases h : k = key
    · subst h; simp [insert, get?, hne.symm]
    · by_cases hlt : key < k
      · simp [insert, get?, h, hlt, hne.symm]
      · simp [insert, get?, h, hlt, ih]

end Dict

end PageMarkup
