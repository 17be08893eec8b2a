import PageMarkup.Store

/-!
# Stores that are maps

A store is a map if what is saved under an id is what is loaded under it from then on, while what is
loaded under every other id stays as it was.
-/

namespace PageMarkup

namespace Store

variable {κ : Type}

/-- What is loaded under an id is what was saved under it last. -/
structure IsMap (store : Store κ) : Prop where
  load_save : ∀ {id doc docs after}, store.save id doc docs = .ok after →
    store.load id after = .ok doc
  load_save_of_ne : ∀ {id other doc docs after}, store.save id doc docs = .ok after →
    other ≠ id → store.load other after = store.load other docs

/-- The store of a dictionary, with ids that name files. -/
def dictionary : Store (List (String × Document)) where
  load id docs :=
    if PageId.isValid id then
      match Dict.get? id docs with
      | some doc => .ok doc
      | none => .error (.notFound id)
    else .error (.invalidId id)
  save id doc docs :=
    if PageId.isValid id then .ok (Dict.insert id doc docs) else .error (.invalidId id)

theorem isMap_dictionary : dictionary.IsMap where
  load_save {id doc docs after} h := by
    simp only [dictionary] at h ⊢
    split at h
    · rename_i hid
      obtain rfl := Except.ok.inj h
      rw [if_pos hid, Dict.get?_insert_self]
    · exact absurd h (by simp)
  load_save_of_ne {id other doc docs after} h hne := by
    simp only [dictionary] at h ⊢
    split at h
    · obtain rfl := Except.ok.inj h
      rw [Dict.get?_insert_of_ne hne]
    · exact absurd h (by simp)

end Store

end PageMarkup
