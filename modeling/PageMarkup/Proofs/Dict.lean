import Mathlib.Data.List.Perm.Basic
import PageMarkup.Dict

/-!
# Entries of dictionaries

A key that is given a value keeps one entry.  What stands in a dictionary was put there, and where
the keys are different each entry is found by its key.
-/

namespace PageMarkup

namespace Dict

variable {α : Type} {key : String} {value : α} {entries : List (String × α)}

/-- The entries of a dictionary in which a key was given a value are that one and old ones. -/
theorem mem_insert {entry : String × α} (h : entry ∈ insert key value entries) :
    entry = (key, value) ∨ entry ∈ entries := by
  induction entries with
  | nil => exact .inl (List.mem_singleton.mp h)
  | cons first rest ih =>
    obtain ⟨k, v⟩ := first
    rw [insert] at h
    split at h
    · exact (List.mem_cons.mp h).imp_right (List.mem_cons_of_mem _)
    · split at h
      · exact List.mem_cons.mp h
      · rcases List.mem_cons.mp h with h | h
        · exact .inr (h ▸ List.mem_cons_self)
        · exact (ih h).imp_right (List.mem_cons_of_mem _)

/-- The entries of the dictionary of a list are entries of the list. -/
theorem mem_of_mem_ofList {entry : String × α} (h : entry ∈ ofList entries) : entry ∈ entries := by
  -- Entries are given to a dictionary that grows, so the induction starts from any.
  have hfold (dict : List (String × α))
      (h : entry ∈ entries.foldl (fun dict (key, value) => insert key value dict) dict) :
      entry ∈ dict ∨ entry ∈ entries := by
    clear * - h
    induction entries generalizing dict with
    | nil => exact .inl h
    | cons first rest ih =>
      rcases ih _ h with h | h
      · rcases mem_insert h with rfl | h
        · exact .inr List.mem_cons_self
        · exact .inl h
      · exact .inr (List.mem_cons_of_mem first h)
  exact (hfold [] h).resolve_left List.not_mem_nil

/-- A value that is found for a key stands in an entry. -/
theorem mem_of_get? (h : get? key entries = some value) : (key, value) ∈ entries := by
  induction entries with
  | nil => exact absurd h (by simp)
  | cons first rest ih =>
    obtain ⟨k, v⟩ := first
    rw [get?] at h
    split at h
    · rename_i hkey
      obtain rfl := Option.some.inj h
      exact hkey ▸ List.mem_cons_self
    · exact List.mem_cons_of_mem _ (ih h)

/-- Of entries with different keys each has the value of its key. -/
theorem get?_of_mem (hnodup : (entries.map Prod.fst).Nodup) (h : (key, value) ∈ entries) :
    get? key entries = some value := by
  induction entries with
  | nil => exact absurd h List.not_mem_nil
  | cons entry rest ih =>
    obtain ⟨hentry, hrest⟩ := List.nodup_cons.mp hnodup
    rcases List.mem_cons.mp h with rfl | h
    · simp [get?]
    · have hne : entry.1 ≠ key := by
        rintro rfl
        exact hentry (List.mem_map.mpr ⟨_, h, rfl⟩)
      rw [get?, if_neg hne]
      exact ih hrest h

/-- In the dictionary of a list a key has the last value that the list gives it. -/
theorem get?_ofList (key : String) (entries : List (String × α)) :
    get? key (ofList entries) = entries.reverse.lookup key := by
  have hfold (dict : List (String × α)) :
      get? key (entries.foldl (fun dict (key, value) => insert key value dict) dict) =
        (entries.reverse.lookup key).or (get? key dict) := by
    induction entries generalizing dict with
    | nil => rfl
    | cons entry rest ih =>
      obtain ⟨k, v⟩ := entry
      rw [List.foldl_cons, ih, List.reverse_cons, List.lookup_append, Option.or_assoc,
        List.lookup_cons]
      by_cases hkey : key = k
      · subst hkey
        rw [get?_insert_self, beq_self_eq_true]
        rfl
      · rw [get?_insert_of_ne hkey, beq_eq_false_iff_ne.mpr hkey]
        rfl
  have hall := hfold []
  rwa [get?_nil, Option.or_none] at hall

/-- Of two values that a key is given in turn the second stays. -/
theorem insert_insert (value next : α) :
    insert key next (insert key value entries) = insert key next entries := by
  induction entries with
  | nil => simp [insert]
  | cons entry rest ih =>
    obtain ⟨k, v⟩ := entry
    by_cases hkey : k = key
    · simp [insert, hkey]
    · by_cases hlt : key < k <;> simp [insert, hkey, hlt, ih]

/-- A key without a value gets a new entry. -/
theorem insert_perm (value : α) (h : get? key entries = none) :
    (insert key value entries).Perm ((key, value) :: entries) := by
  induction entries with
  | nil => exact List.Perm.refl _
  | cons entry rest ih =>
    obtain ⟨k, v⟩ := entry
    rw [get?] at h
    split at h
    · exact absurd h (by simp)
    · rename_i hkey
      rw [insert, if_neg hkey]
      split
      · exact List.Perm.refl _
      · exact ((ih h).cons (k, v)).trans (List.Perm.swap _ _ rest)

/-- The keys without a value are those of no entry. -/
theorem get?_eq_none_iff : get? key entries = none ↔ key ∉ entries.map Prod.fst := by
  induction entries with
  | nil => simp
  | cons entry rest ih =>
    obtain ⟨k, v⟩ := entry
    rw [get?, List.map_cons, List.mem_cons, not_or]
    by_cases hkey : k = key
    · simp [hkey]
    · simp [hkey, ih, Ne.symm hkey]

/-! ### Order -/

/-- The entries are in increasing order of their keys. -/
def IsSorted (entries : List (String × α)) : Prop :=
  entries.Pairwise fun entry next => entry.1 < next.1

/-- Of two different keys of which one is not less the other is. -/
theorem lt_of_not_lt {key other : String} (hne : other ≠ key) (h : ¬key < other) : other < key := by
  by_contra hlt
  exact hne (String.le_antisymm (String.not_lt.mp h) (String.not_lt.mp hlt))

/-- A key that is given a value leaves the keys in order. -/
theorem isSorted_insert (h : IsSorted entries) : IsSorted (insert key value entries) := by
  induction entries with
  | nil => exact List.pairwise_singleton _ _
  | cons entry rest ih =>
    obtain ⟨hentry, hrest⟩ := List.pairwise_cons.mp h
    obtain ⟨k, v⟩ := entry
    rw [insert]
    split
    · rename_i hkey
      exact List.pairwise_cons.mpr ⟨fun next hnext => hkey ▸ hentry next hnext, hrest⟩
    · rename_i hkey
      split
      · rename_i hlt
        refine List.pairwise_cons.mpr ⟨fun next hnext => ?_, h⟩
        rcases List.mem_cons.mp hnext with rfl | hnext
        · exact hlt
        · exact String.lt_trans hlt (hentry next hnext)
      · rename_i hlt
        refine List.pairwise_cons.mpr ⟨fun next hnext => ?_, ih hrest⟩
        rcases mem_insert hnext with rfl | hnext
        · exact lt_of_not_lt hkey hlt
        · exact hentry next hnext

/-- The keys of the dictionary of a list are in order. -/
theorem isSorted_ofList (entries : List (String × α)) : IsSorted (ofList entries) := by
  have hfold (dict : List (String × α)) (h : IsSorted dict) :
      IsSorted (entries.foldl (fun dict (key, value) => insert key value dict) dict) := by
    induction entries generalizing dict with
    | nil => exact h
    | cons entry rest ih => exact ih _ (isSorted_insert h)
  exact hfold [] List.Pairwise.nil

/-- A key that is greater than all others comes last. -/
theorem insert_eq_append (h : ∀ entry ∈ entries, entry.1 < key) :
    insert key value entries = entries ++ [(key, value)] := by
  induction entries with
  | nil => rfl
  | cons entry rest ih =>
    obtain ⟨k, v⟩ := entry
    have hlt : k < key := h (k, v) List.mem_cons_self
    have hne : k ≠ key := fun heq => String.lt_irrefl key (heq ▸ hlt)
    rw [insert, if_neg hne, if_neg (String.lt_asymm hlt),
      ih fun entry hentry => h entry (List.mem_cons_of_mem _ hentry)]
    rfl

/-- A dictionary is the one of its entries. -/
theorem ofList_of_isSorted (h : IsSorted entries) : ofList entries = entries := by
  have hfold (dict : List (String × α)) (hdict : IsSorted (dict ++ entries)) :
      entries.foldl (fun dict (key, value) => insert key value dict) dict = dict ++ entries := by
    clear h
    induction entries generalizing dict with
    | nil => exact (List.append_nil dict).symm
    | cons entry rest ih =>
      obtain ⟨k, v⟩ := entry
      have hlast : ∀ other ∈ dict, other.1 < k := fun other hother =>
        (List.pairwise_append.mp hdict).2.2 other hother (k, v) List.mem_cons_self
      have happend : dict ++ (k, v) :: rest = dict ++ [(k, v)] ++ rest := by simp
      rw [List.foldl_cons]
      dsimp only
      rw [insert_eq_append hlast, happend]
      exact ih _ (happend ▸ hdict)
  exact hfold [] h

/-- What is left of a dictionary is in order. -/
theorem IsSorted.erase (h : IsSorted entries) (key : String) : IsSorted (erase key entries) :=
  List.Pairwise.filter _ h

/-- A key that is dropped has no value. -/
theorem get?_erase_self (key : String) (entries : List (String × α)) :
    get? key (erase key entries) = none := by
  rw [get?_eq_none_iff]
  intro hkey
  obtain ⟨entry, hentry, hname⟩ := List.mem_map.mp hkey
  have hne := (List.mem_filter.mp hentry).2
  simp [hname] at hne

/-- A key that was given a value and is dropped leaves the others. -/
theorem erase_insert (value : α) (h : get? key entries = none) :
    erase key (insert key value entries) = entries := by
  have hself {entries : List (String × α)} (h : get? key entries = none) :
      erase key entries = entries := by
    rw [erase, List.filter_eq_self]
    intro entry hentry
    rw [get?_eq_none_iff] at h
    simpa using fun hname : entry.1 = key => h (List.mem_map.mpr ⟨entry, hentry, hname⟩)
  induction entries with
  | nil => simp [insert, erase]
  | cons entry rest ih =>
    obtain ⟨k, v⟩ := entry
    have hcons := hself h
    rw [get?] at h
    split at h
    · exact absurd h (by simp)
    · rename_i hkey
      rw [insert, if_neg hkey]
      split
      · rw [erase, List.filter_cons_of_neg (by simp)]
        exact hcons
      · rw [erase, List.filter_cons_of_pos (by simpa using hkey)]
        exact congrArg ((k, v) :: ·) (ih h)

end Dict

end PageMarkup
