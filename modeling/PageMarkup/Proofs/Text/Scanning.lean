import Mathlib.Tactic.Common
import PageMarkup.Text.Basic
import PageMarkup.Text.Scan

/-!
# Scanning a text whose parts are known

A scan of a text that begins with a part the reader recognizes finds that part first and goes on
behind it; where the reader recognizes nothing, one character is passed.  This file proves the two
steps for scanning and for reading one part after another, and the law for replacing.
-/

namespace PageMarkup

universe u

variable {α : Type u}

namespace Text

/-! ### Scanning -/

/-- Characters that belong to a part that has been read are passed over. -/
theorem scanFrom_eq_scan_drop (read : Reader α) (skip : Nat) (cs : List Char) :
    scanFrom read skip cs = scan read (cs.drop skip) := by
  induction cs generalizing skip with
  | nil => cases skip <;> simp [scan, scanFrom]
  | cons c cs ih =>
    cases skip with
    | zero => rfl
    | succ skip => simpa [scanFrom] using ih skip

@[simp] theorem scan_nil (read : Reader α) : scan read [] = [] := rfl

/-- Where nothing is recognized, one character is passed. -/
theorem scan_cons_of_none {read : Reader α} {c : Char} {cs : List Char}
    (h : read (c :: cs) = none) : scan read (c :: cs) = .char c :: scan read cs := by
  simp [scan, scanFrom, h]

/-- A part that is recognized is found, and the scan goes on behind it. -/
theorem scan_append_of_some {read : Reader α} {part rest : List Char} {value : α}
    (hne : part ≠ []) (h : read (part ++ rest) = some (value, rest)) :
    scan read (part ++ rest) = .found value part :: scan read rest := by
  obtain ⟨c, cs, rfl⟩ := List.exists_cons_of_ne_nil hne
  rw [List.cons_append] at h ⊢
  have hlength : (cs ++ rest).length - rest.length = cs.length := by simp
  rw [scan, scanFrom, h]
  simp [scanFrom_eq_scan_drop]

/-! ### Texts in which nothing begins -/

/-- Nothing is recognized that begins in a text with more behind it. -/
def Misses (read : List Char → Option α) (text rest : List Char) : Prop :=
  ∀ before c after, text = before ++ c :: after → read (c :: (after ++ rest)) = none

section

variable {read : List Char → Option α} {text rest : List Char}

theorem misses_nil (rest : List Char) : Misses read [] rest := by
  intro before c after h
  simp at h

theorem Misses.head {c : Char} (h : Misses read (c :: text) rest) :
    read (c :: (text ++ rest)) = none :=
  h [] c text rfl

theorem Misses.tail {c : Char} (h : Misses read (c :: text) rest) : Misses read text rest :=
  fun before d after htext => h (c :: before) d after (by rw [htext]; rfl)

/-- Nothing begins in a text at no character of which anything is recognized. -/
theorem misses_of_forall (h : ∀ c ∈ text, ∀ cs, read (c :: cs) = none) :
    Misses read text rest := by
  intro before c after htext
  refine h c ?_ _
  rw [htext]
  exact List.mem_append_right before List.mem_cons_self

/-- A search misses a text if it misses its beginning, with the end behind it, and its end. -/
theorem Misses.append {front : List Char} (hfront : Misses read front (text ++ rest))
    (htext : Misses read text rest) : Misses read (front ++ text) rest := by
  induction front with
  | nil => exact htext
  | cons c front ih =>
    intro before d after h
    cases before with
    | nil =>
      obtain ⟨rfl, rfl⟩ := List.cons.inj h
      have hhead := hfront.head
      rwa [← List.append_assoc] at hhead
    | cons e before => exact ih hfront.tail before d after (List.cons.inj h).2

end

/-- A text in which nothing begins is passed as it is. -/
theorem scan_append_of_misses {read : Reader α} {run rest : List Char} (h : Misses read run rest) :
    scan read (run ++ rest) = run.map Piece.char ++ scan read rest := by
  induction run with
  | nil => rfl
  | cons c run ih =>
    rw [List.cons_append, scan_cons_of_none h.head, ih h.tail]
    rfl

/-- A text at no character of which anything is recognized is passed as it is. -/
theorem scan_append_of_forall {read : Reader α} {run : List Char}
    (h : ∀ c ∈ run, ∀ cs, read (c :: cs) = none) (rest : List Char) :
    scan read (run ++ rest) = run.map Piece.char ++ scan read rest :=
  scan_append_of_misses (misses_of_forall h)

/-! ### What is found -/

theorem exists_of_mem_scanFrom {read : Reader α} {skip : Nat} {cs source : List Char} {value : α}
    (h : .found value source ∈ scanFrom read skip cs) :
    ∃ start rest, read start = some (value, rest) := by
  induction cs generalizing skip with
  | nil => simp [scanFrom] at h
  | cons c cs ih =>
    cases skip with
    | succ skip => exact ih h
    | zero =>
      rw [scanFrom] at h
      split at h
      · exact ih (List.mem_of_ne_of_mem (by simp) h)
      · rename_i found rest hread
        rcases List.mem_cons.mp h with hfirst | hmore
        · obtain ⟨rfl, -⟩ := Piece.found.inj hfirst
          exact ⟨c :: cs, rest, hread⟩
        · exact ih hmore

/-- Nothing is found in a text in which nothing begins. -/
theorem findAll_append_of_misses {read : Reader α} {run rest : List Char}
    (h : Misses read run rest) : findAll read (run ++ rest) = findAll read rest := by
  have hnone : (run.map Piece.char).filterMap Piece.value? = ([] : List α) := by
    rw [List.filterMap_eq_nil_iff]
    intro piece hpiece
    obtain ⟨c, -, rfl⟩ := List.mem_map.mp hpiece
    rfl
  rw [findAll, scan_append_of_misses h, List.filterMap_append, hnone]
  rfl

theorem findAll_append_of_some {read : Reader α} {part rest : List Char} {value : α}
    (hne : part ≠ []) (h : read (part ++ rest) = some (value, rest)) :
    findAll read (part ++ rest) = value :: findAll read rest := by
  rw [findAll, scan_append_of_some hne h]
  rfl

/-- What is found in a text was recognized somewhere in it. -/
theorem exists_of_mem_findAll {read : Reader α} {cs : List Char} {value : α}
    (h : value ∈ findAll read cs) : ∃ start rest, read start = some (value, rest) := by
  obtain ⟨piece, hpiece, hvalue⟩ := List.mem_filterMap.mp h
  cases piece with
  | char c => exact absurd hvalue (by simp [Piece.value?])
  | found found source =>
    obtain rfl : found = value := Option.some.inj hvalue
    exact exists_of_mem_scanFrom hpiece

/-! ### Replacing -/

/-- A character at which nothing is recognized is kept. -/
theorem replaceFound_cons_of_none {read : Reader α} {replacement : α → List Char → List Char}
    {c : Char} {cs : List Char} (h : read (c :: cs) = none) :
    replaceFound read replacement (c :: cs) = c :: replaceFound read replacement cs := by
  simp [replaceFound, scan_cons_of_none h]

/-- A part that is recognized is replaced. -/
theorem replaceFound_append_of_some {read : Reader α}
    {replacement : α → List Char → List Char} {part rest : List Char} {value : α}
    (hne : part ≠ []) (h : read (part ++ rest) = some (value, rest)) :
    replaceFound read replacement (part ++ rest) =
      replacement value part ++ replaceFound read replacement rest := by
  simp [replaceFound, scan_append_of_some hne h]

/-! ### Reading one part after another -/

/-- Reading many parts goes on behind the characters that have been read. -/
theorem readManyFrom_eq_readMany_drop (read : Reader α) (skip : Nat) (cs : List Char) :
    readManyFrom read skip cs = readMany read (cs.drop skip) := by
  induction cs generalizing skip with
  | nil => cases skip <;> simp [readMany, readManyFrom]
  | cons c cs ih =>
    cases skip with
    | zero => rfl
    | succ skip => simpa [readManyFrom] using ih skip

/-- Where nothing is recognized, reading ends. -/
theorem readMany_of_none {read : Reader α} {cs : List Char} (h : read cs = none) :
    readMany read cs = ([], cs) := by
  cases cs with
  | nil => rfl
  | cons c cs => simp [readMany, readManyFrom, h]

/-- A part that is recognized is the first of the parts that are read. -/
theorem readMany_append_of_some {read : Reader α} {part rest : List Char} {value : α}
    (hne : part ≠ []) (h : read (part ++ rest) = some (value, rest)) :
    readMany read (part ++ rest) =
      (value :: (readMany read rest).1, (readMany read rest).2) := by
  obtain ⟨c, cs, rfl⟩ := List.exists_cons_of_ne_nil hne
  rw [List.cons_append] at h ⊢
  rw [readMany, readManyFrom, h]
  simp [readManyFrom_eq_readMany_drop]

/-- Parts that are recognized one after another are read one after another. -/
theorem readMany_flatMap {β : Type*} {read : Reader α} (write : β → List Char) (value : β → α)
    {items : List β} {rest : List Char} (hne : ∀ item ∈ items, write item ≠ [])
    (h : ∀ item ∈ items, ∀ cs, read (write item ++ cs) = some (value item, cs))
    (hrest : read rest = none) :
    readMany read (items.flatMap write ++ rest) = (items.map value, rest) := by
  induction items with
  | nil => exact readMany_of_none hrest
  | cons item items ih =>
    have hitem := h item List.mem_cons_self (items.flatMap write ++ rest)
    have hitems := ih (fun other hother => hne other (List.mem_cons_of_mem item hother))
      (fun other hother => h other (List.mem_cons_of_mem item hother))
    rw [List.flatMap_cons, List.append_assoc,
      readMany_append_of_some (hne item List.mem_cons_self) hitem, hitems]
    rfl

/-- What is read are parts that are recognized one after another, up to the first place at which
nothing is. -/
theorem exists_readMany {β : Type*} {read : Reader α} {write : β → List Char} {value : β → α}
    {IsPart : β → Prop} (hread : ∀ cs found rest, read cs = some (found, rest) →
      ∃ item, IsPart item ∧ write item ≠ [] ∧ cs = write item ++ rest ∧ found = value item)
    (cs : List Char) :
    ∃ items : List β, (∀ item ∈ items, IsPart item) ∧ (readMany read cs).1 = items.map value ∧
      cs = items.flatMap write ++ (readMany read cs).2 ∧
      (∀ found rest, read (readMany read cs).2 ≠ some (found, rest)) := by
  induction hsize : cs.length using Nat.strongRecOn generalizing cs with
  | ind n ih =>
    cases hfirst : read cs with
    | none =>
      rw [readMany_of_none hfirst]
      exact ⟨[], List.forall_mem_nil _, rfl, rfl, by simp [hfirst]⟩
    | some parts =>
      obtain ⟨item, hitem, hne, hcs, hvalue⟩ := hread cs parts.1 parts.2 hfirst
      have hlength : parts.2.length < n := by
        have hpos := List.length_pos_iff.mpr hne
        rw [← hsize, hcs, List.length_append]
        omega
      obtain ⟨items, hitems, hvalues, hrest, hend⟩ := ih _ hlength parts.2 rfl
      have hmany : readMany read (write item ++ parts.2) = _ :=
        readMany_append_of_some hne (hcs ▸ hfirst)
      rw [← hcs] at hmany
      rw [hmany]
      refine ⟨item :: items, List.forall_mem_cons.mpr ⟨hitem, hitems⟩, ?_, ?_, hend⟩
      · rw [List.map_cons, hvalues, hvalue]
      · rw [List.flatMap_cons, List.append_assoc, ← hrest, ← hcs]

/-! ### Runs -/

/-- A run of characters that satisfy `p` ends at the first one that does not. -/
theorem spanWhile_append_of_forall {p : Char → Bool} {run rest : List Char}
    (hrun : ∀ c ∈ run, p c = true) (hrest : ∀ c ∈ rest.head?, p c = false) :
    spanWhile p (run ++ rest) = (run, rest) := by
  rw [spanWhile, List.takeWhile_append_of_pos hrun, List.dropWhile_append_of_pos hrun]
  cases rest with
  | nil => simp
  | cons c rest =>
    have hc : p c = false := hrest c rfl
    simp [hc]

/-- A run is what stands before the first character that does not satisfy `p`. -/
theorem spanWhile_eq_iff {p : Char → Bool} {cs run rest : List Char} :
    spanWhile p cs = (run, rest) ↔
      cs = run ++ rest ∧ (∀ c ∈ run, p c = true) ∧ ∀ c ∈ rest.head?, p c = false := by
  constructor
  · intro h
    obtain ⟨rfl, rfl⟩ := Prod.mk.inj h
    have hrun : (cs.takeWhile p).all p = true := List.all_takeWhile
    have hrest := List.head?_dropWhile_not p cs
    refine ⟨List.takeWhile_append_dropWhile.symm, List.all_eq_true.mp hrun, fun c hc => ?_⟩
    rw [Option.mem_def] at hc
    rw [hc] at hrest
    exact hrest
  · rintro ⟨rfl, hrun, hrest⟩
    exact spanWhile_append_of_forall hrun hrest

/-- A text up to the first occurrence of a character, and from there on. -/
theorem spanWhile_bne_eq_iff {c d : Char} {cs run rest : List Char} :
    spanWhile (· != c) cs = (run, d :: rest) ↔ d = c ∧ c ∉ run ∧ cs = run ++ c :: rest := by
  rw [spanWhile_eq_iff]
  constructor
  · rintro ⟨rfl, hrun, hrest⟩
    obtain rfl : d = c := by simpa using hrest d rfl
    exact ⟨rfl, fun hmem => absurd (hrun d hmem) (by simp), rfl⟩
  · rintro ⟨rfl, hrun, rfl⟩
    refine ⟨rfl, fun e he => ?_, by simp⟩
    rw [bne_iff_ne]
    rintro rfl
    exact hrun he

/-- The parts before and after the first occurrence of a character are determined by the text. -/
theorem eq_and_eq_of_append_cons {c : Char} {before after before' after' : List Char}
    (h : before ++ c :: after = before' ++ c :: after') (hbefore : c ∉ before)
    (hbefore' : c ∉ before') : before = before' ∧ after = after' := by
  have hfirst : spanWhile (· != c) (before ++ c :: after) = (before, c :: after) :=
    spanWhile_bne_eq_iff.mpr ⟨rfl, hbefore, rfl⟩
  have hsecond : spanWhile (· != c) (before ++ c :: after) = (before', c :: after') :=
    spanWhile_bne_eq_iff.mpr ⟨rfl, hbefore', h⟩
  obtain ⟨rfl, hcons⟩ := Prod.mk.inj (hfirst.symm.trans hsecond)
  exact ⟨rfl, (List.cons.inj hcons).2⟩

end Text

end PageMarkup
