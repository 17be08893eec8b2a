import Mathlib.Tactic.Common
import PageMarkup.Proofs.Text.Trimming
import PageMarkup.Text.Basic

/-!
# Beginnings of texts and replaced parts

What a text begins with, and how a replacement is undone: where a mark that a text does not hold
takes the place of a part, putting the part back for the mark gives the text back.
-/

namespace PageMarkup

namespace Text

/-! ### Beginnings -/

/-- What follows a beginning is what the beginning has to be put before. -/
theorem after?_eq_some_iff {front cs rest : List Char} :
    after? front cs = some rest ↔ cs = front ++ rest := by
  induction front generalizing cs with
  | nil => simp [after?, eq_comm]
  | cons f front ih =>
    cases cs with
    | nil => simp [after?]
    | cons c cs =>
      by_cases hfc : f = c
      · simp [after?, hfc, ih]
      · simp [after?, hfc, Ne.symm hfc]

/-- A beginning that is looked for behind blanks. -/
theorem after?_trimStart_eq_some_iff {front cs rest : List Char} {c : Char}
    (hhead : front.head? = some c) (hc : isBlank c = false) :
    after? front (trimStart cs) = some rest ↔
      ∃ blanks, allBlank blanks = true ∧ cs = blanks ++ (front ++ rest) := by
  rw [after?_eq_some_iff]
  constructor
  · intro h
    rw [← h]
    exact exists_append_trimStart cs
  · obtain ⟨more, rfl⟩ := List.head?_eq_some_iff.mp hhead
    intro h
    exact trimStart_eq_cons_iff.mpr ⟨hc, h⟩

/-! ### Replacing and putting back -/

/-- Putting a part back for the mark that replaced it gives back the text, which does not hold the
mark itself.  The induction is on the text; `skip` characters of it belong to a part whose mark has
been written. -/
theorem flatMap_replaceFrom {part : List Char} {mark : Char} {restore : Char → List Char}
    (hne : part ≠ []) (hmark : restore mark = part) {cs : List Char}
    (hother : ∀ c ∈ cs, restore c = [c]) (skip : Nat) :
    (replaceFrom part [mark] skip cs).flatMap restore = cs.drop skip := by
  induction cs generalizing skip with
  | nil => simp [replaceFrom]
  | cons c cs ih =>
    have hrest := ih fun d hd => hother d (List.mem_cons_of_mem c hd)
    cases skip with
    | succ skip => simpa [replaceFrom] using hrest skip
    | zero =>
      rw [replaceFrom]
      split
      · rename_i rest hafter
        have hsplit := after?_eq_some_iff.mp hafter
        obtain ⟨p, ps, rfl⟩ := List.exists_cons_of_ne_nil hne
        obtain ⟨rfl, hcs⟩ := List.cons.inj hsplit
        rw [List.flatMap_append, hrest]
        simp [hmark, hcs]
      · simp [hother c List.mem_cons_self, hrest]

/-- Putting a part back for the mark that replaced it gives back the text. -/
theorem flatMap_replaceAll {part : List Char} {mark : Char} {restore : Char → List Char}
    (hne : part ≠ []) (hmark : restore mark = part) {cs : List Char}
    (hother : ∀ c ∈ cs, restore c = [c]) :
    (replaceAll part [mark] cs).flatMap restore = cs :=
  flatMap_replaceFrom hne hmark hother 0

/-- A replaced text holds nothing but the mark and characters of the text. -/
theorem mem_replaceFrom {part : List Char} {mark c : Char} {cs : List Char} {skip : Nat}
    (h : c ∈ replaceFrom part [mark] skip cs) : c = mark ∨ c ∈ cs := by
  induction cs generalizing skip with
  | nil => simp [replaceFrom] at h
  | cons d cs ih =>
    cases skip with
    | succ skip =>
      have h : c ∈ replaceFrom part [mark] skip cs := by simpa [replaceFrom] using h
      rcases ih h with hmark | hcs
      · exact .inl hmark
      · exact .inr (List.mem_cons_of_mem d hcs)
    | zero =>
      rw [replaceFrom] at h
      split at h
      · rcases List.mem_append.mp h with hmark | hcs
        · exact .inl (List.mem_singleton.mp hmark)
        · exact (ih hcs).imp_right (List.mem_cons_of_mem d)
      · rcases List.mem_cons.mp h with rfl | hcs
        · exact .inr List.mem_cons_self
        · exact (ih hcs).imp_right (List.mem_cons_of_mem d)

/-- A replaced text holds nothing but the mark and characters of the text. -/
theorem mem_replaceAll {part : List Char} {mark c : Char} {cs : List Char}
    (h : c ∈ replaceAll part [mark] cs) : c = mark ∨ c ∈ cs :=
  mem_replaceFrom h

/-- A replaced text begins with the mark or as the text does. -/
theorem exists_replaceAll_cons (part : List Char) (mark c : Char) (cs : List Char) :
    ∃ first rest, replaceAll part [mark] (c :: cs) = first :: rest ∧
      (first = mark ∨ first = c) := by
  rw [replaceAll, replaceFrom]
  split
  · exact ⟨mark, _, rfl, .inl rfl⟩
  · exact ⟨c, _, rfl, .inr rfl⟩

end Text

end PageMarkup
