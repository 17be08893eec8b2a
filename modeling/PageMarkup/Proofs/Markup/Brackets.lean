import PageMarkup.Proofs.Markup.Escaping
import PageMarkup.Proofs.Text.Borders

/-!
# Putting brackets back

The two references to brackets are put back one after the other.  Neither holds the beginning of the
other, and a bracket that was put back is in neither, so it is all the same to put both back in one
pass over the text.
-/

namespace PageMarkup

open Text

namespace Text

variable {part rest : List Char} {mark c : Char} {cs : List Char}

/-- An occurrence at the beginning is replaced. -/
theorem replaceAll_append_of_ne_nil (hne : part ≠ []) (replacement rest : List Char) :
    replaceAll part replacement (part ++ rest) =
      replacement ++ replaceAll part replacement rest := by
  have hskip (skip : Nat) (cs : List Char) :
      replaceFrom part replacement skip cs = replaceFrom part replacement 0 (cs.drop skip) := by
    induction cs generalizing skip with
    | nil => cases skip <;> simp [replaceFrom]
    | cons c cs ih =>
      cases skip with
      | zero => rfl
      | succ skip => simpa [replaceFrom] using ih skip
  have hafter : after? part (part ++ rest) = some rest := after?_eq_some_iff.mpr rfl
  obtain ⟨p, ps, rfl⟩ := List.exists_cons_of_ne_nil hne
  rw [List.cons_append] at hafter ⊢
  rw [replaceAll, replaceFrom, hafter]
  dsimp only
  rw [hskip]
  simp [replaceAll]

/-- Where no occurrence begins, the character is kept. -/
theorem replaceAll_cons_of_none (h : after? part (c :: cs) = none) (replacement : List Char) :
    replaceAll part replacement (c :: cs) = c :: replaceAll part replacement cs := by
  rw [replaceAll, replaceFrom, h]
  rfl

/-- A beginning of a replaced text that does not hold the mark is one of the text. -/
theorem exists_of_replaceAll_eq {front : List Char} (hmark : mark ∉ front)
    (h : replaceAll part [mark] cs = front ++ rest) : ∃ more, cs = front ++ more := by
  induction front generalizing cs with
  | nil => exact ⟨cs, rfl⟩
  | cons d front ih =>
    rw [List.mem_cons, not_or] at hmark
    cases cs with
    | nil => simp [replaceAll, replaceFrom] at h
    | cons c cs =>
      cases hafter : after? part (c :: cs) with
      | some found =>
        rw [replaceAll, replaceFrom, hafter] at h
        exact absurd (List.cons.inj h).1 hmark.1
      | none =>
        rw [replaceAll_cons_of_none hafter] at h
        obtain ⟨rfl, htail⟩ := List.cons.inj h
        obtain ⟨more, rfl⟩ := ih hmark.2 htail
        exact ⟨more, rfl⟩

end Text

namespace Escape

/-- A reference to a bracket. -/
def readBracket : Reader Char := fun cs =>
  match after? "&#91;".toList cs with
  | some rest => some ('[', rest)
  | none => (after? "&#93;".toList cs).map fun rest => (']', rest)

/-- A reference to a bracket is one of two texts. -/
theorem readBracket_eq_some_iff {cs rest : List Char} {c : Char} :
    readBracket cs = some (c, rest) ↔
      (c = '[' ∧ cs = "&#91;".toList ++ rest) ∨ (c = ']' ∧ cs = "&#93;".toList ++ rest) := by
  unfold readBracket
  cases hopen : after? "&#91;".toList cs with
  | some more =>
    obtain rfl := after?_eq_some_iff.mp hopen
    simp only [Option.some.injEq, Prod.mk.injEq]
    constructor
    · rintro ⟨rfl, rfl⟩
      exact .inl ⟨rfl, rfl⟩
    · rintro (⟨rfl, hrest⟩ | ⟨-, hrest⟩)
      · exact ⟨rfl, List.append_cancel_left hrest⟩
      · simp at hrest
  | none =>
    have hnone (h : cs = "&#91;".toList ++ rest) : False := by
      rw [after?_eq_some_iff.mpr h] at hopen
      cases hopen
    simp only [Option.map_eq_some_iff, Prod.mk.injEq, after?_eq_some_iff]
    constructor
    · rintro ⟨more, hmore, rfl, rfl⟩
      exact .inr ⟨rfl, hmore⟩
    · rintro (⟨-, h⟩ | ⟨rfl, h⟩)
      · exact (hnone h).elim
      · exact ⟨rest, h, rfl, rfl⟩

theorem progresses_readBracket : Progresses readBracket := by
  intro cs c rest h
  rcases readBracket_eq_some_iff.mp h with ⟨-, rfl⟩ | ⟨-, rfl⟩
  · exact ⟨"&#91;".toList, by simp, rfl⟩
  · exact ⟨"&#93;".toList, by simp, rfl⟩

theorem isDecided_readBracket : IsDecided readBracket := by
  intro part rest c other h
  rcases readBracket_eq_some_iff.mp h with ⟨rfl, hpart⟩ | ⟨rfl, hpart⟩
  · exact readBracket_eq_some_iff.mpr (.inl ⟨rfl, by rw [List.append_cancel_right hpart]⟩)
  · exact readBracket_eq_some_iff.mpr (.inr ⟨rfl, by rw [List.append_cancel_right hpart]⟩)

/-- A character that is in neither reference is in none. -/
theorem isFree_readBracket {d : Char} (hd : d ∉ "&#91;".toList ++ "&#93;".toList) :
    IsFree (IsRecognized readBracket) d := by
  rw [List.mem_append, not_or] at hd
  rintro mark ⟨c, hmark⟩
  rcases readBracket_eq_some_iff.mp hmark with ⟨-, rfl⟩ | ⟨-, rfl⟩
  · simpa using hd.1
  · simpa using hd.2

/-- The reference to an opening bracket is replaced. -/
theorem unbracket_open_append (cs : List Char) :
    unbracket ("&#91;".toList ++ cs) = '[' :: unbracket cs := by
  rw [unbracket, replaceAll_append_of_ne_nil (by simp), List.cons_append, List.nil_append,
    replaceAll_cons_of_none (by simp [after?])]
  rfl

/-- The reference to a closing bracket is replaced. -/
theorem unbracket_close_append (cs : List Char) :
    unbracket ("&#93;".toList ++ cs) = ']' :: unbracket cs := by
  have hkept : replaceAll "&#91;".toList ['['] ("&#93;".toList ++ cs) =
      "&#93;".toList ++ replaceAll "&#91;".toList ['['] cs := by
    simp [replaceAll, replaceFrom, after?]
  rw [unbracket, hkept, replaceAll_append_of_ne_nil (by simp)]
  rfl

/-- A character that begins no reference is kept.  Where opening brackets were put back no reference
to a closing bracket has come to begin. -/
theorem unbracket_cons_of_none {c : Char} {cs : List Char} (h : readBracket (c :: cs) = none) :
    unbracket (c :: cs) = c :: unbracket cs := by
  have hnone : ∀ d rest, ¬((d = '[' ∧ c :: cs = "&#91;".toList ++ rest) ∨
      (d = ']' ∧ c :: cs = "&#93;".toList ++ rest)) := by
    intro d rest hfound
    rw [readBracket_eq_some_iff.mpr hfound] at h
    cases h
  have hopen : after? "&#91;".toList (c :: cs) = none :=
    Option.eq_none_iff_forall_ne_some.mpr fun rest hrest =>
      hnone '[' rest (.inl ⟨rfl, after?_eq_some_iff.mp hrest⟩)
  have hclose : after? "&#93;".toList (c :: replaceAll "&#91;".toList ['['] cs) = none := by
    refine Option.eq_none_iff_forall_ne_some.mpr fun rest hrest => ?_
    have hmark : "&#93;".toList = '&' :: "#93;".toList := by simp
    have hboth := after?_eq_some_iff.mp hrest
    rw [hmark, List.cons_append] at hboth
    obtain ⟨rfl, htail⟩ := List.cons.inj hboth
    obtain ⟨more, rfl⟩ := exists_of_replaceAll_eq (by simp) htail
    exact hnone ']' more (.inr ⟨rfl, by rw [hmark, List.cons_append]⟩)
  rw [unbracket, replaceAll_cons_of_none hopen, replaceAll_cons_of_none hclose, unbracket]

/-- Brackets are put back where a reference to one is read. -/
theorem unbracket_eq (cs : List Char) :
    unbracket cs = replaceFound readBracket (fun c _ => [c]) cs := by
  induction cs using progresses_readBracket.induction with
  | nil => rfl
  | char c cs hread ih =>
    rw [unbracket_cons_of_none hread, replaceFound_cons_of_none hread, ih]
  | found c part rest hne hread ih =>
    rw [replaceFound_append_of_some hne hread, ← ih]
    rcases readBracket_eq_some_iff.mp hread with ⟨rfl, hpart⟩ | ⟨rfl, hpart⟩
    · rw [List.append_cancel_right hpart]
      exact unbracket_open_append rest
    · rw [List.append_cancel_right hpart]
      exact unbracket_close_append rest

end Escape

end PageMarkup
