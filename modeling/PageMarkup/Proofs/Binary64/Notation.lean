import Mathlib.Tactic.Common
import PageMarkup.Value

/-!
# Numbers as texts

Whatever a number is, its text has a character that is not blank.  The small whole numbers that
count columns are read back as what they are.
-/

namespace PageMarkup

open Text

namespace Binary64

/-- Some character of the text is not blank. -/
def IsWritten (cs : List Char) : Prop :=
  ∃ c ∈ cs, isBlank c = false

theorem IsWritten.append_right {cs : List Char} (h : IsWritten cs) (front : List Char) :
    IsWritten (front ++ cs) := by
  obtain ⟨c, hc, hblank⟩ := h
  exact ⟨c, List.mem_append_right front hc, hblank⟩

/-- A text with a point in it is not blank. -/
theorem isWritten_pointAfter {count : Nat} {digits : List Char}
    (h : ∀ c ∈ digits, isBlank c = false) (hcount : digits.length ≤ count → digits ≠ []) :
    IsWritten (pointAfter count digits) := by
  rw [pointAfter]
  split
  · rename_i hlength
    obtain ⟨c, cs, rfl⟩ := List.exists_cons_of_ne_nil (hcount hlength)
    exact ⟨c, List.mem_cons_self, h c List.mem_cons_self⟩
  · exact ⟨'.', by simp, by decide⟩

/-- Plain notation is not blank. -/
theorem isWritten_plain (wholeFraction : Bool) {digits : List Char}
    (h : ∀ c ∈ digits, isBlank c = false) (top : Int) :
    IsWritten (plain wholeFraction digits top) := by
  rw [plain]
  split
  · exact ⟨'0', by simp, by decide⟩
  · dsimp only
    split
    · rename_i hlength
      cases digits with
      | nil =>
        refine ⟨'0', ?_, by decide⟩
        simp
      | cons c cs => exact ⟨c, by simp, h c List.mem_cons_self⟩
    · rename_i hlength
      exact isWritten_pointAfter h fun hle => absurd hle hlength

/-- Exponent notation is not blank. -/
theorem isWritten_scientific (plusSign : Bool) (digits : List Char) (top : Int) :
    IsWritten (scientific plusSign digits top) :=
  ⟨'e', by simp [scientific], by decide⟩

/-- The digits of a number are not blank. -/
theorem isBlank_of_mem_toDigits {n : Nat} {c : Char} (h : c ∈ Nat.toDigits 10 n) :
    isBlank c = false := by
  have hdigit := Nat.isDigit_of_mem_toDigits (by decide) (by decide) h
  simp only [Char.isDigit, Bool.and_eq_true, decide_eq_true_eq] at hdigit
  have hlow : 48 ≤ c.toNat := hdigit.1
  have hhigh : c.toNat ≤ 57 := hdigit.2
  simp only [isBlank]
  simp
  omega

/-- The text of a magnitude is not blank. -/
theorem Layout.isWritten_magnitude (layout : Layout) (magnitude : Nat) :
    IsWritten (layout.magnitude magnitude) := by
  rw [Layout.magnitude]
  split
  · refine isWritten_plain _ (fun c hc => ?_) 0
    obtain rfl := List.mem_singleton.mp hc
    decide
  · split
    · exact ⟨'N', by decide, by decide⟩
    · split
      · exact ⟨'i', by decide, by decide⟩
      · dsimp only
        split
        · refine isWritten_plain _ (fun c hc => ?_) _
          refine isBlank_of_mem_toDigits (n := (shortest magnitude).1) ?_
          rw [dropEndWhile, List.mem_reverse] at hc
          exact List.mem_reverse.mp ((List.dropWhile_sublist _).mem hc)
        · exact isWritten_scientific _ _ _

/-- The text of a number is not blank. -/
theorem allBlank_numberText (x : Binary64) : allBlank (Value.numberText x).toList = false := by
  rw [Value.numberText, String.toList_ofList, Layout.text]
  obtain ⟨c, hc, hblank⟩ := (Layout.isWritten_magnitude Value.numberLayout _).append_right _
  rw [Bool.eq_false_iff]
  intro hall
  rw [List.all_eq_true.mp hall c hc] at hblank
  exact absurd hblank (by decide)

/-- The small whole numbers are read back as what they are. -/
theorem wholePart_ofNat {n : Nat} (hlow : 1 ≤ n) (hhigh : n ≤ 6) :
    (ofNat n).isAtLeastOne = true ∧ (ofNat n).wholePart = n := by
  have hcases : n = 1 ∨ n = 2 ∨ n = 3 ∨ n = 4 ∨ n = 5 ∨ n = 6 := by omega
  rcases hcases with rfl | rfl | rfl | rfl | rfl | rfl <;> decide +kernel

end Binary64

end PageMarkup
