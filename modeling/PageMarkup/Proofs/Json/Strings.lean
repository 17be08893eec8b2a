import Mathlib.Data.List.Basic
import PageMarkup.Json.Printer
import PageMarkup.Json.Tree

/-!
# Strings that were printed

Every character of a text is printed as itself or as an escape, and either is read as its code
point.  A character is never half of a surrogate pair, so the code points are joined to the text.
-/

namespace PageMarkup

namespace Json

/-! ### Characters -/

/-- A code point is read before what follows it. -/
def readOn (unit : Nat) (read : Option (List Nat × List Char)) : Option (List Nat × List Char) :=
  read.map fun (units, rest) => (unit :: units, rest)

/-- An escape with digits stands for their value. -/
theorem readString_digits {a b c d : Char} {unit : Nat} (h : unit? a b c d = some unit)
    (rest : List Char) :
    readString ('\\' :: 'u' :: a :: b :: c :: d :: rest) = readOn unit (readString rest) := by
  rw [readString, h]
  cases readString rest with
  | none => rfl
  | some read => rfl

/-- An escape of two characters stands for one. -/
theorem readString_escape {c : Char} {unit : Nat} (hc : c ≠ 'u') (h : escaped? c = some unit)
    (rest : List Char) : readString ('\\' :: c :: rest) = readOn unit (readString rest) := by
  have hread : readString ('\\' :: c :: rest) = (do
      let unit ← escaped? c
      let (units, rest) ← readString rest
      some (unit :: units, rest)) := by
    rw [readString]
    rintro _ _ _ _ _ rfl
    exact absurd rfl hc
  rw [hread, h]
  cases readString rest with
  | none => rfl
  | some read => rfl

/-- Every other character stands for itself. -/
theorem readString_cons {c : Char} (hquote : c ≠ '"') (hslash : c ≠ '\\') (h : ¬c.toNat < 0x20)
    (rest : List Char) : readString (c :: rest) = readOn c.toNat (readString rest) := by
  have hread : readString (c :: rest) = (do
      if c = '\\' || c.toNat < 0x20 then none
      let (units, rest) ← readString rest
      some (c.toNat :: units, rest)) := by
    rw [readString]
    · exact hquote
    · rintro _ _ _ _ _ rfl
      exact absurd rfl hslash
    · rintro _ _ rfl
      exact absurd rfl hslash
  rw [hread]
  simp only [hslash, h, decide_false, Bool.or_self, Bool.false_eq_true, if_false]
  cases readString rest with
  | none => rfl
  | some read => rfl

/-- The digits of a control character have its value. -/
theorem unit?_hexPadded {n : Nat} (h : n < 0x20) :
    ∃ a b c d, hexPadded 4 n = [a, b, c, d] ∧ unit? a b c d = some n := by
  have hall : ∀ n < 0x20, (hexPadded 4 n).length = 4 ∧
      unit? ((hexPadded 4 n).getD 0 ' ') ((hexPadded 4 n).getD 1 ' ')
        ((hexPadded 4 n).getD 2 ' ') ((hexPadded 4 n).getD 3 ' ') = some n := by decide
  obtain ⟨hlength, hunit⟩ := hall n h
  obtain ⟨a, b, c, d, hdigits⟩ := List.length_eq_four.mp hlength
  rw [hdigits] at hunit
  exact ⟨a, b, c, d, hdigits, hunit⟩

/-- However a character is printed, it is read as what it is. -/
theorem readString_stringChar (c : Char) (rest : List Char) :
    readString (stringChar c ++ rest) = readOn c.toNat (readString rest) := by
  rw [stringChar]
  split
  · rename_i hc
    exact readString_escape (by decide) (by rw [hc]; rfl) rest
  split
  · rename_i hc
    exact readString_escape (by decide) (by rw [hc]; rfl) rest
  split
  · rename_i hc
    exact readString_escape (by decide) (by rw [hc]; rfl) rest
  split
  · rename_i hc
    exact readString_escape (by decide) (by rw [hc]; rfl) rest
  split
  · rename_i hc
    exact readString_escape (by decide) (by rw [hc]; rfl) rest
  split
  · rename_i hc
    exact readString_escape (by decide) (by rw [hc]; rfl) rest
  split
  · rename_i hc
    exact readString_escape (by decide) (by rw [hc]; rfl) rest
  split
  · rename_i hcontrol
    obtain ⟨a, b, d, e, hdigits, hunit⟩ := unit?_hexPadded hcontrol
    rw [hdigits]
    exact readString_digits hunit rest
  · rename_i hquote hslash _ _ _ _ _ hcontrol
    exact readString_cons hquote hslash hcontrol rest

/-! ### Texts -/

/-- A text is read up to the quote that ends it. -/
theorem readString_flatMap (cs rest : List Char) :
    readString (cs.flatMap stringChar ++ '"' :: rest) = some (cs.map Char.toNat, rest) := by
  induction cs with
  | nil => rfl
  | cons c cs ih =>
    rw [List.flatMap_cons, List.append_assoc, readString_stringChar, ih]
    rfl

/-- No character is half of a surrogate pair. -/
theorem not_surrogate (c : Char) : ¬(0xD800 ≤ c.toNat ∧ c.toNat < 0xE000) := by
  have hvalid : c.toNat.isValidChar := c.valid
  simp only [Nat.isValidChar] at hvalid
  omega

/-- The code points of characters are joined to these characters. -/
theorem joinPairs_map_toNat (cs : List Char) : joinPairs (cs.map Char.toNat) = some cs := by
  induction cs with
  | nil => rfl
  | cons c cs ih =>
    have hc := not_surrogate c
    cases cs with
    | nil => simp [joinPairs, hc]
    | cons next cs =>
      have hhigh : ¬(0xD800 ≤ c.toNat ∧ c.toNat < 0xDC00) := by omega
      have hlow : ¬(0xDC00 ≤ c.toNat ∧ c.toNat < 0xE000) := by omega
      rw [List.map_cons, List.map_cons] at *
      rw [joinPairs]
      simp only [Bool.and_eq_true, decide_eq_true_eq, hhigh, hlow, if_false]
      rw [ih, Option.map_some, Char.ofNat_toNat]

/-- A text that was printed is read as what it is. -/
theorem readToken_string (s : String) (rest : List Char) :
    readToken (string s ++ rest) = some (.scalar (.text (some s)), rest) := by
  have hshape : string s ++ rest = '"' :: (s.toList.flatMap stringChar ++ '"' :: rest) := by
    simp [string]
  rw [hshape, readToken, readString_flatMap, Option.map_some]
  dsimp only
  rw [joinPairs_map_toNat, Option.map_some, String.ofList_toList]

end Json

end PageMarkup
