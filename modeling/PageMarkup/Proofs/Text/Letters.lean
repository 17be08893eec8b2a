import PageMarkup.Text.Basic

/-!
# Letters

The small letters, and what comparing letters without regard to case does to a character: capitals
become small letters, and whatever does not become one stays what it is.
-/

namespace PageMarkup

namespace Text

/-- A small ASCII letter. -/
def isSmallLetter (c : Char) : Bool :=
  'a' ≤ c && c ≤ 'z'

/-- The bounds of the small letters as numbers. -/
theorem isSmallLetter_iff {c : Char} : isSmallLetter c = true ↔ 97 ≤ c.toNat ∧ c.toNat ≤ 122 := by
  simp only [isSmallLetter, Bool.and_eq_true, decide_eq_true_eq]
  rfl

/-- The bounds of the ASCII digits as numbers. -/
theorem isAsciiDigit_iff {c : Char} : isAsciiDigit c = true ↔ 48 ≤ c.toNat ∧ c.toNat ≤ 57 := by
  simp only [isAsciiDigit, Bool.and_eq_true, decide_eq_true_eq]
  rfl

/-- A character that is no capital is its own small letter. -/
theorem toLower_eq_self {c : Char} (h : c.toNat < 65 ∨ 90 < c.toNat) : c.toLower = c := by
  refine dif_neg fun hcapital => ?_
  have hlow : 65 ≤ c.toNat := hcapital.1
  have hhigh : c.toNat ≤ 90 := hcapital.2
  omega

/-- A text without capitals is left alone by making its letters small. -/
theorem lower_eq_self {cs : List Char} (h : ∀ c ∈ cs, c.toLower = c) : lower cs = cs := by
  rw [lower]
  exact (List.map_congr_left h).trans cs.map_id

/-- A small letter is a letter. -/
theorem isLetter_of_isSmallLetter {c : Char} (h : isSmallLetter c = true) :
    isLetter c = true := by
  have hbounds := isSmallLetter_iff.mp h
  have hfold : fold c = c := by
    unfold fold
    rw [if_neg (by omega), if_neg (by omega), toLower_eq_self (by omega)]
  rw [isLetter, hfold]
  exact h

/-- What does not become a small letter stays what it is. -/
theorem eq_of_toLower_eq {c d : Char} (h : c.toLower = d) (hd : isSmallLetter d = false) :
    c = d := by
  by_cases hc : c.toNat < 65 ∨ 90 < c.toNat
  · rw [← h, toLower_eq_self hc]
  · have hcapital : c.val ≥ 'A'.val ∧ c.val ≤ 'Z'.val := by
      have hlow : 65 ≤ c.val.toNat := by
        have hval : c.val.toNat = c.toNat := rfl
        omega
      have hhigh : c.val.toNat ≤ 90 := by
        have hval : c.val.toNat = c.toNat := rfl
        omega
      exact ⟨hlow, hhigh⟩
    have hsmall : isSmallLetter c.toLower = true := by
      have hlower : c.toLower = _ := dif_pos hcapital
      rw [isSmallLetter_iff, hlower]
      have hnat : (c.val + ('a'.val - 'A'.val)).toNat = (c.val.toNat + 32) % 2 ^ 32 :=
        UInt32.toNat_add _ _
      have hval : c.val.toNat = c.toNat := rfl
      change 97 ≤ (c.val + ('a'.val - 'A'.val)).toNat ∧ (c.val + ('a'.val - 'A'.val)).toNat ≤ 122
      omega
    rw [h, hd] at hsmall
    exact absurd hsmall (by decide)

/-- What does not fold to a small letter stays what it is. -/
theorem eq_of_fold_eq {c d : Char} (h : fold c = d) (hd : isSmallLetter d = false) : c = d := by
  unfold fold at h
  split at h
  · rw [← h] at hd
    exact absurd hd (by decide)
  · split at h
    · rw [← h] at hd
      exact absurd hd (by decide)
    · exact eq_of_toLower_eq h hd

/-- Comparing with ASCII letters without regard to case, only the capitals count. -/
theorem fold_eq_of_toLower {c d : Char} (h : c.toLower = d) (hd : d.toNat < 128) : fold c = d := by
  have hsmall : c.toNat < 128 ∨ c.toNat ≤ 90 := by
    by_cases hc : c.toNat ≤ 90
    · exact .inr hc
    · rw [toLower_eq_self (by omega)] at h
      exact .inl (h ▸ hd)
  unfold fold
  rw [if_neg (by omega), if_neg (by omega)]
  exact h

/-- A text of ASCII characters. -/
def IsAscii (cs : List Char) : Prop :=
  ∀ c ∈ cs, c.toNat < 128

instance (cs : List Char) : Decidable (IsAscii cs) :=
  List.decidableBAll (fun c : Char => c.toNat < 128) cs

theorem map_fold_of_lower {word name : List Char} (h : lower word = name)
    (hname : IsAscii name) : word.map fold = name := by
  rw [lower] at h
  subst h
  refine List.map_congr_left fun c hc => fold_eq_of_toLower rfl (hname _ ?_)
  exact List.mem_map_of_mem hc

end Text

end PageMarkup
