import PageMarkup.Proofs.Text.Letters
import PageMarkup.Proofs.Text.Replacing
import PageMarkup.Proofs.Text.Trimming
import PageMarkup.Restricted

/-!
# Normal forms of restricted values

Every allow-list maps the values it gives to themselves: what is allowed once is allowed again,
unchanged.  Allowed values are never blank, and an allowed link can neither leave the attribute it
stands in nor name a scheme other than those of the web, of mail and of telephones.
-/

namespace PageMarkup

open Text

namespace Restricted

/-! ### Values that are trimmed and checked -/

/-- A check of the trimmed text gives trimmed texts only, and allows what it gives. -/
theorem trimmed_check (check : List Char → Bool) {cs value : List Char}
    (h : (if check (trim cs) then some (trim cs) else none) = some value) :
    trim value = value ∧ check value = true := by
  split at h
  · rename_i hcheck
    obtain rfl := Option.some.inj h
    exact ⟨trim_trim cs, hcheck⟩
  · exact absurd h (by simp)

theorem allowColor_allowColor {cs value : List Char} (h : allowColor cs = some value) :
    allowColor value = some value := by
  obtain ⟨htrim, hcheck⟩ := trimmed_check
    (fun value => isNamedColor value || isHexColor value || isFunctionalColor value) h
  simp only [allowColor, htrim]
  exact if_pos hcheck

theorem allowHeight_allowHeight {cs value : List Char} (h : allowHeight cs = some value) :
    allowHeight value = some value := by
  obtain ⟨htrim, hcheck⟩ := trimmed_check (isMeasure ["px", "em", "rem", "vh"]) h
  simp only [allowHeight, htrim]
  exact if_pos hcheck

/-! ### Lengths -/

theorem allowLengths_allowLengths {signed : Bool} {cs value : List Char}
    (h : allowLengths signed cs = some value) : allowLengths signed value = some value := by
  rw [allowLengths] at h
  split at h
  · exact absurd h (by simp)
  · rename_i hcheck
    obtain rfl := Option.some.inj h
    have hwords : words (joinWith [' '] (words cs)) = words cs :=
      words_joinWith fun word hword => isWord_of_mem_words hword
    simp only [allowLengths, hwords]
    rw [if_neg hcheck]

/-! ### Keywords -/

theorem allowKeyword_allowKeyword {keywords : List String}
    (hkeywords : ∀ keyword ∈ keywords, lower (trim keyword.toList) = keyword.toList)
    {cs value : List Char} (h : allowKeyword keywords cs = some value) :
    allowKeyword keywords value = some value := by
  simp only [allowKeyword] at h
  split at h
  · rename_i hmem
    obtain rfl := Option.some.inj h
    rw [List.contains_iff_mem] at hmem
    have hfixed := hkeywords _ hmem
    rw [String.toList_ofList] at hfixed
    simp only [allowKeyword, hfixed]
    rw [if_pos (List.contains_iff_mem.mpr hmem)]
  · exact absurd h (by simp)

/-- The digits of the levels are levels. -/
theorem allowLevel_toDigits {n : Nat} (hlow : 1 ≤ n) (hhigh : n ≤ 6) :
    allowLevel (Nat.toDigits 10 n) = some (Nat.toDigits 10 n) := by
  have hcases : n = 1 ∨ n = 2 ∨ n = 3 ∨ n = 4 ∨ n = 5 ∨ n = 6 := by omega
  rcases hcases with rfl | rfl | rfl | rfl | rfl | rfl <;> decide +kernel

/-- A level is a number from one to six. -/
theorem exists_of_allowLevel {cs value : List Char} (h : allowLevel cs = some value) :
    ∃ n, 1 ≤ n ∧ n ≤ 6 ∧ value = Nat.toDigits 10 n := by
  simp only [allowLevel] at h
  split at h
  · exact absurd h (by simp)
  · rename_i x _
    split at h
    · rename_i hbounds
      simp only [Bool.and_eq_true, decide_eq_true_eq] at hbounds
      exact ⟨x.wholePart, hbounds.1.2, hbounds.2, (Option.some.inj h).symm⟩
    · exact absurd h (by simp)

theorem allowLevel_allowLevel {cs value : List Char} (h : allowLevel cs = some value) :
    allowLevel value = some value := by
  obtain ⟨n, hlow, hhigh, rfl⟩ := exists_of_allowLevel h
  exact allowLevel_toDigits hlow hhigh

/-! ### Links -/

/-- What an allowed link is: trimmed, not empty, without a breaking character, and without a scheme
or with one of those that are allowed. -/
theorem allowLink_eq_some {cs value : List Char} (h : allowLink cs = some value) :
    trim cs = value ∧ value ≠ [] ∧ size value ≤ greatestLink ∧ value.any isBreaking = false ∧
      (hasScheme value = false ∨
        (schemes.any fun scheme => (after? scheme.toList (lower value)).isSome) = true) := by
  simp only [allowLink] at h
  split at h
  · exact absurd h (by simp)
  · rename_i hcheck
    simp only [Bool.or_eq_true, decide_eq_true_eq, not_or, Nat.not_lt, Bool.not_eq_true,
      List.isEmpty_eq_false_iff] at hcheck
    obtain ⟨⟨hne, hsize⟩, hbreaking⟩ := hcheck
    split at h
    · rename_i hscheme
      obtain rfl := Option.some.inj h
      exact ⟨rfl, hne, hsize, hbreaking, .inl (by simpa using hscheme)⟩
    · split at h
      · rename_i hallowed
        obtain rfl := Option.some.inj h
        exact ⟨rfl, hne, hsize, hbreaking, .inr hallowed⟩
      · exact absurd h (by simp)

theorem allowLink_allowLink {cs value : List Char} (h : allowLink cs = some value) :
    allowLink value = some value := by
  obtain ⟨rfl, -⟩ := allowLink_eq_some h
  rw [allowLink] at h ⊢
  rwa [trim_trim]

/-- A text that begins with a mark up to case holds each parenthesis of the mark. -/
theorem mem_of_afterFolded? {front cs rest : List Char} (h : afterFolded? front cs = some rest)
    (hmem : '(' ∈ front) : '(' ∈ cs := by
  induction front generalizing cs with
  | nil => simp at hmem
  | cons f front ih =>
    cases cs with
    | nil => simp [afterFolded?] at h
    | cons c cs =>
      rw [afterFolded?] at h
      split at h
      · rename_i hfold
        rcases List.mem_cons.mp hmem with rfl | hmem
        · rw [eq_of_fold_eq hfold.symm (by decide)]
          exact List.mem_cons_self
        · exact List.mem_cons_of_mem c (ih h hmem)
      · exact absurd h (by simp)

/-- A text without breaking characters is no `url(…)`. -/
theorem unwrapUrl?_eq_none {cs : List Char} (h : cs.any isBreaking = false) :
    unwrapUrl? cs = none := by
  cases hafter : afterFolded? "url(".toList cs with
  | none =>
    rw [unwrapUrl?, hafter]
    rfl
  | some rest =>
    have hmem := mem_of_afterFolded? hafter (by decide)
    have hbreaking := List.any_eq_false.mp h '(' hmem
    exact absurd (show isBreaking '(' = true by decide) hbreaking

theorem allowImage_allowImage {cs value : List Char} (h : allowImage cs = some value) :
    allowImage value = some value := by
  obtain ⟨htrim, -, -, hbreaking, -⟩ := allowLink_eq_some h
  have hvalue : trim value = value := by rw [← htrim, trim_trim]
  simp only [allowImage, hvalue, unwrapUrl?_eq_none hbreaking, Option.getD_none]
  exact allowLink_allowLink h

/-! ### All together -/

/-- Whatever is allowed once is allowed again, unchanged. -/
theorem allowChars_allowChars {target : Restricted} {cs value : List Char}
    (h : target.allowChars cs = some value) : target.allowChars value = some value := by
  cases target with
  | bgColor => exact allowColor_allowColor h
  | color => exact allowColor_allowColor h
  | padding => exact allowLengths_allowLengths h
  | margin => exact allowLengths_allowLengths h
  | height => exact allowHeight_allowHeight h
  | align => exact allowKeyword_allowKeyword (by decide) h
  | href => exact allowLink_allowLink h
  | src => exact allowLink_allowLink h
  | bgImage => exact allowImage_allowImage h
  | level => exact allowLevel_allowLevel h
  | style => exact allowKeyword_allowKeyword (by decide) h

/-- Whatever is allowed once is allowed again, unchanged. -/
theorem allow_allow {target : Restricted} {raw value : String} (h : target.allow raw = some value) :
    target.allow value = some value := by
  obtain ⟨cs, hcs, rfl⟩ := Option.map_eq_some_iff.mp h
  rw [allow, String.toList_ofList, allowChars_allowChars hcs, Option.map_some]

/-- No blank text is allowed. -/
theorem allowChars_eq_none {target : Restricted} {cs : List Char} (h : allBlank cs = true) :
    target.allowChars cs = none := by
  have htrim : trim cs = [] := trim_eq_nil h
  have hwords : words cs = [] := by
    rw [List.eq_nil_iff_forall_not_mem]
    intro word hword
    obtain ⟨hne, hword'⟩ := isWord_of_mem_words hword
    obtain ⟨c, rest, rfl⟩ := List.exists_cons_of_ne_nil hne
    have hmem : c ∈ cs := mem_of_mem_splitWhere (List.mem_filter.mp hword).1 List.mem_cons_self
    have hblank := List.all_eq_true.mp h c hmem
    rw [hword' c List.mem_cons_self] at hblank
    exact absurd hblank (by decide)
  -- each of them trims the text or cuts it in words first
  cases target with
  | bgColor => simp only [allowChars, allowColor, htrim]; decide
  | color => simp only [allowChars, allowColor, htrim]; decide
  | padding => simp [allowChars, allowLengths, hwords]
  | margin => simp [allowChars, allowLengths, hwords]
  | height => simp only [allowChars, allowHeight, htrim]; decide
  | align => simp only [allowChars, allowKeyword, htrim]; decide
  | href => simp [allowChars, allowLink, htrim]
  | src => simp [allowChars, allowLink, htrim]
  | bgImage =>
    have hunwrap : unwrapUrl? [] = none := rfl
    have hnil : allowLink [] = none := rfl
    simp only [allowChars, allowImage, htrim, hunwrap, Option.getD_none, hnil]
  | level => simp only [allowChars, allowLevel, htrim]; decide
  | style => simp only [allowChars, allowKeyword, htrim]; decide

/-- An allowed value is not blank. -/
theorem allBlank_of_allow_eq_some {target : Restricted} {value : String}
    (h : target.allow value = some value) : allBlank value.toList = false := by
  rw [Bool.eq_false_iff]
  intro hblank
  rw [allow, allowChars_eq_none hblank] at h
  exact absurd h (by simp)

end Restricted

end PageMarkup
