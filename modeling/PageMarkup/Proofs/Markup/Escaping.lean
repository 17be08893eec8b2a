import PageMarkup.Markup
import PageMarkup.Proofs.Text.Replacing
import PageMarkup.Proofs.Text.Scanning
import PageMarkup.Proofs.Text.Trimming

/-!
# Escapes and their readers

Each of the three escapes writes a text character by character.  For plain text and for attribute
values the form of a character is a character reference or the character itself, so decoding gives
the text back.  Rich text is read by putting the brackets back, and since no escaped text holds a
bracket, escaping what was read gives the escaped text back.
-/

namespace PageMarkup

open Text

/-! ### Forms of a character -/

namespace Entity

/-- Only `&` begins a reference. -/
theorem reference?_cons_of_ne {c : Char} (hc : c ≠ '&') (cs : List Char) :
    reference? (c :: cs) = none := by
  unfold reference?
  split
  · simp_all
  · rfl

/-- A form that is read back as `c`: the character itself, or a reference to it. -/
def IsForm (form : List Char) (c : Char) : Prop :=
  (c ≠ '&' ∧ form = [c]) ∨ (form ≠ [] ∧ ∀ rest, reference? (form ++ rest) = some (c, rest))

/-- Decoding a form gives its character. -/
theorem decode_append_of_isForm {form : List Char} {c : Char} (h : IsForm form c)
    (rest : List Char) : decode (form ++ rest) = c :: decode rest := by
  rcases h with ⟨hc, rfl⟩ | ⟨hne, hread⟩
  · exact replaceFound_cons_of_none (reference?_cons_of_ne hc rest)
  · exact replaceFound_append_of_some hne (hread rest)

/-- A text written in forms of its characters is decoded to the text. -/
theorem decode_flatMap_of_isForm {write : Char → List Char} (h : ∀ c, IsForm (write c) c)
    (cs : List Char) : decode (cs.flatMap write) = cs := by
  induction cs with
  | nil => rfl
  | cons c cs ih => rw [List.flatMap_cons, decode_append_of_isForm (h c), ih]

/-- The form of a character between tags is read back as the character. -/
theorem isForm_encodeChar (c : Char) : IsForm (encodeChar c) c := by
  unfold encodeChar
  split
  · exact .inr ⟨by decide, fun rest => rfl⟩
  · exact .inr ⟨by decide, fun rest => rfl⟩
  · exact .inr ⟨by decide, fun rest => rfl⟩
  · rename_i hampersand _ _
    exact .inl ⟨hampersand, rfl⟩

/-- Decoding a text between tags gives it back. -/
@[simp] theorem decode_encode (cs : List Char) : decode (encode cs) = cs :=
  decode_flatMap_of_isForm isForm_encodeChar cs

/-- No angle bracket is left of a character between tags. -/
theorem not_angle_of_mem_encodeChar {c d : Char} (h : d ∈ encodeChar c) : d ≠ '<' ∧ d ≠ '>' := by
  unfold encodeChar at h
  split at h
  · constructor <;> (rintro rfl; revert h; decide)
  · constructor <;> (rintro rfl; revert h; decide)
  · constructor <;> (rintro rfl; revert h; decide)
  · rename_i hless hgreater
    obtain rfl := List.mem_singleton.mp h
    exact ⟨hless, hgreater⟩

/-- No angle bracket is left of a character in an attribute value. -/
theorem not_angle_of_mem_encodeQuotedChar {c d : Char} (h : d ∈ encodeQuotedChar c) :
    d ≠ '<' ∧ d ≠ '>' := by
  unfold encodeQuotedChar at h
  split at h
  · constructor <;> (rintro rfl; revert h; decide)
  · exact not_angle_of_mem_encodeChar h

/-- No quote is left of a character in an attribute value. -/
theorem quote_not_mem_encodeQuotedChar (c : Char) : '"' ∉ encodeQuotedChar c := by
  unfold encodeQuotedChar
  split
  · decide
  · rename_i hquote
    unfold encodeChar
    split
    · decide
    · decide
    · decide
    · intro hmem
      exact hquote (List.mem_singleton.mp hmem).symm

/-- No angle bracket is left in a text between tags. -/
theorem not_angle_of_mem_encode {cs : List Char} {d : Char} (h : d ∈ encode cs) :
    d ≠ '<' ∧ d ≠ '>' := by
  obtain ⟨c, -, hd⟩ := List.mem_flatMap.mp h
  exact not_angle_of_mem_encodeChar hd

/-- No angle bracket is left in an attribute value. -/
theorem not_angle_of_mem_encodeQuoted {cs : List Char} {d : Char} (h : d ∈ encodeQuoted cs) :
    d ≠ '<' ∧ d ≠ '>' := by
  obtain ⟨c, -, hd⟩ := List.mem_flatMap.mp h
  exact not_angle_of_mem_encodeQuotedChar hd

/-- No `<` is left in a text between tags. -/
theorem angle_not_mem_encode (cs : List Char) : '<' ∉ encode cs :=
  fun h => (not_angle_of_mem_encode h).1 rfl

end Entity

namespace Escape

/-- The form of a character in plain text. -/
def textForm (c : Char) : List Char :=
  rich (Entity.encodeChar c)

/-- The form of a character in an attribute value. -/
def valueForm (c : Char) : List Char :=
  rich (Entity.encodeQuotedChar c)

/-- Plain text is written character by character. -/
theorem text_eq_flatMap (cs : List Char) : text cs = cs.flatMap textForm := by
  rw [text, rich, Entity.encode, List.flatMap_assoc]
  rfl

/-- An attribute value is written character by character. -/
theorem value_eq_flatMap (cs : List Char) : value cs = cs.flatMap valueForm := by
  rw [value, rich, Entity.encodeQuoted, List.flatMap_assoc]
  rfl

/-- The six characters that an attribute value cannot hold as they are, and all others. -/
theorem valueForm_cases (c : Char) :
    (c = '&' ∧ valueForm c = ['&', 'a', 'm', 'p', ';']) ∨
    (c = '<' ∧ valueForm c = ['&', 'l', 't', ';']) ∨
    (c = '>' ∧ valueForm c = ['&', 'g', 't', ';']) ∨
    (c = '"' ∧ valueForm c = ['&', 'q', 'u', 'o', 't', ';']) ∨
    (c = '[' ∧ valueForm c = ['&', '#', '9', '1', ';']) ∨
    (c = ']' ∧ valueForm c = ['&', '#', '9', '3', ';']) ∨
    (c ≠ '&' ∧ c ≠ '"' ∧ c ≠ '[' ∧ c ≠ ']' ∧ valueForm c = [c]) := by
  unfold valueForm Entity.encodeQuotedChar Entity.encodeChar
  split
  · exact .inr (.inr (.inr (.inl ⟨rfl, rfl⟩)))
  · split
    · exact .inl ⟨rfl, rfl⟩
    · exact .inr (.inl ⟨rfl, rfl⟩)
    · exact .inr (.inr (.inl ⟨rfl, rfl⟩))
    · simp only [rich, List.flatMap_cons, List.flatMap_nil, List.append_nil]
      unfold bracket
      split
      · exact .inr (.inr (.inr (.inr (.inl ⟨rfl, rfl⟩))))
      · exact .inr (.inr (.inr (.inr (.inr (.inl ⟨rfl, rfl⟩)))))
      · simp_all

/-- In plain text only the quote is written otherwise than in an attribute value. -/
theorem textForm_eq_valueForm {c : Char} (hc : c ≠ '"') : textForm c = valueForm c := by
  unfold textForm valueForm Entity.encodeQuotedChar
  split
  · exact absurd rfl hc
  · rfl

/-- The form of a character in an attribute value is read back as the character. -/
theorem isForm_valueForm (c : Char) : Entity.IsForm (valueForm c) c := by
  rcases valueForm_cases c with
    ⟨rfl, h⟩ | ⟨rfl, h⟩ | ⟨rfl, h⟩ | ⟨rfl, h⟩ | ⟨rfl, h⟩ | ⟨rfl, h⟩ | ⟨hc, -, -, -, h⟩
  · exact .inr ⟨by simp [h], fun rest => by rw [h]; rfl⟩
  · exact .inr ⟨by simp [h], fun rest => by rw [h]; rfl⟩
  · exact .inr ⟨by simp [h], fun rest => by rw [h]; rfl⟩
  · exact .inr ⟨by simp [h], fun rest => by rw [h]; rfl⟩
  · exact .inr ⟨by simp [h], fun rest => by rw [h]; rfl⟩
  · exact .inr ⟨by simp [h], fun rest => by rw [h]; rfl⟩
  · exact .inl ⟨hc, h⟩

/-- The form of a character in plain text is read back as the character. -/
theorem isForm_textForm (c : Char) : Entity.IsForm (textForm c) c := by
  by_cases hc : c = '"'
  · subst hc
    exact .inl ⟨by decide, rfl⟩
  · rw [textForm_eq_valueForm hc]
    exact isForm_valueForm c

/-! ### Reading back -/

/-- Decoding an attribute value gives it back. -/
@[simp] theorem decode_value (cs : List Char) : Entity.decode (value cs) = cs := by
  rw [value_eq_flatMap]
  exact Entity.decode_flatMap_of_isForm isForm_valueForm cs

/-- Decoding plain text gives it back. -/
@[simp] theorem decode_text (cs : List Char) : Entity.decode (text cs) = cs := by
  rw [text_eq_flatMap]
  exact Entity.decode_flatMap_of_isForm isForm_textForm cs

/-- A text with its brackets put back for their references. -/
def unbracket (cs : List Char) : List Char :=
  replaceAll "&#93;".toList [']'] (replaceAll "&#91;".toList ['['] cs)

/-- Escaping a text whose brackets were put back gives the text, which holds no bracket itself. -/
theorem rich_unbracket {cs : List Char} (hopen : '[' ∉ cs) (hclose : ']' ∉ cs) :
    rich (unbracket cs) = cs := by
  let opened := replaceAll "&#91;".toList ['['] cs
  let restoreOpen : Char → List Char := fun c => if c = '[' then "&#91;".toList else [c]
  let restoreClose : Char → List Char := fun c => if c = ']' then "&#93;".toList else [c]
  have hopened : opened.flatMap restoreOpen = cs := by
    refine flatMap_replaceAll (by decide) (if_pos rfl) fun c hc => if_neg ?_
    rintro rfl
    exact hopen hc
  have hno : ']' ∉ opened := by
    intro h
    rcases mem_replaceAll h with h | h
    · exact absurd h (by decide)
    · exact hclose h
  have hclosed : (unbracket cs).flatMap restoreClose = opened := by
    refine flatMap_replaceAll (by decide) (if_pos rfl) fun c hc => if_neg ?_
    rintro rfl
    exact hno hc
  -- The references that close hold no opening bracket, so the two restorations are one escape.
  have hbracket : bracket = fun c => (restoreClose c).flatMap restoreOpen := by
    funext c
    by_cases h₁ : c = '['
    · subst h₁; decide
    · by_cases h₂ : c = ']'
      · subst h₂; decide
      · simp [bracket, restoreClose, restoreOpen, h₁, h₂]
  calc rich (unbracket cs)
      = (unbracket cs).flatMap fun c => (restoreClose c).flatMap restoreOpen := by
        rw [rich, hbracket]
    _ = ((unbracket cs).flatMap restoreClose).flatMap restoreOpen := by
        rw [List.flatMap_assoc]
    _ = cs := by rw [hclosed, hopened]

/-! ### What escaped texts do not hold -/

/-- No bracket is left in rich text. -/
theorem not_bracket_of_mem_rich {cs : List Char} {c : Char} (h : c ∈ rich cs) :
    c ≠ '[' ∧ c ≠ ']' := by
  obtain ⟨d, -, hd⟩ := List.mem_flatMap.mp h
  unfold bracket at hd
  split at hd
  · constructor <;> (rintro rfl; revert hd; decide)
  · constructor <;> (rintro rfl; revert hd; decide)
  · simp_all

/-- No bracket is left in plain text. -/
theorem not_bracket_of_mem_text {cs : List Char} {c : Char} (h : c ∈ text cs) :
    c ≠ '[' ∧ c ≠ ']' :=
  not_bracket_of_mem_rich h

/-- No bracket is left in an attribute value. -/
theorem not_bracket_of_mem_value {cs : List Char} {c : Char} (h : c ∈ value cs) :
    c ≠ '[' ∧ c ≠ ']' :=
  not_bracket_of_mem_rich h

/-- Rich text holds the characters of the text, but for the brackets and what their references are
written with. -/
theorem mem_rich_iff {d : Char} (hd : d ∉ ['[', ']', '&', '#', '9', '1', '3', ';'])
    {cs : List Char} : d ∈ rich cs ↔ d ∈ cs := by
  unfold rich
  rw [List.mem_flatMap]
  constructor
  · rintro ⟨c, hc, hmem⟩
    unfold bracket at hmem
    split at hmem
    · simp_all
    · simp_all
    · exact List.mem_singleton.mp hmem ▸ hc
  · intro hmem
    refine ⟨d, hmem, ?_⟩
    unfold bracket
    split
    · exact absurd (by decide) hd
    · exact absurd (by decide) hd
    · exact List.mem_singleton_self d

/-- Writing rich text makes no angle bracket. -/
theorem not_angle_of_mem_rich {cs : List Char} (hcs : ∀ d ∈ cs, d ≠ '<' ∧ d ≠ '>') {c : Char}
    (h : c ∈ rich cs) : c ≠ '<' ∧ c ≠ '>' := by
  constructor
  · rintro rfl
    exact (hcs '<' ((mem_rich_iff (by decide)).mp h)).1 rfl
  · rintro rfl
    exact (hcs '>' ((mem_rich_iff (by decide)).mp h)).2 rfl

/-- No angle bracket is left in plain text. -/
theorem not_angle_of_mem_text {cs : List Char} {c : Char} (h : c ∈ text cs) :
    c ≠ '<' ∧ c ≠ '>' :=
  not_angle_of_mem_rich (fun _ => Entity.not_angle_of_mem_encode) h

/-- No angle bracket is left in an attribute value. -/
theorem not_angle_of_mem_value {cs : List Char} {c : Char} (h : c ∈ value cs) :
    c ≠ '<' ∧ c ≠ '>' :=
  not_angle_of_mem_rich (fun _ => Entity.not_angle_of_mem_encodeQuoted) h

/-- No quote is left in an attribute value. -/
theorem ne_quote_of_mem_value {cs : List Char} {c : Char} (h : c ∈ value cs) : c ≠ '"' := by
  rintro rfl
  have hencoded : '"' ∈ Entity.encodeQuoted cs := (mem_rich_iff (by decide)).mp h
  obtain ⟨d, -, hd⟩ := List.mem_flatMap.mp hencoded
  exact Entity.quote_not_mem_encodeQuotedChar d hd

/-- Writing plain text makes no line end. -/
theorem newline_of_mem_text {cs : List Char} (h : '\n' ∈ text cs) : '\n' ∈ cs := by
  have hencoded : '\n' ∈ Entity.encode cs := (mem_rich_iff (by decide)).mp h
  obtain ⟨c, hc, hmem⟩ := List.mem_flatMap.mp hencoded
  unfold Entity.encodeChar at hmem
  split at hmem
  · exact absurd hmem (by decide)
  · exact absurd hmem (by decide)
  · exact absurd hmem (by decide)
  · exact List.mem_singleton.mp hmem ▸ hc

/-! ### Blanks -/

/-- Writing some characters that are not blank as references, and all others as they are, keeps
blanks. -/
theorem keepsBlanks_of_references {write : Char → List Char}
    (h : ∀ c, write c = [c] ∨ isBlank c = false ∧ ∃ form, write c = '&' :: (form ++ [';'])) :
    KeepsBlanks write where
  blank c hc := by
    rcases h c with h | ⟨hfalse, -⟩
    · exact h
    · rw [hc] at hfalse
      exact absurd hfalse (by decide)
  ne_nil c := by
    rcases h c with h | ⟨-, form, h⟩ <;> simp [h]
  head c hc d hd := by
    rcases h c with h | ⟨-, form, h⟩
    · have hcd : c = d := by simpa [h] using hd
      exact hcd ▸ hc
    · have hcd : '&' = d := by simpa [h] using hd
      exact hcd ▸ by decide
  last c hc d hd := by
    rcases h c with h | ⟨-, form, h⟩
    · have hcd : c = d := by simpa [h] using hd
      exact hcd ▸ hc
    · rw [h, ← List.cons_append, List.getLast?_concat] at hd
      have hcd : ';' = d := by simpa using hd
      exact hcd ▸ by decide

/-- Plain text keeps blanks. -/
theorem keepsBlanks_textForm : KeepsBlanks textForm := by
  refine keepsBlanks_of_references fun c => ?_
  by_cases hquote : c = '"'
  · subst hquote
    exact .inl rfl
  · rw [textForm_eq_valueForm hquote]
    rcases valueForm_cases c with
      ⟨rfl, h⟩ | ⟨rfl, h⟩ | ⟨rfl, h⟩ | ⟨rfl, h⟩ | ⟨rfl, h⟩ | ⟨rfl, h⟩ | ⟨-, -, -, -, h⟩
    · exact .inr ⟨by decide, ['a', 'm', 'p'], h⟩
    · exact .inr ⟨by decide, ['l', 't'], h⟩
    · exact .inr ⟨by decide, ['g', 't'], h⟩
    · exact absurd rfl hquote
    · exact .inr ⟨by decide, ['#', '9', '1'], h⟩
    · exact .inr ⟨by decide, ['#', '9', '3'], h⟩
    · exact .inl h

/-- Trimming and writing plain text commute. -/
theorem trim_text (cs : List Char) : trim (text cs) = text (trim cs) := by
  rw [text_eq_flatMap, text_eq_flatMap, trim_flatMap keepsBlanks_textForm]

/-- Rich text keeps blanks. -/
theorem keepsBlanks_bracket : KeepsBlanks bracket := by
  refine keepsBlanks_of_references fun c => ?_
  unfold bracket
  split
  · exact .inr ⟨by decide, ['#', '9', '1'], rfl⟩
  · exact .inr ⟨by decide, ['#', '9', '3'], rfl⟩
  · exact .inl rfl

/-- Trimming and writing rich text commute. -/
theorem trim_rich (cs : List Char) : trim (rich cs) = rich (trim cs) :=
  trim_flatMap keepsBlanks_bracket cs

end Escape

end PageMarkup
