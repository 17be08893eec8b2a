import Mathlib.Data.List.DropRight
import PageMarkup.Text.Basic

/-!
# Trimmed texts

A text is trimmed when it neither begins nor ends with a blank character.  This file proves that
trimming gives the trimmed part of a text, that trimmed texts are exactly those that trimming
leaves alone, and that cutting a text into words and joining the words with single spaces is a
normal form.
-/

namespace PageMarkup

namespace Text

/-! ### Trimming -/

/-- The text neither begins nor ends with a blank character. -/
def IsTrimmed (cs : List Char) : Prop :=
  (∀ c ∈ cs.head?, isBlank c = false) ∧ (∀ c ∈ cs.getLast?, isBlank c = false)

/-- Dropping characters at the end is dropping them at the start of the reversed text. -/
theorem trimEnd_eq_rdropWhile (cs : List Char) : trimEnd cs = cs.rdropWhile isBlank := rfl

/-- A text that does not begin with a blank character keeps its start. -/
theorem trimStart_eq_self {cs : List Char} (h : ∀ c ∈ cs.head?, isBlank c = false) :
    trimStart cs = cs := by
  cases cs with
  | nil => rfl
  | cons c cs =>
    have hc : isBlank c = false := h c rfl
    simp [trimStart, hc]

/-- A text that does not end with a blank character keeps its end. -/
theorem trimEnd_eq_self {cs : List Char} (h : ∀ c ∈ cs.getLast?, isBlank c = false) :
    trimEnd cs = cs := by
  rw [trimEnd_eq_rdropWhile, List.rdropWhile_eq_self_iff]
  intro hne
  have hlast := h (cs.getLast hne) (List.getLast_mem_getLast? hne)
  simp [hlast]

/-- What is left after dropping blanks at the start does not begin with one. -/
theorem head?_trimStart (cs : List Char) : ∀ c ∈ (trimStart cs).head?, isBlank c = false := by
  intro c hc
  have h := List.head?_dropWhile_not isBlank cs
  rw [trimStart] at hc
  rw [Option.mem_def] at hc
  rw [hc] at h
  simpa using h

/-- What is left after dropping blanks at the end does not end with one. -/
theorem getLast?_trimEnd (cs : List Char) : ∀ c ∈ (trimEnd cs).getLast?, isBlank c = false := by
  intro c hc
  rw [trimEnd, dropEndWhile, List.getLast?_reverse] at hc
  exact head?_trimStart cs.reverse c hc

/-- Dropping blanks at the end keeps a first character that is not blank. -/
theorem head?_trimEnd {cs : List Char} (h : ∀ c ∈ cs.head?, isBlank c = false) :
    ∀ c ∈ (trimEnd cs).head?, isBlank c = false := by
  intro c hc
  have hprefix : trimEnd cs <+: cs := List.rdropWhile_prefix isBlank cs
  obtain ⟨rest, hrest⟩ := hprefix
  apply h
  rw [← hrest]
  exact List.mem_head?_append_of_mem_head? hc

/-- Trimming gives a trimmed text. -/
theorem isTrimmed_trim (cs : List Char) : IsTrimmed (trim cs) :=
  ⟨head?_trimEnd (head?_trimStart cs), getLast?_trimEnd (trimStart cs)⟩

/-- Trimming leaves a trimmed text alone. -/
theorem IsTrimmed.trim_eq {cs : List Char} (h : IsTrimmed cs) : trim cs = cs := by
  rw [trim, trimStart_eq_self h.1, trimEnd_eq_self h.2]

/-- The trimmed texts are those that trimming leaves alone. -/
theorem trim_eq_self_iff {cs : List Char} : trim cs = cs ↔ IsTrimmed cs := by
  constructor
  · intro h
    rw [← h]
    exact isTrimmed_trim cs
  · exact IsTrimmed.trim_eq

instance (cs : List Char) : Decidable (IsTrimmed cs) :=
  decidable_of_iff (trim cs = cs) trim_eq_self_iff

@[simp] theorem trim_trim (cs : List Char) : trim (trim cs) = trim cs :=
  (isTrimmed_trim cs).trim_eq

/-- A text of which trimming leaves nothing is blank throughout. -/
theorem trim_eq_nil_iff {cs : List Char} : trim cs = [] ↔ allBlank cs = true := by
  rw [trim, trimEnd_eq_rdropWhile, List.rdropWhile_eq_nil_iff, allBlank, List.all_eq_true]
  constructor
  · intro h c hc
    by_cases hblank : isBlank c = true
    · exact hblank
    · have hstart : trimStart cs = [] := by
        have hhead := head?_trimStart cs
        cases hcs : trimStart cs with
        | nil => rfl
        | cons d ds =>
          rw [hcs] at hhead h
          have hd : isBlank d = true := h d List.mem_cons_self
          rw [hhead d rfl] at hd
          exact absurd hd (by simp)
      exact List.dropWhile_eq_nil_iff.mp hstart c hc
  · intro h c hc
    exact h c ((List.dropWhile_sublist isBlank).mem hc)

/-- A trimmed text is blank when the text is. -/
@[simp] theorem allBlank_trim (cs : List Char) : allBlank (trim cs) = allBlank cs := by
  rw [Bool.eq_iff_iff, ← trim_eq_nil_iff, ← trim_eq_nil_iff, trim_trim]

/-- A blank text is trimmed away. -/
theorem trim_eq_nil {cs : List Char} (h : allBlank cs = true) : trim cs = [] :=
  trim_eq_nil_iff.mpr h

/-! ### Blanks around a text -/

theorem trimStart_append_of_allBlank {blanks : List Char} (h : allBlank blanks = true)
    (cs : List Char) : trimStart (blanks ++ cs) = trimStart cs :=
  List.dropWhile_append_of_pos (List.all_eq_true.mp h)

/-- Blanks in front of a text are trimmed away. -/
theorem trim_append_of_allBlank {blanks : List Char} (h : allBlank blanks = true)
    (cs : List Char) : trim (blanks ++ cs) = trim cs := by
  rw [trim, trimStart_append_of_allBlank h, trim]

/-- What is trimmed away at the start is blank. -/
theorem exists_append_trimStart (cs : List Char) :
    ∃ blanks, allBlank blanks = true ∧ cs = blanks ++ trimStart cs :=
  ⟨cs.takeWhile isBlank, List.all_takeWhile, List.takeWhile_append_dropWhile.symm⟩

/-- A trimmed text begins where the text has its first character that is not blank. -/
theorem trimStart_eq_cons_iff {cs more : List Char} {c : Char} :
    trimStart cs = c :: more ↔
      isBlank c = false ∧ ∃ blanks, allBlank blanks = true ∧ cs = blanks ++ c :: more := by
  constructor
  · intro h
    have hhead := head?_trimStart cs
    have hcs := exists_append_trimStart cs
    rw [h] at hhead hcs
    exact ⟨hhead c rfl, hcs⟩
  · rintro ⟨hc, blanks, hblanks, rfl⟩
    rw [trimStart_append_of_allBlank hblanks, trimStart_eq_self]
    intro d hd
    obtain rfl : c = d := Option.some.inj hd
    exact hc

/-- What is trimmed away at the end is blank. -/
theorem exists_trimEnd_append (cs : List Char) :
    ∃ blanks, allBlank blanks = true ∧ cs = trimEnd cs ++ blanks := by
  obtain ⟨blanks, hblanks, hcs⟩ := exists_append_trimStart cs.reverse
  refine ⟨blanks.reverse, ?_, ?_⟩
  · rwa [allBlank, List.all_reverse]
  · have hback := congrArg List.reverse hcs
    rwa [List.reverse_reverse, List.reverse_append] at hback

theorem trimEnd_append_of_allBlank {blanks : List Char} (h : allBlank blanks = true)
    (cs : List Char) : trimEnd (cs ++ blanks) = trimEnd cs := by
  have hreverse : allBlank blanks.reverse = true := by rwa [allBlank, List.all_reverse]
  rw [trimEnd, dropEndWhile, List.reverse_append]
  exact congrArg List.reverse (trimStart_append_of_allBlank hreverse cs.reverse)

/-- Blanks behind a text are trimmed away. -/
theorem trim_append_allBlank {blanks : List Char} (h : allBlank blanks = true)
    (cs : List Char) : trim (cs ++ blanks) = trim cs := by
  by_cases hcs : allBlank cs = true
  · have hboth : allBlank (cs ++ blanks) = true := by
      rw [allBlank, List.all_append, Bool.and_eq_true]
      exact ⟨hcs, h⟩
    rw [trim_eq_nil hboth, trim_eq_nil hcs]
  · have hstart : trimStart (cs ++ blanks) = trimStart cs ++ blanks := by
      have hne : (cs.dropWhile isBlank).isEmpty = false := by
        rw [Bool.eq_false_iff, Ne, List.isEmpty_iff, List.dropWhile_eq_nil_iff]
        exact fun hall => hcs (List.all_eq_true.mpr hall)
      rw [trimStart, List.dropWhile_append, hne, if_neg Bool.false_ne_true, trimStart]
    rw [trim, hstart, trimEnd_append_of_allBlank h, trim]

/-- A text is its trimmed part between blanks. -/
theorem trim_eq_iff {cs core : List Char} (hcore : IsTrimmed core) :
    trim cs = core ↔ ∃ before after, allBlank before = true ∧ allBlank after = true ∧
      cs = before ++ (core ++ after) := by
  constructor
  · rintro rfl
    obtain ⟨before, hbefore, hcs⟩ := exists_append_trimStart cs
    obtain ⟨after, hafter, hstart⟩ := exists_trimEnd_append (trimStart cs)
    refine ⟨before, after, hbefore, hafter, ?_⟩
    rw [trim, ← hstart, ← hcs]
  · rintro ⟨before, after, hbefore, hafter, rfl⟩
    rw [trim_append_of_allBlank hbefore, trim_append_allBlank hafter, hcore.trim_eq]

/-! ### Writing character by character

A text is often written by writing each of its characters.  Where blank characters stand for
themselves and no other character is written with a blank at either end, trimming and writing
commute.
-/

/-- Blank characters are written as themselves, and what is written for any other character begins
and ends with a character that is not blank. -/
structure KeepsBlanks (write : Char → List Char) : Prop where
  blank : ∀ c, isBlank c = true → write c = [c]
  ne_nil : ∀ c, write c ≠ []
  head : ∀ c, isBlank c = false → ∀ d ∈ (write c).head?, isBlank d = false
  last : ∀ c, isBlank c = false → ∀ d ∈ (write c).getLast?, isBlank d = false

/-- What is written backwards keeps blanks as well. -/
theorem KeepsBlanks.reverse {write : Char → List Char} (h : KeepsBlanks write) :
    KeepsBlanks fun c => (write c).reverse where
  blank c hc := by simp [h.blank c hc]
  ne_nil c := by simpa using h.ne_nil c
  head c hc := by simpa using h.last c hc
  last c hc := by simpa using h.head c hc

/-- Dropping blanks at the start and writing commute. -/
theorem trimStart_flatMap {write : Char → List Char} (h : KeepsBlanks write) (cs : List Char) :
    trimStart (cs.flatMap write) = (trimStart cs).flatMap write := by
  induction cs with
  | nil => rfl
  | cons c cs ih =>
    by_cases hc : isBlank c = true
    · simpa [trimStart, h.blank c hc, hc] using ih
    · have hc : isBlank c = false := by simpa using hc
      obtain ⟨d, ds, hwrite⟩ := List.exists_cons_of_ne_nil (h.ne_nil c)
      have hd : isBlank d = false := h.head c hc d (by simp [hwrite])
      simp [trimStart, hwrite, hc, hd]

/-- Trimming and writing commute. -/
theorem trim_flatMap {write : Char → List Char} (h : KeepsBlanks write) (cs : List Char) :
    trim (cs.flatMap write) = (trim cs).flatMap write := by
  have hend (ds : List Char) : trimEnd (ds.flatMap write) = (trimEnd ds).flatMap write := by
    have hstart := trimStart_flatMap h.reverse ds.reverse
    rw [trimStart, trimStart] at hstart
    rw [trimEnd, dropEndWhile, List.reverse_flatMap, trimEnd, dropEndWhile]
    simp only [Function.comp_def] at hstart ⊢
    rw [hstart, List.reverse_flatMap]
    simp [Function.comp_def]
  rw [trim, trimStart_flatMap h, hend, trim]

/-! ### Words -/

/-- A text without cuts is one piece. -/
theorem splitWhere_of_forall {p : Char → Bool} {piece : List Char}
    (hpiece : ∀ d ∈ piece, p d = false) : splitWhere p piece = [piece] := by
  induction piece with
  | nil => rfl
  | cons d piece ih =>
    have hd : p d = false := hpiece d List.mem_cons_self
    have hrest := ih fun e he => hpiece e (List.mem_cons_of_mem d he)
    simp [splitWhere, hd, hrest]

theorem splitWhere_ne_nil (p : Char → Bool) (cs : List Char) : splitWhere p cs ≠ [] := by
  cases cs with
  | nil => exact List.cons_ne_nil [] []
  | cons c cs =>
    rw [splitWhere]
    split
    · exact List.cons_ne_nil _ _
    · split <;> exact List.cons_ne_nil _ _

/-- A text has a last piece. -/
theorem exists_splitWhere_eq_concat (p : Char → Bool) (cs : List Char) :
    ∃ front last, splitWhere p cs = front ++ [last] :=
  ⟨_, _, (List.dropLast_concat_getLast (splitWhere_ne_nil p cs)).symm⟩

/-- Where two texts meet, the last piece of the first and the first piece of the second make up one
piece; the other pieces stay as they are. -/
theorem splitWhere_append {p : Char → Bool} {cs ds last first : List Char}
    {front back : List (List Char)} (hcs : splitWhere p cs = front ++ [last])
    (hds : splitWhere p ds = first :: back) :
    splitWhere p (cs ++ ds) = front ++ (last ++ first) :: back := by
  induction cs generalizing front last with
  | nil =>
    obtain ⟨rfl, rfl⟩ := List.append_singleton_inj.mp ((List.nil_append _).trans hcs)
    exact hds
  | cons c cs ih =>
    obtain ⟨others, piece, hothers⟩ := exists_splitWhere_eq_concat p cs
    rw [splitWhere, hothers] at hcs
    rw [List.cons_append, splitWhere, ih hothers]
    split at hcs
    · rename_i hc
      obtain ⟨rfl, rfl⟩ := List.append_singleton_inj.mp ((List.cons_append ..).trans hcs)
      rw [if_pos hc, List.cons_append]
    · rename_i hc
      rw [if_neg hc]
      -- the character goes to the first piece, which may be the last one as well
      cases others with
      | nil =>
        obtain ⟨rfl, rfl⟩ := List.append_singleton_inj.mp ((List.nil_append _).trans hcs)
        rfl
      | cons other others =>
        obtain ⟨rfl, rfl⟩ := List.append_singleton_inj.mp ((List.cons_append ..).trans hcs)
        rfl

/-- A text is cut at each cut. -/
theorem splitWhere_append_of_cut {p : Char → Bool} {c : Char} (hc : p c = true)
    (front rest : List Char) :
    splitWhere p (front ++ c :: rest) = splitWhere p front ++ splitWhere p rest := by
  obtain ⟨pieces, last, hpieces⟩ := exists_splitWhere_eq_concat p front
  have hrest : splitWhere p (c :: rest) = [] :: splitWhere p rest := by rw [splitWhere, if_pos hc]
  rw [splitWhere_append hpieces hrest, hpieces, List.append_nil, List.append_assoc]
  rfl

/-- A run of characters that are not cut ends at the next cut. -/
theorem splitWhere_append_cons {p : Char → Bool} {piece : List Char} {c : Char}
    (hpiece : ∀ d ∈ piece, p d = false) (hc : p c = true) (rest : List Char) :
    splitWhere p (piece ++ c :: rest) = piece :: splitWhere p rest := by
  rw [splitWhere_append_of_cut hc, splitWhere_of_forall hpiece, List.singleton_append]

/-- The pieces of a text with the cuts between them make up the text. -/
theorem intercalate_splitWhere (c : Char) (cs : List Char) :
    [c].intercalate (splitWhere (· == c) cs) = cs := by
  induction cs with
  | nil => rfl
  | cons d cs ih =>
    obtain ⟨piece, pieces, hpieces⟩ := List.exists_cons_of_ne_nil (splitWhere_ne_nil (· == c) cs)
    rw [hpieces] at ih
    rw [splitWhere, hpieces]
    split
    · rename_i hd
      rw [List.intercalate_cons_cons, ih, beq_iff_eq.mp hd]
      rfl
    · cases pieces with
      | nil => rw [← ih, List.intercalate_singleton, List.intercalate_singleton]
      | cons next others => rw [← ih, List.intercalate_cons_cons, List.intercalate_cons_cons]; rfl

/-- What is appended to a text without a cut is appended to its last piece. -/
theorem exists_splitWhere_append {p : Char → Bool} {tail : List Char}
    (htail : ∀ d ∈ tail, p d = false) (cs : List Char) :
    ∃ front last, splitWhere p cs = front ++ [last] ∧
      splitWhere p (cs ++ tail) = front ++ [last ++ tail] := by
  obtain ⟨front, last, hcs⟩ := exists_splitWhere_eq_concat p cs
  exact ⟨front, last, hcs, splitWhere_append hcs (splitWhere_of_forall htail)⟩

/-- A piece before the last one is empty only if the text begins with a cut or has two cuts side by
side. -/
theorem exists_cut_of_nil_mem_splitWhere {p : Char → Bool} {cs : List Char}
    (h : [] ∈ (splitWhere p cs).dropLast) :
    (∃ c rest, cs = c :: rest ∧ p c = true) ∨
      ∃ c d, p c = true ∧ p d = true ∧ [c, d] <:+: cs := by
  -- the first piece may be empty where the text begins with a cut, the others only between two
  have hboth : ([] ∈ (splitWhere p cs).dropLast → (∃ c rest, cs = c :: rest ∧ p c = true) ∨
        ∃ c d, p c = true ∧ p d = true ∧ [c, d] <:+: cs) ∧
      ([] ∈ (splitWhere p cs).tail.dropLast → ∃ c d, p c = true ∧ p d = true ∧ [c, d] <:+: cs) := by
    clear h
    induction cs with
    | nil => simp [splitWhere]
    | cons c cs ih =>
      obtain ⟨hall, htail⟩ := ih
      have hlater : (∃ d e, p d = true ∧ p e = true ∧ [d, e] <:+: cs) →
          ∃ d e, p d = true ∧ p e = true ∧ [d, e] <:+: c :: cs :=
        fun ⟨d, e, hd, he, hinfix⟩ => ⟨d, e, hd, he, hinfix.trans (List.suffix_cons c cs).isInfix⟩
      rw [splitWhere]
      split
      · rename_i hc
        refine ⟨fun _ => .inl ⟨c, cs, rfl, hc⟩, fun h => ?_⟩
        rcases hall h with ⟨d, rest, rfl, hd⟩ | hfound
        · exact ⟨c, d, hc, hd, (List.prefix_append [c, d] rest).isInfix⟩
        · exact hlater hfound
      · obtain ⟨piece, pieces, hpieces⟩ := List.exists_cons_of_ne_nil (splitWhere_ne_nil p cs)
        rw [hpieces] at htail ⊢
        refine ⟨fun h => .inr (hlater (htail ?_)), fun h => hlater (htail h)⟩
        cases pieces with
        | nil => exact absurd h List.not_mem_nil
        | cons next others =>
          rw [List.dropLast_cons_cons, List.mem_cons] at h
          exact h.resolve_left (List.cons_ne_nil c piece).symm
  exact hboth.1 h

/-- Pieces without cuts that are joined with a cut, with one more behind them, are cut there. -/
theorem splitWhere_joinWith_append {p : Char → Bool} {c : Char} (hc : p c = true)
    {pieces : List (List Char)} (hne : pieces ≠ []) (h : ∀ piece ∈ pieces, ∀ d ∈ piece, p d = false)
    (rest : List Char) :
    splitWhere p (joinWith [c] pieces ++ c :: rest) = pieces ++ splitWhere p rest := by
  induction pieces with
  | nil => exact absurd rfl hne
  | cons piece pieces ih =>
    have hpiece := h piece List.mem_cons_self
    cases pieces with
    | nil => exact splitWhere_append_cons hpiece hc rest
    | cons next others =>
      have hrest := ih (by simp) fun other hother => h other (List.mem_cons_of_mem piece hother)
      have hcut : joinWith [c] (piece :: next :: others) ++ c :: rest =
          piece ++ c :: (joinWith [c] (next :: others) ++ c :: rest) := by
        simp [joinWith]
      rw [hcut, splitWhere_append_cons hpiece hc, hrest]
      rfl

/-- A character that is not in the separator is in joined pieces if it is in one of them. -/
theorem mem_joinWith_iff {separator : List Char} {c : Char} (hc : c ∉ separator)
    {pieces : List (List Char)} : c ∈ joinWith separator pieces ↔ ∃ piece ∈ pieces, c ∈ piece := by
  induction pieces with
  | nil => simp [joinWith]
  | cons piece pieces ih =>
    cases pieces with
    | nil => simp [joinWith]
    | cons next others =>
      rw [joinWith, List.mem_append, List.mem_append, ih]
      · simp [hc]
      · exact List.cons_ne_nil next others

/-- The pieces of a text make up the text without its cuts. -/
theorem flatten_splitWhere (p : Char → Bool) (cs : List Char) :
    (splitWhere p cs).flatten = cs.filter (!p ·) := by
  induction cs with
  | nil => rfl
  | cons c cs ih =>
    obtain ⟨piece, pieces, hpieces⟩ := List.exists_cons_of_ne_nil (splitWhere_ne_nil p cs)
    rw [hpieces] at ih
    rw [splitWhere, hpieces, List.filter_cons]
    cases hc : p c with
    | true => simpa using ih
    | false => simpa using ih

section Pieces

variable {p : Char → Bool} {cs piece : List Char} {d : Char}

theorem mem_and_of_mem_splitWhere (h : piece ∈ splitWhere p cs) (hd : d ∈ piece) :
    d ∈ cs ∧ p d = false := by
  have hmem : d ∈ (splitWhere p cs).flatten := List.mem_flatten.mpr ⟨piece, h, hd⟩
  rw [flatten_splitWhere, List.mem_filter, Bool.not_eq_true'] at hmem
  exact hmem

/-- Nothing in a piece is a cut. -/
theorem forall_of_mem_splitWhere (h : piece ∈ splitWhere p cs) : ∀ d ∈ piece, p d = false :=
  fun _ hd => (mem_and_of_mem_splitWhere h hd).2

/-- The characters of a piece are characters of the text. -/
theorem mem_of_mem_splitWhere (h : piece ∈ splitWhere p cs) (hd : d ∈ piece) : d ∈ cs :=
  (mem_and_of_mem_splitWhere h hd).1

end Pieces

/-- A word: at least one character, and none that is blank. -/
def IsWord (cs : List Char) : Prop :=
  cs ≠ [] ∧ ∀ c ∈ cs, isBlank c = false

/-- The words of a text are words. -/
theorem isWord_of_mem_words {cs word : List Char} (h : word ∈ words cs) : IsWord word := by
  obtain ⟨hmem, hne⟩ := List.mem_filter.mp h
  refine ⟨?_, forall_of_mem_splitWhere hmem⟩
  rintro rfl
  simp at hne

/-- Words joined with single spaces are the words of the joined text. -/
theorem words_joinWith {pieces : List (List Char)} (h : ∀ piece ∈ pieces, IsWord piece) :
    words (joinWith [' '] pieces) = pieces := by
  induction pieces with
  | nil => rfl
  | cons piece pieces ih =>
    have hpiece := h piece List.mem_cons_self
    have hrest := ih fun other hother => h other (List.mem_cons_of_mem piece hother)
    cases pieces with
    | nil => simp [words, joinWith, splitWhere_of_forall hpiece.2, hpiece.1]
    | cons next others =>
      have hcut : joinWith [' '] (piece :: next :: others) =
          piece ++ ' ' :: joinWith [' '] (next :: others) := by
        simp [joinWith]
      rw [words] at hrest ⊢
      rw [hcut, splitWhere_append_cons hpiece.2 (by decide), List.filter_cons_of_pos
        (by simpa using hpiece.1), hrest]

end Text

end PageMarkup
