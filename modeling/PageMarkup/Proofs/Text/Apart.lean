import PageMarkup.Proofs.Html.Tags
import PageMarkup.Proofs.Text.Borders

/-!
# Texts set apart by blanks

Where a blank stands at the border of two texts, no word reaches over the border, and neither does
anything that is written without blanks.
-/

namespace PageMarkup

namespace Text

variable {front rest cs : List Char}

/-- The text is empty or ends with a blank. -/
def EndsApart (cs : List Char) : Prop :=
  ∀ c ∈ cs.getLast?, isBlank c = true

/-- The text is empty or begins with a blank. -/
def BeginsApart (cs : List Char) : Prop :=
  ∀ c ∈ cs.head?, isBlank c = true

instance (cs : List Char) : Decidable (EndsApart cs) :=
  match h : cs.getLast? with
  | none => .isTrue fun c hc => by rw [h] at hc; cases hc
  | some d => decidable_of_iff (isBlank d = true) (by simp [EndsApart, h])

instance (cs : List Char) : Decidable (BeginsApart cs) :=
  match h : cs.head? with
  | none => .isTrue fun c hc => by rw [h] at hc; cases hc
  | some d => decidable_of_iff (isBlank d = true) (by simp [BeginsApart, h])

/-- A text that ends apart is empty or has a blank at its end. -/
theorem EndsApart.cases (h : EndsApart cs) :
    cs = [] ∨ ∃ front c, cs = front ++ [c] ∧ isBlank c = true := by
  rcases List.eq_nil_or_concat cs with rfl | ⟨front, c, rfl⟩
  · exact .inl rfl
  · rw [List.concat_eq_append] at h ⊢
    exact .inr ⟨front, c, rfl, h c List.getLast?_concat⟩

/-- What begins apart is empty or has a blank at its beginning. -/
theorem BeginsApart.cases (h : BeginsApart cs) :
    cs = [] ∨ ∃ c more, cs = c :: more ∧ isBlank c = true := by
  cases cs with
  | nil => exact .inl rfl
  | cons c more => exact .inr ⟨c, more, rfl, h c rfl⟩

theorem endsApart_of_allBlank (h : allBlank cs = true) : EndsApart cs :=
  fun c hc => List.all_eq_true.mp h c (List.mem_of_getLast? hc)

theorem beginsApart_of_allBlank (h : allBlank cs = true) : BeginsApart cs :=
  fun c hc => List.all_eq_true.mp h c (List.mem_of_head? hc)

/-- What is left of a text that ends apart ends apart. -/
theorem EndsApart.trimStart (h : EndsApart cs) : EndsApart (trimStart cs) := by
  intro c hc
  obtain ⟨blanks, -, hcs⟩ := exists_append_trimStart cs
  refine h c ?_
  rw [hcs, List.getLast?_append, hc]
  rfl

/-- What is left of a text that begins apart begins apart. -/
theorem BeginsApart.trimEnd (h : BeginsApart cs) : BeginsApart (trimEnd cs) := by
  intro c hc
  obtain ⟨blanks, -, hcs⟩ := exists_trimEnd_append cs
  refine h c ?_
  rw [hcs, List.head?_append, hc]
  rfl

/-! ### Words -/

/-- No word reaches over a blank. -/
theorem words_append (h : EndsApart front ∨ BeginsApart rest) :
    words (front ++ rest) = words front ++ words rest := by
  have hcut {c : Char} (hc : isBlank c = true) (front rest : List Char) :
      words (front ++ c :: rest) = words front ++ words rest := by
    rw [words, splitWhere_append_of_cut hc, List.filter_append]
    rfl
  rcases h with h | h
  · rcases h.cases with rfl | ⟨front, c, rfl, hc⟩
    · rfl
    · rw [List.append_assoc, List.singleton_append, hcut hc, hcut hc]
      simp [words, splitWhere]
  · rcases h.cases with rfl | ⟨c, more, rfl, hc⟩
    · simp [words, splitWhere]
    · have hrest := hcut hc [] more
      rw [List.nil_append] at hrest
      rw [hcut hc, hrest]
      rfl

theorem words_of_allBlank (h : allBlank cs = true) : words cs = [] := by
  induction cs with
  | nil => rfl
  | cons c cs ih =>
    obtain ⟨hc, hcs⟩ := Bool.and_eq_true_iff.mp h
    rw [words, splitWhere, if_pos hc]
    exact ih hcs

@[simp] theorem words_trimStart (cs : List Char) : words (trimStart cs) = words cs := by
  obtain ⟨blanks, hblanks, hcs⟩ := exists_append_trimStart cs
  conv_rhs => rw [hcs, words_append (.inl (endsApart_of_allBlank hblanks)),
    words_of_allBlank hblanks, List.nil_append]

@[simp] theorem words_trimEnd (cs : List Char) : words (trimEnd cs) = words cs := by
  obtain ⟨blanks, hblanks, hcs⟩ := exists_trimEnd_append cs
  conv_rhs => rw [hcs, words_append (.inr (beginsApart_of_allBlank hblanks)),
    words_of_allBlank hblanks, List.append_nil]

/-- A text without blanks is one word. -/
theorem words_of_isWord (h : IsWord cs) : words cs = [cs] := by
  rw [words, splitWhere_of_forall h.2]
  simp [h.1]

/-! ### Trimming around a text -/

theorem trimEnd_append (hfront : ∀ c ∈ front.getLast?, isBlank c = false) (rest : List Char) :
    trimEnd (front ++ rest) = front ++ trimEnd rest := by
  have hhead : ∀ c ∈ front.reverse.head?, isBlank c = false :=
    fun c hc => hfront c (by rwa [List.head?_reverse] at hc)
  have hstart := trimStart_append hhead rest.reverse
  show (trimStart (front ++ rest).reverse).reverse = _
  rw [List.reverse_append, hstart, List.reverse_append, List.reverse_reverse]
  rfl

/-- Around a text without blanks at its ends only blanks at the outer ends are trimmed. -/
theorem trim_around {core : List Char} (hcore : IsTrimmed core) (hne : core ≠ [])
    (front back : List Char) :
    trim (front ++ (core ++ back)) = trimStart front ++ (core ++ trimEnd back) := by
  have hhead : ∀ c ∈ (core ++ back).head?, isBlank c = false := by
    rw [List.head?_append_of_ne_nil _ hne]
    exact hcore.1
  have hlast : ∀ c ∈ (trimStart front ++ core).getLast?, isBlank c = false := by
    rw [List.getLast?_append_of_ne_nil _ hne]
    exact hcore.2
  rw [trim, trimStart_append hhead, ← List.append_assoc, trimEnd_append hlast,
    List.append_assoc]

/-! ### Marks without blanks -/

/-- Blanks are left alone where letters are compared without regard to case. -/
theorem fold_eq_self_of_isBlank {c : Char} (h : isBlank c = true) : fold c = c := by
  simp only [isBlank, Bool.or_eq_true, Bool.and_eq_true, decide_eq_true_eq, beq_iff_eq] at h
  unfold fold
  rw [if_neg (by omega), if_neg (by omega), toLower_eq_self (by omega)]

/-- A mark without blanks that does not begin in a text does not begin there either with more behind
a blank. -/
theorem misses_afterFolded?_of_border {mark : List Char} (hmark : mark.any isBlank = false)
    (hborder : EndsApart front ∨ BeginsApart rest) (h : Misses (afterFolded? mark) front []) :
    Misses (afterFolded? mark) front rest := by
  have hblank {c : Char} (hc : isBlank c = true) : fold c ∉ mark := by
    intro hmem
    have hunblank := List.any_eq_false.mp hmark _ hmem
    rw [fold_eq_self_of_isBlank hc] at hunblank
    exact hunblank hc
  intro before c after hfront
  have hnone := h before c after hfront
  rw [List.append_nil] at hnone
  rw [← List.cons_append]
  rcases hborder with hend | hbegin
  · obtain ⟨inside, d, hinside, hd⟩ := (EndsApart.cases fun d hd => hend d (by
      rw [hfront, List.getLast?_append, hd]; rfl)).resolve_left (List.cons_ne_nil c after)
    rw [hinside, List.append_assoc, List.singleton_append, Html.afterFolded?_append (hblank hd)]
    rw [hinside, Html.afterFolded?_append (hblank hd)] at hnone
    rw [Option.map_eq_none_iff.mp hnone]
    rfl
  · rcases hbegin.cases with rfl | ⟨d, more, rfl, hd⟩
    · rwa [List.append_nil]
    · rw [Html.afterFolded?_append (hblank hd), hnone]
      rfl

end Text

end PageMarkup
