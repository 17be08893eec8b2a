import PageMarkup.Proofs.Text.Occurrences
import PageMarkup.Stylesheet

/-!
# Comments of a stylesheet

A comment reaches up to the first `*/` behind its beginning.  A stylesheet in which no comment is
begun and ended is left as it is.  One that closes its comments is left without them, whatever
follows: then a text on the next line keeps its own comments.
-/

namespace PageMarkup

open Text

namespace Stylesheet

/-- The mark that begins a comment. -/
def commentStart : List Char := ['/', '*']

/-- The mark that ends a comment. -/
def commentEnd : List Char := ['*', '/']

/-- A comment, up to the first mark that ends it. -/
def IsComment (cs : List Char) : Prop :=
  ∃ inner, ¬ commentEnd <:+: inner ++ ['*'] ∧ cs = commentStart ++ (inner ++ commentEnd)

variable {cs rest : List Char}

theorem readComment_start (inside : List Char) : readComment (commentStart ++ inside) =
    (splitAt? commentEnd inside).map fun parts => ((), parts.2) := rfl

theorem readComment_eq_some_iff : readComment cs = some ((), rest) ↔
    ∃ comment, IsComment comment ∧ cs = comment ++ rest := by
  have hsplit {ds inner : List Char} : splitAt? commentEnd ds = some (inner, rest) ↔
      ds = inner ++ (commentEnd ++ rest) ∧ ¬ commentEnd <:+: inner ++ ['*'] :=
    splitAt?_eq_some_iff (by decide)
  constructor
  · intro h
    unfold readComment at h
    split at h
    · rename_i ds
      obtain ⟨parts, hparts, hrest⟩ := Option.map_eq_some_iff.mp h
      obtain rfl : parts.2 = rest := (Prod.mk.inj hrest).2
      obtain ⟨rfl, hinner⟩ := hsplit.mp hparts
      exact ⟨_, ⟨parts.1, hinner, rfl⟩, by simp [commentStart]⟩
    · cases h
  · rintro ⟨_, ⟨inner, hinner, rfl⟩, rfl⟩
    rw [List.append_assoc, List.append_assoc, readComment_start, hsplit.mpr ⟨rfl, hinner⟩]
    rfl

/-- A comment is found where it begins. -/
theorem IsComment.withoutComments_append {comment : List Char} (h : IsComment comment)
    (rest : List Char) : withoutComments (comment ++ rest) = withoutComments rest := by
  have hread : readComment (comment ++ rest) = some ((), rest) :=
    readComment_eq_some_iff.mpr ⟨comment, h, rfl⟩
  obtain ⟨inner, -, rfl⟩ := h
  exact replaceFound_append_of_some (by simp [commentStart]) hread

theorem withoutComments_cons {c : Char} (h : readComment (c :: cs) = none) :
    withoutComments (c :: cs) = c :: withoutComments cs :=
  replaceFound_cons_of_none h

/-- Where no comment begins, none is found. -/
theorem readComment_eq_none (h : ¬ commentStart <+: cs) : readComment cs = none := by
  refine Option.eq_none_iff_forall_ne_some.mpr fun found hfound => h ?_
  obtain ⟨⟨⟩, rest⟩ := found
  obtain ⟨_, ⟨inner, -, rfl⟩, rfl⟩ := readComment_eq_some_iff.mp hfound
  rw [List.append_assoc]
  exact List.prefix_append _ _

/-! ### Stylesheets without comments -/

/-- No comment is begun and ended. -/
def IsCommentFree (cs : List Char) : Prop :=
  ¬ ∃ front inner back, cs = front ++ (commentStart ++ (inner ++ (commentEnd ++ back)))

/-- What holds no comment is left as it is. -/
theorem withoutComments_eq_self (h : IsCommentFree cs) : withoutComments cs = cs := by
  induction cs with
  | nil => rfl
  | cons c cs ih =>
    have hrest : IsCommentFree cs := by
      rintro ⟨front, inner, back, rfl⟩
      exact h ⟨c :: front, inner, back, rfl⟩
    have hnone : readComment (c :: cs) = none := by
      refine Option.eq_none_iff_forall_ne_some.mpr fun found hfound => h ?_
      obtain ⟨⟨⟩, rest⟩ := found
      obtain ⟨_, ⟨inner, -, rfl⟩, hcs⟩ := readComment_eq_some_iff.mp hfound
      exact ⟨[], inner, rest, by rw [hcs, List.append_assoc, List.append_assoc]; rfl⟩
    rw [withoutComments_cons hnone, ih hrest]

/-! ### Closed comments -/

/-- Every comment of the text is closed, whatever follows. -/
inductive ClosesComments : List Char → Prop
  | nil : ClosesComments []
  | comment {comment rest : List Char} (hcomment : IsComment comment)
      (hrest : ClosesComments rest) : ClosesComments (comment ++ rest)
  | char {c : Char} {cs : List Char} (hstart : ¬ commentStart <+: c :: cs)
      (hcs : ClosesComments cs) : ClosesComments (c :: cs)

/-- A text that closes its comments does not touch those of what follows. -/
theorem ClosesComments.withoutComments_append {front back : List Char} (h : ClosesComments front)
    (hback : back.head? ≠ some '*') :
    withoutComments (front ++ back) = withoutComments front ++ withoutComments back := by
  induction h with
  | nil => rfl
  | comment hcomment _ ih =>
    rw [List.append_assoc, hcomment.withoutComments_append, hcomment.withoutComments_append, ih]
  | @char c cs hstart _ ih =>
    have hboth : ¬ commentStart <+: c :: (cs ++ back) := by
      rintro ⟨rest, hrest⟩
      obtain ⟨rfl, hstar⟩ := List.cons.inj hrest
      cases cs with
      | nil =>
        rw [List.nil_append] at hstar
        exact hback (by rw [← hstar]; rfl)
      | cons d cs =>
        obtain ⟨rfl, -⟩ := List.cons.inj hstar
        exact hstart ⟨cs, rfl⟩
    rw [List.cons_append, withoutComments_cons (readComment_eq_none hboth), ih,
      withoutComments_cons (readComment_eq_none hstart), List.cons_append]

/-- A text closes its comments, or one of them is open at its end. -/
theorem closesComments_or (cs : List Char) : ClosesComments cs ∨
    ∃ front inside, ClosesComments front ∧ ¬ commentEnd <:+: inside ∧
      cs = front ++ (commentStart ++ inside) := by
  induction hsize : cs.length using Nat.strongRecOn generalizing cs with
  | ind n ih =>
    cases hread : readComment cs with
    | some found =>
      obtain ⟨⟨⟩, rest⟩ := found
      obtain ⟨comment, hcomment, rfl⟩ := readComment_eq_some_iff.mp hread
      have hlength : rest.length < n := by
        obtain ⟨inner, -, rfl⟩ := hcomment
        rw [← hsize]
        simp only [commentStart, List.length_append, List.length_cons]
        omega
      rcases ih _ hlength rest rfl with hrest | ⟨front, inside, hfront, hinside, rfl⟩
      · exact .inl (.comment hcomment hrest)
      · exact .inr ⟨comment ++ front, inside, .comment hcomment hfront, hinside,
          (List.append_assoc _ _ _).symm⟩
    | none =>
      by_cases hstart : commentStart <+: cs
      · obtain ⟨inside, rfl⟩ := hstart
        refine .inr ⟨[], inside, .nil, fun hend => ?_, rfl⟩
        obtain ⟨parts, hparts⟩ := Option.isSome_iff_exists.mp (contains_iff.mpr hend)
        have hsplit : splitAt? commentEnd inside = some parts := hparts
        rw [readComment_start, hsplit] at hread
        cases hread
      · cases cs with
        | nil => exact .inl .nil
        | cons c cs =>
          rcases ih cs.length (by simp [← hsize]) cs rfl with
            hcs | ⟨front, inside, hfront, hinside, rfl⟩
          · exact .inl (.char hstart hcs)
          · refine .inr ⟨c :: front, inside, .char (fun h => hstart ?_) hfront, hinside, rfl⟩
            exact h.trans (List.cons_prefix_cons.mpr ⟨rfl, List.prefix_append _ _⟩)

end Stylesheet

end PageMarkup
