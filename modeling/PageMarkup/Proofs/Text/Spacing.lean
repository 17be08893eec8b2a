import Mathlib.Data.List.Basic
import PageMarkup.Proofs.Text.Scanning
import PageMarkup.Proofs.Text.Trimming

/-!
# Texts that differ in the length of a run of spaces

Two texts may differ in one place only, where either has spaces, but not as many.  A reader that
begins at no space and recognizes the same in both finds the same in both, one part after another,
and what is replaced leaves two texts that again differ in a run of spaces at most.  The words of
two such texts are the same.
-/

namespace PageMarkup

universe u

variable {α : Type u}

namespace Text

/-- Two texts that differ at most in the length of a run of spaces, before which stands a text with
a property. -/
inductive Spaced (P : List Char → Prop) : List Char → List Char → Prop
  | refl (cs : List Char) : Spaced P cs cs
  | run {front : List Char} (hfront : P front) (n m : Nat) (back : List Char) :
      Spaced P (front ++ (List.replicate (n + 1) ' ' ++ back))
        (front ++ (List.replicate (m + 1) ' ' ++ back))

variable {P : List Char → Prop} {cs ds : List Char}

/-- The property is one that every end of a text shares with it. -/
def IsInherited (P : List Char → Prop) : Prop :=
  ∀ front back, P (front ++ back) → P back

theorem isInherited_true : IsInherited fun _ => True :=
  fun _ _ _ => trivial

theorem Spaced.mono {Q : List Char → Prop} (hPQ : ∀ front, P front → Q front)
    (h : Spaced P cs ds) : Spaced Q cs ds := by
  cases h with
  | refl => exact .refl _
  | run hfront n m back => exact .run (hPQ _ hfront) n m back

theorem spaced_run (front : List Char) (n m : Nat) (back : List Char) :
    Spaced (fun _ => True) (front ++ (List.replicate (n + 1) ' ' ++ back))
      (front ++ (List.replicate (m + 1) ' ' ++ back)) :=
  .run trivial n m back

/-- Behind a common beginning texts differ just as much. -/
theorem Spaced.append_left (front : List Char) (h : Spaced (fun _ => True) cs ds) :
    Spaced (fun _ => True) (front ++ cs) (front ++ ds) := by
  cases h with
  | refl => exact .refl _
  | @run middle _ n m back =>
    have hrun := spaced_run (front ++ middle) n m back
    rwa [List.append_assoc, List.append_assoc] at hrun

/-- A reader recognizes the same in two texts, and what follows differs in a run of spaces at most.
-/
inductive ReadsAlike (P : List Char → Prop) (read : Reader α) (cs ds : List Char) : Prop
  | none (hleft : read cs = none) (hright : read ds = none)
  | some {value : α} {rest rest' : List Char} (hleft : read cs = some (value, rest))
      (hright : read ds = some (value, rest')) (hrest : Spaced P rest rest')

/-! ### Scanning two texts -/

/-- The parts of two texts, one after another the same but for a run of spaces and what spells the
parts. -/
inductive Aligned : List (Piece α) → List (Piece α) → Prop
  | refl (pieces : List (Piece α)) : Aligned pieces pieces
  | spaces (n m : Nat) (pieces : List (Piece α)) :
      Aligned (List.replicate (n + 1) (.char ' ') ++ pieces)
        (List.replicate (m + 1) (.char ' ') ++ pieces)
  | char (c : Char) {left right : List (Piece α)} (h : Aligned left right) :
      Aligned (.char c :: left) (.char c :: right)
  | found (value : α) (source source' : List Char) {left right : List (Piece α)}
      (h : Aligned left right) :
      Aligned (.found value source :: left) (.found value source' :: right)

/-- A reader takes a part from the beginning of a text and gives back the rest. -/
def Progresses (read : Reader α) : Prop :=
  ∀ cs value rest, read cs = some (value, rest) → ∃ part, part ≠ [] ∧ cs = part ++ rest

/-- Induction along a scan: a text is empty, begins with a character at which nothing is recognized,
or begins with a part that is. -/
@[elab_as_elim]
theorem Progresses.induction {read : Reader α} (hprogress : Progresses read)
    {motive : List Char → Prop} (nil : motive [])
    (char : ∀ c cs, read (c :: cs) = none → motive cs → motive (c :: cs))
    (found : ∀ value part rest, part ≠ [] → read (part ++ rest) = some (value, rest) →
      motive rest → motive (part ++ rest)) (cs : List Char) : motive cs := by
  induction hlength : cs.length using Nat.strongRecOn generalizing cs with
  | ind length ih =>
  cases cs with
  | nil => exact nil
  | cons c cs =>
    cases hread : read (c :: cs) with
    | none => exact char c cs hread (ih cs.length (by simp [← hlength]) cs rfl)
    | some both =>
      obtain ⟨value, rest⟩ := both
      obtain ⟨part, hne, hpart⟩ := hprogress _ _ _ hread
      have hshort : rest.length < length := by
        have hpos := List.length_pos_iff.mpr hne
        rw [← hlength, hpart, List.length_append]
        omega
      rw [hpart] at hread ⊢
      exact found value part rest hne hread (ih rest.length hshort rest rfl)

theorem scan_spaces {read : Reader α} (hspace : ∀ cs, read (' ' :: cs) = none) (n : Nat)
    (back : List Char) :
    scan read (List.replicate n ' ' ++ back) =
      List.replicate n (.char ' ') ++ scan read back := by
  induction n with
  | zero => rfl
  | succ n ih =>
    rw [List.replicate_succ, List.cons_append, scan_cons_of_none (hspace _), ih]
    rfl

/-- Two texts in which a reader recognizes the same wherever they have not come to the spaces are
scanned alike. -/
theorem aligned_scan {read : Reader α} (hP : IsInherited P) (hprogress : Progresses read)
    (hspace : ∀ cs, read (' ' :: cs) = none)
    (hread : ∀ c front n m back, P (c :: front) → ReadsAlike P read
      (c :: front ++ (List.replicate (n + 1) ' ' ++ back))
      (c :: front ++ (List.replicate (m + 1) ' ' ++ back)))
    (h : Spaced P cs ds) : Aligned (scan read cs) (scan read ds) := by
  -- the rest of a part that was read is shorter, wherever it ends
  induction hlength : cs.length using Nat.strongRecOn generalizing cs ds with
  | ind length ih =>
  cases h with
  | refl => exact .refl _
  | @run front hfront n m back =>
    cases front with
    | nil =>
      rw [List.nil_append, List.nil_append, scan_spaces hspace, scan_spaces hspace]
      exact .spaces n m _
    | cons c front =>
      have htail : P front := hP [c] front hfront
      rcases hread c front n m back hfront with ⟨hleft, hright⟩ | ⟨hleft, hright, hrest⟩
      · rw [List.cons_append] at hleft hright ⊢
        rw [List.cons_append, scan_cons_of_none hleft, scan_cons_of_none hright]
        refine .char c (ih _ ?_ (.run htail n m back) rfl)
        simp [← hlength]
      · rename_i value rest rest'
        obtain ⟨part, hpart, hcs⟩ := hprogress _ _ _ hleft
        obtain ⟨part', hpart', hds⟩ := hprogress _ _ _ hright
        rw [hcs] at hleft hlength ⊢
        rw [hds] at hright ⊢
        rw [scan_append_of_some hpart hleft, scan_append_of_some hpart' hright]
        refine .found value _ _ (ih _ ?_ hrest rfl)
        have hpos := List.length_pos_iff.mpr hpart
        rw [← hlength, List.length_append]
        omega

variable {left right : List (Piece α)}

/-- In texts that are scanned alike the same is found. -/
theorem Aligned.filterMap_value? (h : Aligned left right) :
    left.filterMap Piece.value? = right.filterMap Piece.value? := by
  induction h with
  | refl => rfl
  | spaces n m pieces =>
    have hnone : ∀ n, (List.replicate n (.char ' ' : Piece α)).filterMap Piece.value? = [] := by
      intro n
      rw [List.filterMap_eq_nil_iff]
      intro piece hpiece
      rw [List.eq_of_mem_replicate hpiece]
      rfl
    rw [List.filterMap_append, List.filterMap_append, hnone, hnone]
  | char c _ ih => exact ih
  | found value source source' _ ih =>
    exact congrArg (value :: ·) ih

/-- What takes the place of a piece, where it does not depend on what spells a part. -/
def replaced (replacement : α → List Char) : Piece α → List Char
  | .char c => [c]
  | .found value _ => replacement value

theorem replaceFound_eq (read : Reader α) (replacement : α → List Char) (cs : List Char) :
    replaceFound read (fun value _ => replacement value) cs =
      (scan read cs).flatMap (replaced replacement) :=
  rfl

/-- Of texts that are scanned alike, those with the parts replaced differ in a run of spaces at
most. -/
theorem Aligned.replaced (replacement : α → List Char) (h : Aligned left right) :
    Spaced (fun _ => True) (left.flatMap (replaced replacement))
      (right.flatMap (replaced replacement)) := by
  induction h with
  | refl => exact .refl _
  | spaces n m pieces =>
    have hspaces : ∀ n,
        (List.replicate n (.char ' ' : Piece α)).flatMap (Text.replaced replacement) =
        List.replicate n ' ' := by
      intro n
      induction n with
      | zero => rfl
      | succ n ih => rw [List.replicate_succ, List.flatMap_cons, ih]; rfl
    rw [List.flatMap_append, List.flatMap_append, hspaces, hspaces]
    exact spaced_run [] n m _
  | char c _ ih => exact ih.append_left [c]
  | found value source source' _ ih => exact ih.append_left (replacement value)

/-! ### Words -/

theorem words_append_space (front rest : List Char) :
    words (front ++ ' ' :: rest) = words front ++ words rest := by
  rw [words, splitWhere_append_of_cut (by decide), List.filter_append]
  rfl

theorem words_spaces (n : Nat) (rest : List Char) :
    words (List.replicate n ' ' ++ rest) = words rest := by
  induction n with
  | zero => rfl
  | succ n ih =>
    have hspace := words_append_space [] (List.replicate n ' ' ++ rest)
    rw [ih] at hspace
    exact hspace

/-- A run of spaces parts words whatever its length is. -/
theorem Spaced.words_eq (h : Spaced P cs ds) : words cs = words ds := by
  cases h with
  | refl => rfl
  | @run front _ n m back =>
    rw [List.replicate_succ, List.replicate_succ, List.cons_append, List.cons_append,
      words_append_space, words_append_space, words_spaces, words_spaces]

end Text

end PageMarkup
