import Mathlib.Tactic.Common
import PageMarkup.Proofs.Text.Replacing
import PageMarkup.Proofs.Text.Scanning

/-!
# Where a text occurs

A text is split at the first place at which something is recognized, and nothing is recognized
before it.  So it is found in a text exactly when it occurs in it, and what stands before the first
occurrence of a mark does not hold the mark, not even with the beginning of the one that is found.
-/

namespace PageMarkup

namespace Text

variable {close : List Char → Option (List Char)} {cs text inner mark part rest : List Char}

/-! ### Splitting at the first place -/

theorem splitFirst?_append_of_misses (h : Misses close text rest) :
    splitFirst? close (text ++ rest) =
      (splitFirst? close rest).map fun parts => (text ++ parts.1, parts.2) := by
  induction text with
  | nil => simp
  | cons c text ih =>
    rw [List.cons_append, splitFirst?, h.head, ih h.tail, Option.map_map]
    rfl

theorem splitFirst?_of_some (h : close text = some rest) :
    splitFirst? close text = some ([], rest) := by
  cases text with
  | nil => rw [splitFirst?, h]; rfl
  | cons c text => rw [splitFirst?, h]

/-- A text in front of which nothing is recognized, with one more character. -/
theorem misses_cons {c : Char} (hhead : close (c :: (text ++ rest)) = none)
    (htail : Misses close text rest) : Misses close (c :: text) rest := by
  intro before d after hsplit
  cases before with
  | nil =>
    obtain ⟨rfl, rfl⟩ := List.cons.inj hsplit
    exact hhead
  | cons e before => exact htail before d after (List.cons.inj hsplit).2

theorem splitFirst?_eq_some_iff : splitFirst? close cs = some (inner, rest) ↔
    ∃ behind, cs = inner ++ behind ∧ close behind = some rest ∧ Misses close inner behind := by
  constructor
  · intro h
    induction cs generalizing inner with
    | nil =>
      rw [splitFirst?, Option.map_eq_some_iff] at h
      obtain ⟨found, hfound, hparts⟩ := h
      obtain ⟨rfl, rfl⟩ := Prod.mk.inj hparts
      exact ⟨[], rfl, hfound, misses_nil []⟩
    | cons c cs ih =>
      rw [splitFirst?] at h
      cases hread : close (c :: cs) with
      | some found =>
        rw [hread] at h
        obtain ⟨rfl, rfl⟩ := Prod.mk.inj (Option.some.inj h)
        exact ⟨c :: cs, rfl, hread, misses_nil _⟩
      | none =>
        rw [hread] at h
        obtain ⟨parts, hparts, heq⟩ := Option.map_eq_some_iff.mp h
        obtain ⟨rfl, rfl⟩ := Prod.mk.inj heq
        obtain ⟨behind, rfl, hfound, hmisses⟩ := ih hparts
        exact ⟨behind, rfl, hfound, misses_cons hread hmisses⟩
  · rintro ⟨behind, rfl, hfound, hmisses⟩
    rw [splitFirst?_append_of_misses hmisses, splitFirst?_of_some hfound, Option.map_some,
      List.append_nil]

/-! ### Occurrences -/

theorem isSome_after?_iff : (after? part cs).isSome = true ↔ part <+: cs := by
  rw [Option.isSome_iff_exists]
  constructor
  · rintro ⟨rest, hrest⟩
    exact ⟨rest, (after?_eq_some_iff.mp hrest).symm⟩
  · rintro ⟨rest, rfl⟩
    exact ⟨rest, after?_eq_some_iff.mpr rfl⟩

/-- A text is found exactly where it occurs. -/
theorem contains_iff : contains part cs = true ↔ part <:+: cs := by
  rw [contains, splitAt?]
  induction cs with
  | nil => rw [splitFirst?, Option.isSome_map, isSome_after?_iff, List.infix_nil, List.prefix_nil]
  | cons c cs ih =>
    rw [splitFirst?, List.infix_cons_iff, ← isSome_after?_iff]
    cases after? part (c :: cs) with
    | some rest => simp
    | none => simpa using ih

/-- Whether a mark begins inside a text that another mark follows is told from all but the last
character of that one. -/
theorem prefix_append_mark_iff (hinner : inner ≠ []) :
    mark <+: inner ++ (mark ++ rest) ↔ mark <+: inner ++ mark.dropLast := by
  have hwhole : inner ++ mark.dropLast <+: inner ++ (mark ++ rest) :=
    (List.prefix_append_right_inj inner).mpr
      ((List.dropLast_prefix mark).trans (List.prefix_append mark rest))
  constructor
  · intro h
    refine List.prefix_of_prefix_length_le h hwhole ?_
    have hpos := List.length_pos_iff.mpr hinner
    rw [List.length_append, List.length_dropLast]
    omega
  · exact fun h => h.trans hwhole

/-- A mark is not found in front of an occurrence if not even the beginning of that one makes it
occur. -/
theorem misses_after?_iff (hmark : mark ≠ []) : Misses (after? mark) inner (mark ++ rest) ↔
    ¬ mark <:+: inner ++ mark.dropLast := by
  have hpos := List.length_pos_iff.mpr hmark
  constructor
  · intro h hinfix
    obtain ⟨tail, hprefix, before, hbefore⟩ := List.infix_iff_prefix_suffix.mp hinfix
    -- the mark found begins inside, else it would be too long
    have hlength := hprefix.length_le
    rcases List.append_eq_append_iff.mp hbefore with ⟨front, rfl, rfl⟩ | ⟨more, rfl, hmore⟩
    · cases front with
      | nil =>
        rw [List.nil_append, List.length_dropLast] at hlength
        omega
      | cons d after =>
        obtain ⟨behind, hbehind⟩ :=
          (prefix_append_mark_iff (List.cons_ne_nil d after)).mpr hprefix
        have hnone := h before d after rfl
        rw [← List.cons_append, ← hbehind, after?_eq_some_iff.mpr rfl] at hnone
        cases hnone
    · have hsum := congrArg List.length hmore
      rw [List.length_dropLast, List.length_append] at hsum
      omega
  · intro h before d after hsplit
    refine Option.eq_none_iff_forall_ne_some.mpr fun more hmore => h ?_
    have hprefix : mark <+: d :: after ++ mark.dropLast :=
      (prefix_append_mark_iff (List.cons_ne_nil d after)).mp
        ⟨more, (after?_eq_some_iff.mp hmore).symm⟩
    rw [hsplit, List.append_assoc]
    exact hprefix.isInfix.trans (List.suffix_append _ _).isInfix

/-- What stands before the first occurrence of a mark. -/
theorem splitAt?_eq_some_iff (hmark : mark ≠ []) : splitAt? mark cs = some (inner, rest) ↔
    cs = inner ++ (mark ++ rest) ∧ ¬ mark <:+: inner ++ mark.dropLast := by
  have hmisses : Misses (after? mark) inner (mark ++ rest) ↔ _ := misses_after?_iff hmark
  rw [splitAt?, splitFirst?_eq_some_iff, ← hmisses]
  simp only [after?_eq_some_iff]
  constructor
  · rintro ⟨_, rfl, rfl, hmisses⟩
    exact ⟨rfl, hmisses⟩
  · rintro ⟨rfl, hmisses⟩
    exact ⟨_, rfl, rfl, hmisses⟩

end Text

end PageMarkup
