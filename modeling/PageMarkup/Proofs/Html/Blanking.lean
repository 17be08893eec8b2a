import PageMarkup.Proofs.Html.Noise
import PageMarkup.Proofs.Text.Slices

/-!
# A page with its noise blanked

Noise is blanked by as many spaces as it has bytes.  So byte by byte the page stays what it was outside
of noise, and where a character of the blanked page is no space, the page can be cut too.
-/

namespace PageMarkup

open Text

namespace Html

variable {page : List Char} {pieces : List (Piece Unit)} {offset i : Nat}

theorem length_bytes_blanked (piece : Piece Unit) :
    (bytes (blanked piece)).length = size piece.source := by
  rw [length_bytes]
  cases piece with
  | char c => rfl
  | found value source => rw [blanked, size_replicate_space, Piece.source]

/-- The byte lies in noise. -/
def InNoise (noise : List (Placed Unit)) (i : Nat) : Prop :=
  ∃ found ∈ noise, found.start ≤ i ∧ i < found.stop

instance (noise : List (Placed Unit)) (i : Nat) : Decidable (InNoise noise i) :=
  List.decidableBEx _ _

@[simp] theorem inNoise_cons {found : Placed Unit} {noise : List (Placed Unit)} :
    InNoise (found :: noise) i ↔ (found.start ≤ i ∧ i < found.stop) ∨ InNoise noise i := by
  simp [InNoise]

/-- No noise lies before the first piece. -/
theorem not_inNoise_ofPieces (h : i < offset) : ¬ InNoise (Placed.ofPieces offset pieces) i := by
  rintro ⟨found, hfound, hstart, -⟩
  have := (Placed.start_le_of_mem_ofPieces hfound).1
  omega

/-- Byte by byte, noise becomes spaces and everything else stays. -/
theorem bytes_flatMap_blanked (offset : Nat) (pieces : List (Piece Unit)) (i : Nat) :
    (bytes (pieces.flatMap blanked))[i]? =
      if InNoise (Placed.ofPieces offset pieces) (offset + i) then some 32
      else (bytes (pieces.flatMap Piece.source))[i]? := by
  induction pieces generalizing offset i with
  | nil => simp [Placed.ofPieces, InNoise, bytes]
  | cons piece pieces ih =>
    have hlength := length_bytes_blanked piece
    have hsource := length_bytes piece.source
    rw [List.flatMap_cons, List.flatMap_cons, bytes_append, bytes_append]
    -- a blanked piece keeps its size, so both texts have the byte in the first piece or behind it
    by_cases hi : i < size piece.source
    · rw [List.getElem?_append_left (by omega), List.getElem?_append_left (by omega)]
      cases piece with
      | char c =>
        have hbefore : ¬ InNoise (Placed.ofPieces (offset + c.utf8Size) pieces) (offset + i) :=
          not_inNoise_ofPieces (Nat.add_lt_add_left hi offset)
        rw [Placed.ofPieces, if_neg hbefore]
        rfl
      | found value source =>
        have hin : InNoise (Placed.ofPieces offset (.found value source :: pieces)) (offset + i) :=
          inNoise_cons.mpr (.inl ⟨Nat.le_add_right _ _, Nat.add_lt_add_left hi offset⟩)
        have hspace : (List.replicate (size source) (32 : UInt8))[i]? = some 32 :=
          List.getElem?_replicate_of_lt hi
        rw [if_pos hin, blanked, bytes_replicate_space, hspace]
    · rw [List.getElem?_append_right (by omega), List.getElem?_append_right (by omega), hlength,
        hsource, ih (offset + size piece.source)]
      have hsum : offset + size piece.source + (i - size piece.source) = offset + i := by omega
      rw [hsum]
      cases piece with
      | char c => rfl
      | found value source =>
        have hbehind : ¬ offset + i < offset + size source := by
          simpa [Piece.source] using hi
        simp only [Placed.ofPieces, inNoise_cons, hbehind, and_false, false_or]
        rfl

theorem bytes_withoutNoise (page : List Char) (i : Nat) :
    (bytes (withoutNoise page))[i]? =
      if InNoise (Placed.findAll readNoise page) i then some 32 else (bytes page)[i]? := by
  have h := bytes_flatMap_blanked 0 (scan readNoise page) i
  rwa [← withoutNoise_eq, flatMap_source_scan, Nat.zero_add] at h

/-- A character of the blanked page that is no space is one of the page, at the same offset. -/
theorem isBoundary_flatMap_source {front back : List Char} {c : Char} (hc : c ≠ ' ')
    (h : pieces.flatMap blanked = front ++ c :: back) :
    IsBoundary (pieces.flatMap Piece.source) (size front) ∧
      IsBoundary (pieces.flatMap Piece.source) (size front + c.utf8Size) := by
  induction pieces generalizing front with
  | nil => simp at h
  | cons piece pieces ih =>
    have hshift {tail : List Char} (h : pieces.flatMap blanked = tail ++ c :: back)
        (hsize : size front = size piece.source + size tail) :
        IsBoundary ((piece :: pieces).flatMap Piece.source) (size front) ∧
          IsBoundary ((piece :: pieces).flatMap Piece.source) (size front + c.utf8Size) := by
      obtain ⟨hbefore, hbehind⟩ := ih h
      rw [List.flatMap_cons, hsize, Nat.add_assoc]
      exact ⟨hbefore.append_left piece.source, hbehind.append_left piece.source⟩
    rw [List.flatMap_cons] at h
    cases piece with
    | char d =>
      cases front with
      | nil =>
        obtain ⟨rfl, -⟩ := List.cons.inj h
        exact ⟨⟨[], _, rfl, rfl⟩, ⟨[d], _, rfl, by simp⟩⟩
      | cons e front =>
        obtain ⟨rfl, htail⟩ := List.cons.inj h
        exact hshift htail (by simp [Piece.source])
    | found value source =>
      -- the character does not lie in the spaces, so they end before it
      rcases List.append_eq_append_iff.mp h with ⟨tail, rfl, htail⟩ | ⟨tail, hspaces, htail⟩
      · exact hshift htail (by rw [size_append, blanked, size_replicate_space, Piece.source])
      · cases tail with
        | nil =>
          have hsize : size front = size source + size [] := by
            rw [← List.append_nil front, ← hspaces, blanked, size_replicate_space, size_nil,
              Nat.add_zero]
          have hhead : pieces.flatMap blanked = [] ++ c :: back := htail.symm
          exact hshift hhead hsize
        | cons d tail =>
          obtain ⟨rfl, -⟩ := List.cons.inj htail
          have hmem : c ∈ blanked (.found value source) := by simp [hspaces]
          exact absurd (List.eq_of_mem_replicate hmem) hc

/-- A boundary at a character that is no space is one of the page too. -/
theorem isBoundary_of_withoutNoise {front back : List Char} {c : Char} (hc : c ≠ ' ')
    (h : withoutNoise page = front ++ c :: back) :
    IsBoundary page (size front) ∧ IsBoundary page (size front + c.utf8Size) := by
  rw [withoutNoise_eq] at h
  have hboundary := isBoundary_flatMap_source hc h
  rwa [flatMap_source_scan] at hboundary

end Html

end PageMarkup
