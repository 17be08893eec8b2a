import PageMarkup.Proofs.Text.Spacing

/-!
# Offsets into a text

An offset counts bytes.  A text can be cut only at a boundary between two characters, and a slice
between two offsets is there only if both are boundaries in the right order.  What a scan recognizes
is placed between the offset at which it begins and the one at which it ends; such places follow one
another.
-/

namespace PageMarkup

variable {α : Type*}

namespace Text

/-! ### Bytes -/

/-- The bytes of a text in UTF-8. -/
def bytes (cs : List Char) : List UInt8 :=
  cs.flatMap String.utf8EncodeChar

@[simp] theorem bytes_append (cs ds : List Char) : bytes (cs ++ ds) = bytes cs ++ bytes ds :=
  List.flatMap_append

@[simp] theorem length_bytes (cs : List Char) : (bytes cs).length = size cs := by
  induction cs with
  | nil => rfl
  | cons c cs ih =>
    rw [bytes, List.flatMap_cons, List.length_append, String.length_utf8EncodeChar, size_cons]
    exact congrArg _ ih

theorem bytes_replicate_space (n : Nat) : bytes (List.replicate n ' ') = List.replicate n 32 := by
  induction n with
  | zero => rfl
  | succ n ih =>
    rw [List.replicate_succ, List.replicate_succ, ← ih]
    rfl

/-! ### Boundaries and slices -/

/-- The offset stands between two characters of the text, or at one of its ends. -/
def IsBoundary (cs : List Char) (offset : Nat) : Prop :=
  ∃ front back, cs = front ++ back ∧ size front = offset

/-- A boundary stays one behind another text, only further on. -/
theorem IsBoundary.append_left {cs : List Char} {offset : Nat} (h : IsBoundary cs offset)
    (before : List Char) : IsBoundary (before ++ cs) (size before + offset) := by
  obtain ⟨front, back, rfl, rfl⟩ := h
  exact ⟨before ++ front, back, (List.append_assoc before front back).symm, size_append ..⟩

/-- The parts of a text before and behind an offset. -/
def splitAtByte? (offset : Nat) : List Char → Option (List Char × List Char)
  | [] => if offset = 0 then some ([], []) else none
  | c :: cs =>
    if offset = 0 then some ([], c :: cs)
    else if offset < c.utf8Size then none
    else (splitAtByte? (offset - c.utf8Size) cs).map fun (front, back) => (c :: front, back)

/-- The part of a text from one offset to another one. -/
def slice? (cs : List Char) (start stop : Nat) : Option (List Char) :=
  if stop < start then none
  else do
    let (_, back) ← splitAtByte? start cs
    let (part, _) ← splitAtByte? (stop - start) back
    some part

theorem splitAtByte?_append (front back : List Char) :
    splitAtByte? (size front) (front ++ back) = some (front, back) := by
  induction front with
  | nil => cases back <;> rfl
  | cons c front ih =>
    have hpos := c.utf8Size_pos
    rw [List.cons_append, splitAtByte?, size_cons, if_neg (by omega), if_neg (by omega),
      Nat.add_sub_cancel_left, ih]
    rfl

theorem slice?_append (front part back : List Char) {start stop : Nat} (hstart : start = size front)
    (hstop : stop = size front + size part) :
    slice? (front ++ (part ++ back)) start stop = some part := by
  subst hstart hstop
  rw [slice?, if_neg (by omega), splitAtByte?_append, Option.bind_eq_bind, Option.bind_some]
  dsimp only
  rw [Nat.add_sub_cancel_left, splitAtByte?_append]
  rfl

end Text

/-! ### Places -/

/-- What was recognized, with the offsets at which it begins and ends. -/
structure Placed (α : Type*) where
  value : α
  start : Nat
  stop : Nat

namespace Placed

open Text

variable {pieces : List (Piece α)} {offset : Nat} {found : Placed α}

/-- What is recognized in some pieces of which the first begins at an offset. -/
def ofPieces (offset : Nat) : List (Piece α) → List (Placed α)
  | [] => []
  | .char c :: pieces => ofPieces (offset + c.utf8Size) pieces
  | .found value source :: pieces =>
    ⟨value, offset, offset + size source⟩ :: ofPieces (offset + size source) pieces

/-- What is recognized in a text. -/
def findAll (read : Reader α) (cs : List Char) : List (Placed α) :=
  ofPieces 0 (scan read cs)

/-- What is placed is one of the pieces, and stands where this piece does. -/
theorem exists_of_mem_ofPieces (h : found ∈ ofPieces offset pieces) :
    ∃ before source after, pieces = before ++ .found found.value source :: after ∧
      found.start = offset + size (before.flatMap Piece.source) ∧
      found.stop = found.start + size source := by
  induction pieces generalizing offset with
  | nil => exact absurd h List.not_mem_nil
  | cons piece pieces ih =>
    have hmore {n : Nat} (hn : n = offset + size piece.source) (h : found ∈ ofPieces n pieces) :
        ∃ before source after, piece :: pieces = before ++ .found found.value source :: after ∧
          found.start = offset + size (before.flatMap Piece.source) ∧
          found.stop = found.start + size source := by
      obtain ⟨before, source, after, rfl, hstart, hstop⟩ := ih h
      refine ⟨piece :: before, source, after, rfl, ?_, hstop⟩
      rw [hstart, hn, List.flatMap_cons, size_append, Nat.add_assoc]
    cases piece with
    | char c => exact hmore (by simp [Piece.source]) h
    | found value source =>
      rcases List.mem_cons.mp h with rfl | h
      · exact ⟨[], source, pieces, rfl, rfl, rfl⟩
      · exact hmore rfl h

theorem start_le_of_mem_ofPieces (h : found ∈ ofPieces offset pieces) :
    offset ≤ found.start ∧ found.start ≤ found.stop := by
  obtain ⟨before, source, after, -, hstart, hstop⟩ := exists_of_mem_ofPieces h
  omega

/-- Places follow one another. -/
theorem pairwise_ofPieces (offset : Nat) (pieces : List (Piece α)) :
    (ofPieces offset pieces).Pairwise fun found next => found.stop ≤ next.start := by
  induction pieces generalizing offset with
  | nil => exact .nil
  | cons piece pieces ih =>
    cases piece with
    | char c => exact ih _
    | found value source =>
      exact .cons (fun next hnext => (start_le_of_mem_ofPieces hnext).1) (ih _)

end Placed

/-- What is found in a text was recognized at the part that spells it. -/
theorem Text.exists_read_of_mem_scan {read : Reader α} (hread : Progresses read)
    {cs source : List Char} {value : α} (h : .found value source ∈ scan read cs) :
    ∃ rest, source ≠ [] ∧ read (source ++ rest) = some (value, rest) := by
  induction cs using hread.induction with
  | nil => exact absurd h List.not_mem_nil
  | char c cs hnone ih =>
    rw [scan_cons_of_none hnone] at h
    exact ih (List.mem_of_ne_of_mem (by simp) h)
  | found first part rest hne hfound ih =>
    rw [scan_append_of_some hne hfound] at h
    rcases List.mem_cons.mp h with hfirst | hmore
    · obtain ⟨rfl, rfl⟩ := Piece.found.inj hfirst
      exact ⟨rest, hne, hfound⟩
    · exact ih hmore

end PageMarkup
