import Mathlib.Data.List.Forall2
import PageMarkup.Proofs.Html.Spacing

/-!
# Sections before and behind a run of spaces

Which sections a page has does not depend on the length of a run of spaces outside of tags.  The
sections before the run stay where they are, those behind it move with it, and of the one around it
only the end moves.
-/

namespace PageMarkup

open Text

namespace Html

/-! ### Tags before and behind spaces -/

/-- The tags of a text whose tags all end in it are those of the text alone. -/
theorem scan_readTag_append {front : List Char} (hfront : ClosesTags front) (back : List Char) :
    scan readTag (front ++ ' ' :: back) = scan readTag front ++ scan readTag (' ' :: back) := by
  induction front using isTagReader_readTag.progresses.induction with
  | nil => rfl
  | char c front hread ih =>
    have happend := isTagReader_readTag.append hfront back
    rw [hread, Option.map_none, List.cons_append] at happend
    rw [List.cons_append, scan_cons_of_none happend, scan_cons_of_none hread,
      ih (isInherited_closesTags [c] front hfront), List.cons_append]
  | found tag part rest hne hread ih =>
    obtain ⟨c, part, rfl⟩ := List.exists_cons_of_ne_nil hne
    rw [List.cons_append] at hfront
    have happend := isTagReader_readTag.append hfront back
    rw [← List.cons_append, hread, Option.map_some, List.append_assoc] at happend
    rw [List.append_assoc, scan_append_of_some hne happend, scan_append_of_some hne hread,
      ih (isInherited_closesTags (c :: part) rest hfront), List.cons_append]

/-! ### Segments -/

/-- The opening tag before a text in an open section; nothing outside of sections. -/
def openingOf (inside : Option OpenSection) : List Char :=
  (inside.map OpenSection.opening).getD []

/-- A segment with a text in it: between sections, or in a section with its tag, its opening tag and
its closing tag. -/
def segmentOf : Option (Tag × List Char × List Char) → List Char → Segment
  | none, text => .between text
  | some (tag, opening, closing), text => .section tag opening text closing

/-- The opening tag of a segment. -/
def openingAround (around : Option (Tag × List Char × List Char)) : List Char :=
  (around.map fun s => s.2.1).getD []

/-- A piece of a page either belongs to the text that is passed or completes a segment. -/
theorem segmentsFrom_cons (inside : Option OpenSection) (piece : Piece Tag) :
    (∃ next, openingOf next = openingOf inside ∧ ∀ text pieces,
        segmentsFrom inside text (piece :: pieces) =
          segmentsFrom next (piece.source.reverse ++ text) pieces) ∨
      ∃ around next, openingAround around = openingOf inside ∧
        (∀ text pieces, segmentsFrom inside text (piece :: pieces) =
          segmentOf around text.reverse :: segmentsFrom next [] pieces) ∧
        ∀ text, (segmentOf around text).source ++ openingOf next =
          openingOf inside ++ (text ++ piece.source) := by
  cases piece with
  | char c => exact .inl ⟨inside, rfl, fun _ _ => rfl⟩
  | found tag source =>
    cases inside with
    | none =>
      by_cases hopens : opensSection tag = true
      · refine .inr ⟨none, some ⟨tag, source, 0⟩, rfl, fun text pieces => ?_, fun text => ?_⟩
        · simp [segmentsFrom, hopens, segmentOf]
        · simp [segmentOf, Segment.source, openingOf, Piece.source]
      · exact .inl ⟨none, rfl, fun text pieces => by simp [segmentsFrom, hopens, Piece.source]⟩
    | some s =>
      -- in a section only tags of its name count, and the closing tag at depth zero ends it
      by_cases hname : (lower tag.name != lower s.tag.name) = true
      · exact .inl ⟨some s, rfl, fun text pieces => by simp [segmentsFrom, hname, Piece.source]⟩
      by_cases hclosing : tag.closing = true
      · cases hdepth : s.depth with
        | zero =>
          refine .inr ⟨some (s.tag, s.opening, source), none, rfl, fun text pieces => ?_,
            fun text => ?_⟩
          · simp [segmentsFrom, hname, hclosing, hdepth, segmentOf]
          · simp [segmentOf, Segment.source, openingOf, Piece.source]
        | succ depth =>
          refine .inl ⟨some { s with depth := depth }, rfl, fun text pieces => ?_⟩
          simp [segmentsFrom, hname, hclosing, hdepth, Piece.source]
      · refine .inl
          ⟨some { s with depth := if closesItself tag then s.depth else s.depth + 1 }, rfl,
          fun text pieces => ?_⟩
        simp [segmentsFrom, hname, hclosing, Piece.source]

/-- What has been passed since the last segment began stands at the beginning of the next one. -/
theorem exists_segmentsFrom_text (inside : Option OpenSection) (pieces : List (Piece Tag)) :
    ∃ around tail rest, openingAround around = openingOf inside ∧ ∀ text,
      segmentsFrom inside text pieces = segmentOf around (text.reverse ++ tail) :: rest := by
  induction pieces generalizing inside with
  | nil =>
    cases inside with
    | none => exact ⟨none, [], [], rfl, fun text => by simp [segmentsFrom, segmentOf]⟩
    | some s =>
      exact ⟨some (s.tag, s.opening, []), [], [.between []], rfl, fun text => by
        simp [segmentsFrom, segmentOf]⟩
  | cons piece pieces ih =>
    rcases segmentsFrom_cons inside piece with
      ⟨next, hnext, hpass⟩ | ⟨around, next, hopening, hcomplete, -⟩
    · obtain ⟨around, tail, rest, hopening, htext⟩ := ih next
      refine ⟨around, piece.source ++ tail, rest, hopening.trans hnext, fun text => ?_⟩
      rw [hpass, htext]
      simp
    · refine ⟨around, [], segmentsFrom next [] pieces, hopening, fun text => ?_⟩
      rw [hcomplete, List.append_nil]

/-- A walk through the first pieces completes some segments and stands somewhere behind them. -/
theorem exists_segmentsFrom_append (inside : Option OpenSection) (text : List Char)
    (front : List (Piece Tag)) :
    ∃ completed next passed,
      (∀ pieces, segmentsFrom inside text (front ++ pieces) =
        completed ++ segmentsFrom next passed pieces) ∧
      completed.flatMap Segment.source ++ (openingOf next ++ passed.reverse) =
        openingOf inside ++ (text.reverse ++ front.flatMap Piece.source) := by
  induction front generalizing inside text with
  | nil => exact ⟨[], inside, text, fun _ => rfl, by simp⟩
  | cons piece front ih =>
    rcases segmentsFrom_cons inside piece with
      ⟨middle, hopening, hpass⟩ | ⟨around, middle, -, hcomplete, hsource⟩
    · obtain ⟨completed, next, passed, hwalk, hsources⟩ := ih middle (piece.source.reverse ++ text)
      refine ⟨completed, next, passed, fun pieces => ?_, ?_⟩
      · rw [List.cons_append, hpass, hwalk]
      · rw [hsources, hopening]
        simp
    · obtain ⟨completed, next, passed, hwalk, hsources⟩ := ih middle []
      refine ⟨segmentOf around text.reverse :: completed, next, passed, fun pieces => ?_, ?_⟩
      · rw [List.cons_append, hcomplete, hwalk, List.cons_append]
      · rw [List.flatMap_cons, List.append_assoc, hsources, List.reverse_nil, List.nil_append,
          ← List.append_assoc, hsource, List.flatMap_cons]
        simp

/-- Characters that are no part of a tag belong to the text that is passed. -/
theorem segmentsFrom_chars (inside : Option OpenSection) (text run : List Char)
    (pieces : List (Piece Tag)) :
    segmentsFrom inside text (run.map Piece.char ++ pieces) =
      segmentsFrom inside (run.reverse ++ text) pieces := by
  induction run generalizing text with
  | nil => rfl
  | cons c run ih =>
    rw [List.map_cons, List.cons_append, segmentsFrom, ih, List.reverse_cons, List.append_assoc]
    rfl

/-- Of the segments of a page only the one around a run of spaces depends on its length. -/
theorem exists_segments {front : List Char} (hfront : ClosesTags front) (back : List Char) :
    ∃ completed around text tail rest, ClosesTags text ∧
      completed.flatMap Segment.source ++ (openingAround around ++ text) = front ∧
      ∀ n, segments (front ++ (List.replicate (n + 1) ' ' ++ back)) =
        completed ++ segmentOf around (text ++ (List.replicate (n + 1) ' ' ++ tail)) :: rest := by
  obtain ⟨completed, next, passed, hwalk, hsource⟩ :=
    exists_segmentsFrom_append none [] (scan readTag front)
  obtain ⟨around, tail, rest, hopening, htext⟩ := exists_segmentsFrom_text next (scan readTag back)
  have hshape : completed.flatMap Segment.source ++ (openingAround around ++ passed.reverse) =
      front := by
    rw [hopening, hsource]
    simp [openingOf]
  refine ⟨completed, around, passed.reverse, tail, rest, ?_, hshape, fun n => ?_⟩
  · rw [← hshape, ← List.append_assoc] at hfront
    exact isInherited_closesTags _ _ hfront
  · have hspaces : scan readTag (List.replicate (n + 1) ' ' ++ back) =
        List.replicate (n + 1) (.char ' ') ++ scan readTag back :=
      scan_spaces (isTagReader_readTag.of_ne (by decide)) (n + 1) back
    have hscan : scan readTag (front ++ (List.replicate (n + 1) ' ' ++ back)) =
        scan readTag front ++ scan readTag (List.replicate (n + 1) ' ' ++ back) :=
      scan_readTag_append hfront _
    rw [segments, hscan, hspaces, hwalk, ← List.map_replicate, segmentsFrom_chars,
      List.reverse_replicate, htext]
    simp

/-! ### Items -/

theorem itemsFrom_append (start : Nat) (segments more : List Segment) :
    itemsFrom start (segments ++ more) =
      itemsFrom start segments ++
        itemsFrom (start + size (segments.flatMap Segment.source)) more := by
  induction segments generalizing start with
  | nil => simp [itemsFrom]
  | cons segment segments ih =>
    rw [List.cons_append, itemsFrom, itemsFrom, ih, List.append_assoc, List.flatMap_cons,
      size_append, Nat.add_assoc]

/-- An offset before a run of spaces stays, and one behind the run moves with its end. -/
def Moves (base n m : Nat) (offset other : Nat) : Prop :=
  (offset = other ∧ offset ≤ base) ∨
    ∃ behind, offset = base + n + behind ∧ other = base + m + behind

/-- Two sections that are the same but for their offsets. -/
structure Section.MovesTo (base n m : Nat) (s other : Section) : Prop where
  id : s.id = other.id
  classes : s.classes = other.classes
  style : s.style = other.style
  blocks : s.blocks = other.blocks
  start : Moves base n m s.start other.start
  stop : Moves base n m s.stop other.stop

/-- Two items that are the same but for their offsets. -/
inductive Item.MovesTo (base n m : Nat) : Item → Item → Prop
  | section {s other : Section} (h : s.MovesTo base n m other) :
      Item.MovesTo base n m (.section s) (.section other)
  | block (content : Block) : Item.MovesTo base n m (.block content) (.block content)

variable {base n m : Nat}

theorem movesTo_blocks (blocks : List Block) :
    List.Forall₂ (Item.MovesTo base n m) (blocks.map .block) (blocks.map .block) := by
  induction blocks with
  | nil => exact .nil
  | cons block blocks ih => exact .cons (.block block) ih

/-- Where the offsets of a segment move, its items do. -/
theorem Segment.items_movesTo (segment : Segment) {start other : Nat}
    (hstart : Moves base n m start other)
    (hstop : Moves base n m (start + size segment.source) (other + size segment.source)) :
    List.Forall₂ (Item.MovesTo base n m) (segment.items start) (segment.items other) := by
  cases segment with
  | between text => exact movesTo_blocks (blocks text)
  | «section» tag opening inner closing =>
    exact .cons (.section ⟨rfl, rfl, rfl, rfl, hstart, hstop⟩) .nil

theorem itemsFrom_before {segments : List Segment} {start : Nat}
    (h : start + size (segments.flatMap Segment.source) ≤ base) :
    List.Forall₂ (Item.MovesTo base n m) (itemsFrom start segments) (itemsFrom start segments) := by
  induction segments generalizing start with
  | nil => exact .nil
  | cons segment segments ih =>
    rw [List.flatMap_cons, size_append] at h
    rw [← Nat.add_assoc] at h
    have hstart : Moves base n m start start := .inl ⟨rfl, by omega⟩
    have hstop : Moves base n m (start + size segment.source) (start + size segment.source) :=
      .inl ⟨rfl, by omega⟩
    rw [itemsFrom]
    exact List.rel_append (segment.items_movesTo hstart hstop) (ih h)

theorem itemsFrom_behind (segments : List Segment) (behind : Nat) :
    List.Forall₂ (Item.MovesTo base n m) (itemsFrom (base + n + behind) segments)
      (itemsFrom (base + m + behind) segments) := by
  induction segments generalizing behind with
  | nil => exact .nil
  | cons segment segments ih =>
    rw [itemsFrom, itemsFrom, Nat.add_assoc (base + n), Nat.add_assoc (base + m)]
    have hstop : Moves base n m (base + n + behind + size segment.source)
        (base + m + behind + size segment.source) :=
      .inr ⟨_, Nat.add_assoc _ _ _, Nat.add_assoc _ _ _⟩
    exact List.rel_append (segment.items_movesTo (.inr ⟨behind, rfl, rfl⟩) hstop) (ih _)

theorem size_replicate_space (n : Nat) : size (List.replicate n ' ') = n := by
  induction n with
  | zero => rfl
  | succ n ih =>
    rw [List.replicate_succ, size_cons, ih, Nat.add_comm]
    rfl

/-- A segment with a run of spaces in it has the same items whatever the length of the run is. -/
theorem segmentOf_items_movesTo (around : Option (Tag × List Char × List Char))
    {text : List Char} (htext : ClosesTags text) (tail : List Char) {start : Nat}
    (hbase : start + size (openingAround around ++ text) = base) :
    List.Forall₂ (Item.MovesTo base (n + 1) (m + 1))
      ((segmentOf around (text ++ (List.replicate (n + 1) ' ' ++ tail))).items start)
      ((segmentOf around (text ++ (List.replicate (m + 1) ' ' ++ tail))).items start) := by
  have hblocks := blocks_eq (Spaced.run htext n m tail)
  cases around with
  | none =>
    rw [segmentOf, segmentOf, Segment.items, Segment.items, hblocks]
    exact movesTo_blocks _
  | some s =>
    obtain ⟨tag, opening, closing⟩ := s
    have hlength : ∀ k,
        start + size (opening ++ (text ++ (List.replicate k ' ' ++ tail)) ++ closing) =
        base + k + (size tail + size closing) := by
      intro k
      simp only [openingAround, Option.map_some, Option.getD_some, size_append] at hbase
      simp only [size_append, size_replicate_space]
      omega
    have hstart : start ≤ base := by omega
    exact .cons (.section ⟨rfl, rfl, rfl, hblocks, .inl ⟨rfl, hstart⟩,
      .inr ⟨_, hlength _, hlength _⟩⟩) .nil

/-- The items of a page are the same whatever the length of a run of spaces outside of tags is, but
for the offsets behind it. -/
theorem itemsFrom_movesTo {front : List Char} (hfront : ClosesTags front) (n m : Nat)
    (back : List Char) :
    List.Forall₂ (Item.MovesTo (size front) (n + 1) (m + 1))
      (itemsFrom 0 (segments (front ++ (List.replicate (n + 1) ' ' ++ back))))
      (itemsFrom 0 (segments (front ++ (List.replicate (m + 1) ' ' ++ back)))) := by
  obtain ⟨completed, around, text, tail, rest, htext, hshape, hsegments⟩ :=
    exists_segments hfront back
  have hsize : size (completed.flatMap Segment.source) + size (openingAround around ++ text) =
      size front := by
    rw [← size_append, hshape]
  -- what stands behind the run is moved by the length of the run
  have hbehind : ∀ k, 0 + size (completed.flatMap Segment.source) +
      size (segmentOf around (text ++ (List.replicate k ' ' ++ tail))).source =
        size front + k + (size (segmentOf around tail).source - size (openingAround around)) := by
    intro k
    rw [size_append] at hsize
    cases around with
    | none =>
      simp only [openingAround, Option.map_none, Option.getD_none, size_nil] at hsize
      simp only [segmentOf, Segment.source, openingAround, Option.map_none, Option.getD_none,
        size_nil, size_append, size_replicate_space]
      omega
    | some s =>
      obtain ⟨tag, opening, closing⟩ := s
      simp only [openingAround, Option.map_some, Option.getD_some] at hsize
      simp only [segmentOf, Segment.source, openingAround, Option.map_some, Option.getD_some,
        size_append, size_replicate_space]
      omega
  have hbefore : 0 + size (completed.flatMap Segment.source) ≤ size front := by omega
  have hbase : 0 + size (completed.flatMap Segment.source) + size (openingAround around ++ text) =
      size front := by omega
  have haround := @segmentOf_items_movesTo _ n m around text htext tail _ hbase
  rw [hsegments, hsegments, itemsFrom_append, itemsFrom_append, itemsFrom, itemsFrom, hbehind,
    hbehind]
  exact List.rel_append (itemsFrom_before hbefore)
    (List.rel_append haround (itemsFrom_behind rest _))

end Html

end PageMarkup
