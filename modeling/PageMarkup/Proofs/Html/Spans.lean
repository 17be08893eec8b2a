import Mathlib.Algebra.Ring.Int.Defs
import PageMarkup.Proofs.Html.Blanking

/-!
# Where sections stand

In a page without its noise, a section begins at an opening tag that opens one and ends with the first
later closing tag of its name at which the tags of this name balance, or with the page if there is
none.  The sections follow one another, they can be cut out of the page at the offsets of their tags,
and every tag that opens a section lies in one of them.
-/

namespace PageMarkup

open Text

namespace Html

/-! ### Spans -/

/-- Where a section stands in a page: its opening tag, and the offsets at which it begins, at which
its inside begins and ends, and at which it ends. -/
structure Span where
  tag : Tag
  start : Nat
  innerStart : Nat
  innerStop : Nat
  stop : Nat

/-- The section of a segment that begins at an offset. -/
def Segment.spans (start : Nat) : Segment → List Span
  | between _ => []
  | .section tag opening inner closing =>
    [⟨tag, start, start + size opening, start + size (opening ++ inner),
      start + size (opening ++ inner ++ closing)⟩]

/-- The sections of segments of which the first begins at an offset. -/
def spansFrom (start : Nat) : List Segment → List Span
  | [] => []
  | segment :: segments =>
    segment.spans start ++ spansFrom (start + size segment.source) segments

/-- The sections of a page. -/
def spans (page : List Char) : List Span :=
  spansFrom 0 (segments (withoutNoise page))

/-- The section with its blocks. -/
def Span.toSection (span : Span) (blocks : List Block) : Section where
  id := ((attribute? "id" span.tag.attributes).filter fun id => !allBlank id).map String.ofList
  classes := (attribute? "class" span.tag.attributes).map String.ofList
  style := (attribute? "style" span.tag.attributes).map String.ofList
  start := span.start
  stop := span.stop
  blocks := blocks

/-- The items of a page that is cut at the offsets of its sections, from an offset behind which some
sections follow.  There are none if a slice is not there. -/
def itemsOfSpans? (page : List Char) : (cursor : Nat) → List Span → Option (List Item)
  | cursor, [] => do
    let rest ← slice? page cursor (size page)
    some ((blocks rest).map .block)
  | cursor, span :: spans => do
    let before ← slice? page cursor span.start
    let inner ← slice? page span.innerStart span.innerStop
    let items ← itemsOfSpans? page span.stop spans
    some ((blocks before).map .block ++ .section (span.toSection (blocks inner)) :: items)

/-! ### Nesting -/

/-- How many more elements of a name are open behind a tag than before it. -/
def nestingOf (name : List Char) (tag : Tag) : Int :=
  if lower tag.name ≠ name then 0
  else if tag.closing then -1
  else if closesItself tag then 0
  else 1

/-- How many more elements of a name are open behind some tags than before them. -/
def nesting (name : List Char) (tags : List (Placed Tag)) : Int :=
  (tags.map fun tag => nestingOf name tag.value).sum

@[simp] theorem nesting_nil (name : List Char) : nesting name [] = 0 := rfl

@[simp] theorem nesting_cons (name : List Char) (tag : Placed Tag) (tags : List (Placed Tag)) :
    nesting name (tag :: tags) = nestingOf name tag.value + nesting name tags :=
  List.sum_cons

/-- A tag in a section leaves more or fewer elements of its name open, or ends the section. -/
theorem segmentsFrom_some_found (s : OpenSection) (tag : Tag) (source : List Char) :
    (∃ depth : Nat, (depth : Int) = s.depth + nestingOf (lower s.tag.name) tag ∧
      ∀ text pieces, segmentsFrom (some s) text (.found tag source :: pieces) =
        segmentsFrom (some { s with depth := depth }) (source.reverse ++ text) pieces) ∨
    (s.depth = 0 ∧ tag.closing = true ∧ lower tag.name = lower s.tag.name ∧
      nestingOf (lower s.tag.name) tag = -1 ∧
      ∀ text pieces, segmentsFrom (some s) text (.found tag source :: pieces) =
        .section s.tag s.opening text.reverse source :: segmentsFrom none [] pieces) := by
  -- tags of other names do not nest, and of its own only the closing one at depth zero ends it
  by_cases hname : lower tag.name = lower s.tag.name
  · have hbne : (lower tag.name != lower s.tag.name) = false := by simpa using hname
    cases hclosing : tag.closing with
    | false =>
      refine .inl ⟨if closesItself tag then s.depth else s.depth + 1, ?_, fun text pieces => ?_⟩
      · cases hself : closesItself tag <;> simp [nestingOf, hname, hclosing, hself]
      · simp [segmentsFrom, hbne, hclosing]
    | true =>
      have hstep : nestingOf (lower s.tag.name) tag = -1 := by simp [nestingOf, hname, hclosing]
      cases hdepth : s.depth with
      | zero =>
        refine .inr ⟨rfl, rfl, hname, hstep, fun text pieces => ?_⟩
        simp [segmentsFrom, hbne, hclosing, hdepth]
      | succ depth =>
        refine .inl ⟨depth, by rw [hstep]; omega, fun text pieces => ?_⟩
        simp [segmentsFrom, hbne, hclosing, hdepth]
  · have hbne : (lower tag.name != lower s.tag.name) = true := by simpa using hname
    refine .inl ⟨s.depth, by simp [nestingOf, hname], fun text pieces => ?_⟩
    simp [segmentsFrom, hbne]

theorem segmentsFrom_none_found {tag : Tag} (source text : List Char) (pieces : List (Piece Tag)) :
    segmentsFrom none text (.found tag source :: pieces) =
      if opensSection tag then
        .between text.reverse :: segmentsFrom (some ⟨tag, source, 0⟩) [] pieces
      else segmentsFrom none (source.reverse ++ text) pieces := rfl

/-! ### Sections between other parts -/

/-- Sections stand between other parts of the page. -/
inductive Alternate : List Segment → Prop
  | last (text : List Char) : Alternate [.between text]
  | cons (text : List Char) (tag : Tag) (opening inner closing : List Char)
      {segments : List Segment} (h : Alternate segments) :
      Alternate (.between text :: .section tag opening inner closing :: segments)

/-- The segments begin with a section, and behind it comes another part of the page. -/
def AlternateInside (segments : List Segment) : Prop :=
  ∃ tag opening inner closing rest,
    segments = .section tag opening inner closing :: rest ∧ Alternate rest

/-- What a walk gives between sections, and what it gives in a section. -/
theorem alternate_segmentsFrom (pieces : List (Piece Tag)) :
    (∀ text, Alternate (segmentsFrom none text pieces)) ∧
      ∀ s text, AlternateInside (segmentsFrom (some s) text pieces) := by
  induction pieces with
  | nil =>
    exact ⟨fun text => .last text.reverse, fun s text => ⟨_, _, _, _, _, rfl, .last []⟩⟩
  | cons piece pieces ih =>
    obtain ⟨hbetween, hinside⟩ := ih
    cases piece with
    | char c => exact ⟨fun text => hbetween (c :: text), fun s text => hinside s (c :: text)⟩
    | found tag source =>
      refine ⟨fun text => ?_, fun s text => ?_⟩
      · rw [segmentsFrom_none_found]
        split
        · obtain ⟨tag, opening, inner, closing, rest, hrest, halternate⟩ :=
            hinside ⟨tag, source, 0⟩ []
          rw [hrest]
          exact .cons text.reverse tag opening inner closing halternate
        · exact hbetween _
      · rcases segmentsFrom_some_found s tag source with
          ⟨depth, -, hpass⟩ | ⟨-, -, -, -, hcomplete⟩
        · rw [hpass]
          exact hinside _ _
        · rw [hcomplete]
          exact ⟨_, _, _, _, _, rfl, hbetween []⟩

/-- Cut at the offsets of its sections, a page gives its items; every slice is there. -/
theorem itemsOfSpans?_eq {segments : List Segment} (h : Alternate segments) (front : List Char) :
    itemsOfSpans? (front ++ segments.flatMap Segment.source) (size front)
        (spansFrom (size front) segments) = some (itemsFrom (size front) segments) := by
  induction h generalizing front with
  | last text =>
    have hslice : slice? (front ++ text) (size front) (size front + size text) = some text := by
      have happend := slice?_append front text [] rfl rfl
      rwa [List.append_nil] at happend
    simp [spansFrom, Segment.spans, Segment.source, itemsFrom, Segment.items, itemsOfSpans?, hslice]
  | @cons text tag opening inner closing rest _ ih =>
    have hrest := ih (front ++ (text ++ (opening ++ (inner ++ closing))))
    have hpage : front ++ (Segment.between text ::
        .section tag opening inner closing :: rest).flatMap Segment.source =
          front ++ (text ++ (opening ++ (inner ++ closing))) ++ rest.flatMap Segment.source := by
      simp [Segment.source]
    have hbefore := slice?_append front text
      (opening ++ (inner ++ (closing ++ rest.flatMap Segment.source))) rfl rfl
    have hinner := slice?_append (front ++ (text ++ opening)) inner
      (closing ++ rest.flatMap Segment.source) rfl rfl
    rw [hpage]
    simp only [List.append_assoc, size_append, ← Nat.add_assoc] at hrest hbefore hinner
    simp only [spansFrom, Segment.spans, Segment.source, itemsFrom, Segment.items, itemsOfSpans?,
      List.nil_append, List.singleton_append, List.append_assoc, size_append, ← Nat.add_assoc,
      hbefore, hinner, hrest, Option.bind_eq_bind, Option.bind_some]
    rfl

/-- The segments of a walk make up what it has passed and what lies before it. -/
theorem flatMap_source_segmentsFrom (inside : Option OpenSection) (text : List Char)
    (pieces : List (Piece Tag)) :
    (segmentsFrom inside text pieces).flatMap Segment.source =
      openingOf inside ++ (text.reverse ++ pieces.flatMap Piece.source) := by
  induction pieces generalizing inside text with
  | nil => cases inside <;> simp [segmentsFrom, Segment.source, openingOf]
  | cons piece pieces ih =>
    rcases segmentsFrom_cons inside piece with
      ⟨next, hopening, hpass⟩ | ⟨around, next, -, hcomplete, hsource⟩
    · rw [hpass, ih, hopening]
      simp
    · rw [hcomplete, List.flatMap_cons, ih, ← List.append_assoc, hsource]
      simp

/-- The segments of a page make up the page. -/
theorem flatMap_source_segments (page : List Char) :
    (segments page).flatMap Segment.source = page := by
  rw [segments, flatMap_source_segmentsFrom, flatMap_source_scan]
  rfl

/-- Every slice of a page at the offsets of its sections is there, and they give its items. -/
theorem itemsOfSpans?_spans (page : List Char) :
    itemsOfSpans? (withoutNoise page) 0 (spans page) = some (items page) := by
  have halternate : Alternate (segments (withoutNoise page)) :=
    (alternate_segmentsFrom (scan readTag (withoutNoise page))).1 []
  have h := itemsOfSpans?_eq halternate []
  rwa [List.nil_append, flatMap_source_segments] at h

/-! ### Order -/

theorem spans_bounds (segment : Segment) (start : Nat) : ∀ span ∈ segment.spans start,
    start ≤ span.start ∧ span.start ≤ span.innerStart ∧ span.innerStart ≤ span.innerStop ∧
      span.innerStop ≤ span.stop ∧ span.stop ≤ start + size segment.source := by
  cases segment with
  | between text => exact List.forall_mem_nil _
  | «section» tag opening inner closing =>
    refine List.forall_mem_singleton.mpr ?_
    simp only [Segment.source, size_append]
    omega

theorem spansFrom_bounds (segments : List Segment) (start : Nat) :
    ∀ span ∈ spansFrom start segments, start ≤ span.start ∧ span.start ≤ span.innerStart ∧
      span.innerStart ≤ span.innerStop ∧ span.innerStop ≤ span.stop ∧
      span.stop ≤ start + size (segments.flatMap Segment.source) := by
  induction segments generalizing start with
  | nil => exact List.forall_mem_nil _
  | cons segment segments ih =>
    refine List.forall_mem_append.mpr ⟨fun span hspan => ?_, fun span hspan => ?_⟩
    · have := spans_bounds segment start span hspan
      rw [List.flatMap_cons, size_append]
      omega
    · have := ih (start + size segment.source) span hspan
      rw [List.flatMap_cons, size_append]
      omega

/-- Sections follow one another. -/
theorem pairwise_spansFrom (segments : List Segment) (start : Nat) :
    (spansFrom start segments).Pairwise fun span next => span.stop ≤ next.start := by
  induction segments generalizing start with
  | nil => exact .nil
  | cons segment segments ih =>
    refine List.pairwise_append.mpr ⟨?_, ih _, fun span hspan next hnext => ?_⟩
    · cases segment <;> simp [Segment.spans]
    · have hspan := spans_bounds segment start span hspan
      have hnext := spansFrom_bounds segments _ next hnext
      omega

/-! ### Balance -/

/-- An element of a name of which a number of tags is open ends in some tags: these tags leave it
open up to a closing tag of its name at which none is open any more, or to the end of the page if
there is no such tag.  Its inside and it itself end at two offsets, and some tags are left. -/
def Ends (stop : Nat) (name : List Char) (opened : Int) (tags : List (Placed Tag))
    (innerStop outerStop : Nat) (rest : List (Placed Tag)) : Prop :=
  ∃ inside, (∀ front, front <+: inside → 0 < opened + nesting name front) ∧
    ((∃ closer, tags = inside ++ closer :: rest ∧ closer.value.closing = true ∧
        lower closer.value.name = name ∧ opened + nesting name (inside ++ [closer]) = 0 ∧
        innerStop = closer.start ∧ outerStop = closer.stop) ∨
      (tags = inside ∧ rest = [] ∧ innerStop = stop ∧ outerStop = stop))

/-- The sections that some tags of a page make which ends at an offset. -/
inductive IsCut (stop : Nat) : List (Placed Tag) → List Span → Prop
  | none {tags : List (Placed Tag)} (h : ∀ tag ∈ tags, opensSection tag.value = false) :
      IsCut stop tags []
  | section {before inside rest : List (Placed Tag)} {opener : Placed Tag} {innerStop outerStop : Nat}
      {spans : List Span} (hbefore : ∀ tag ∈ before, opensSection tag.value = false)
      (hopens : opensSection opener.value = true)
      (hends : Ends stop (lower opener.value.name) 1 inside innerStop outerStop rest)
      (hrest : IsCut stop rest spans) :
      IsCut stop (before ++ opener :: inside)
        (⟨opener.value, opener.start, opener.stop, innerStop, outerStop⟩ :: spans)

/-- A tag that opens no section makes none. -/
theorem IsCut.cons {stop : Nat} {tags : List (Placed Tag)} {spans : List Span} {tag : Placed Tag}
    (htag : opensSection tag.value = false) (h : IsCut stop tags spans) :
    IsCut stop (tag :: tags) spans := by
  cases h with
  | none h => exact .none (List.forall_mem_cons.mpr ⟨htag, h⟩)
  | «section» hbefore hopens hends hrest =>
    exact IsCut.section (List.forall_mem_cons.mpr ⟨htag, hbefore⟩) hopens hends hrest

/-- A tag in an element leaves it open if some of its tags still are. -/
theorem Ends.cons {stop innerStop outerStop : Nat} {name : List Char} {opened : Int}
    {tags rest : List (Placed Tag)} {tag : Placed Tag} (hopened : 0 < opened)
    (h : Ends stop name (opened + nestingOf name tag.value) tags innerStop outerStop rest) :
    Ends stop name opened (tag :: tags) innerStop outerStop rest := by
  obtain ⟨inside, hinside, hend⟩ := h
  refine ⟨tag :: inside, fun front hfront => ?_, ?_⟩
  · cases front with
    | nil => simpa using hopened
    | cons first front =>
      obtain ⟨rfl, hmore⟩ := List.cons_prefix_cons.mp hfront
      have := hinside front hmore
      rw [nesting_cons]
      omega
  · rcases hend with ⟨closer, rfl, hclosing, hname, hbalance, hstops⟩ | ⟨rfl, hend⟩
    · refine .inl ⟨closer, rfl, hclosing, hname, ?_, hstops⟩
      rw [List.cons_append, nesting_cons]
      omega
    · exact .inr ⟨rfl, hend⟩

theorem size_reverse (cs : List Char) : size cs.reverse = size cs := by
  induction cs with
  | nil => rfl
  | cons c cs ih =>
    rw [List.reverse_cons, size_append, ih, size_cons, size_cons, size_nil]
    omega

/-- A walk that stands at an offset, with some pieces of the page before it, cuts what is left of the
page at its tags.  Between sections it finds those that follow; in a section it ends this one first.
The segment that it has not completed yet begins at `base`. -/
structure CutsFrom (stop offset : Nat) (pieces : List (Piece Tag)) : Prop where
  between : ∀ base text, offset = base + size text →
    IsCut stop (Placed.ofPieces offset pieces) (spansFrom base (segmentsFrom none text pieces))
  inside : ∀ base s text, offset = base + size s.opening + size text →
    ∃ innerStop outerStop rest spans, Ends stop (lower s.tag.name) (s.depth + 1)
        (Placed.ofPieces offset pieces) innerStop outerStop rest ∧
      IsCut stop rest spans ∧
      spansFrom base (segmentsFrom (some s) text pieces) =
        ⟨s.tag, base, base + size s.opening, innerStop, outerStop⟩ :: spans

/-- At the end of the page a section ends with the page. -/
theorem cutsFrom_nil (stop : Nat) : CutsFrom stop stop [] where
  between := fun _ _ _ => .none (List.forall_mem_nil _)
  inside := by
    intro base s text hoffset
    refine ⟨stop, stop, [], [], ⟨[], fun front hfront => ?_, .inr ⟨rfl, rfl, rfl, rfl⟩⟩,
      .none (List.forall_mem_nil _), ?_⟩
    · rw [List.prefix_nil.mp hfront, nesting_nil]
      omega
    · simp [segmentsFrom, spansFrom, Segment.spans, size_reverse, hoffset, Nat.add_assoc]

section Step

variable {stop offset : Nat} {pieces : List (Piece Tag)}

/-- A character is passed. -/
theorem CutsFrom.char {c : Char} (h : CutsFrom stop (offset + c.utf8Size) pieces) :
    CutsFrom stop offset (.char c :: pieces) where
  between := fun base text hoffset => h.between base (c :: text) (by rw [size_cons]; omega)
  inside := fun base s text hoffset => h.inside base s (c :: text) (by rw [size_cons]; omega)

variable {tag : Tag} {source : List Char}

/-- Between sections a tag opens the next one or is passed. -/
theorem CutsFrom.between_found (h : CutsFrom stop (offset + size source) pieces) (base : Nat)
    (text : List Char) (hoffset : offset = base + size text) :
    IsCut stop (Placed.ofPieces offset (.found tag source :: pieces))
      (spansFrom base (segmentsFrom none text (.found tag source :: pieces))) := by
  rw [segmentsFrom_none_found, Placed.ofPieces]
  split
  · rename_i hopens
    obtain ⟨innerStop, outerStop, rest, spans, hends, hcut, hspans⟩ :=
      h.inside offset ⟨tag, source, 0⟩ [] rfl
    rw [spansFrom, Segment.spans, List.nil_append, Segment.source, size_reverse, ← hoffset, hspans]
    exact @IsCut.section _ [] _ _ _ _ _ _ (List.forall_mem_nil _) hopens (by simpa using hends) hcut
  · rename_i hopens
    refine .cons (by simpa using hopens) (h.between base _ ?_)
    rw [size_append, size_reverse]
    omega

/-- In a section a tag ends it or leaves some of its tags open. -/
theorem CutsFrom.inside_found (h : CutsFrom stop (offset + size source) pieces) (base : Nat)
    (s : OpenSection) (text : List Char) (hoffset : offset = base + size s.opening + size text) :
    ∃ innerStop outerStop rest spans, Ends stop (lower s.tag.name) (s.depth + 1)
        (Placed.ofPieces offset (.found tag source :: pieces)) innerStop outerStop rest ∧
      IsCut stop rest spans ∧
      spansFrom base (segmentsFrom (some s) text (.found tag source :: pieces)) =
        ⟨s.tag, base, base + size s.opening, innerStop, outerStop⟩ :: spans := by
  rcases segmentsFrom_some_found s tag source with
    ⟨depth, hdepth, hpass⟩ | ⟨hdepth, hclosing, hname, hstep, hcomplete⟩
  · obtain ⟨innerStop, outerStop, rest, spans, hends, hcut, hspans⟩ :=
      h.inside base { s with depth := depth } (source.reverse ++ text)
        (by rw [size_append, size_reverse]; dsimp only; omega)
    -- The walk counts the open tags without the one that opens the section.
    have hopened : (depth : Int) + 1 = s.depth + 1 + nestingOf (lower s.tag.name) tag := by omega
    rw [hopened] at hends
    exact ⟨innerStop, outerStop, rest, spans, .cons (by omega) hends, hcut, by rw [hpass, hspans]⟩
  · refine ⟨offset, offset + size source, Placed.ofPieces (offset + size source) pieces, _,
      ⟨[], fun front hfront => ?_, .inl ⟨_, rfl, hclosing, hname, ?_, rfl, rfl⟩⟩,
      h.between (offset + size source) [] rfl, ?_⟩
    · rw [List.prefix_nil.mp hfront, nesting_nil]
      omega
    · rw [List.nil_append, nesting_cons, nesting_nil, hstep, hdepth]
      rfl
    · have hinner : offset = base + size (s.opening ++ text.reverse) := by
        rw [size_append, size_reverse, hoffset, Nat.add_assoc]
      rw [hcomplete, spansFrom, Segment.spans, Segment.source, size_append _ source,
        ← Nat.add_assoc, ← hinner]
      rfl

end Step

/-- A walk cuts the page at its tags wherever it stands. -/
theorem cutsFrom (stop : Nat) (pieces : List (Piece Tag)) (offset : Nat)
    (hstop : stop = offset + size (pieces.flatMap Piece.source)) :
    CutsFrom stop offset pieces := by
  induction pieces generalizing offset with
  | nil =>
    rw [List.flatMap_nil, size_nil, Nat.add_zero] at hstop
    exact hstop ▸ cutsFrom_nil stop
  | cons piece pieces ih =>
    cases piece with
    | char c =>
      refine .char (ih _ ?_)
      rw [hstop, List.flatMap_cons, size_append, Piece.source, size_cons, size_nil]
      omega
    | found tag source =>
      have hrest : CutsFrom stop (offset + size source) pieces := by
        refine ih _ ?_
        rw [hstop, List.flatMap_cons, size_append, Piece.source, Nat.add_assoc]
      exact ⟨hrest.between_found, hrest.inside_found⟩

/-- The sections of a page are those that its tags make. -/
theorem isCut_spans (page : List Char) :
    IsCut (size page) (Placed.findAll readTag (withoutNoise page)) (spans page) := by
  have hstop : size page = 0 + size ((scan readTag (withoutNoise page)).flatMap Piece.source) := by
    rw [flatMap_source_scan, size_withoutNoise, Nat.zero_add]
  exact (cutsFrom (size page) _ 0 hstop).between 0 [] rfl

/-! ### Sections as elements -/

/-- The section begins at an opening tag that opens one, and ends where this element ends. -/
def Span.IsElementOf (tags : List (Placed Tag)) (stop : Nat) (span : Span) : Prop :=
  ∃ before opener inside rest, tags = before ++ opener :: inside ∧
    opensSection opener.value = true ∧ span.tag = opener.value ∧ span.start = opener.start ∧
    span.innerStart = opener.stop ∧
    Ends stop (lower opener.value.name) 1 inside span.innerStop span.stop rest

section

variable {stop innerStop outerStop : Nat} {name : List Char} {opened : Int}
  {tags rest : List (Placed Tag)} {spans : List Span}

/-- What is left behind an element are the last of the tags. -/
theorem Ends.isSuffix (h : Ends stop name opened tags innerStop outerStop rest) : rest <:+ tags := by
  obtain ⟨inside, -, ⟨closer, rfl, -⟩ | ⟨-, rfl, -⟩⟩ := h
  · exact (List.suffix_cons closer rest).trans (List.suffix_append inside _)
  · exact List.nil_suffix

theorem IsCut.isElementOf (h : IsCut stop tags spans) : ∀ span ∈ spans, span.IsElementOf tags stop := by
  induction h with
  | none => exact List.forall_mem_nil _
  | @«section» before inside rest opener innerStop outerStop spans _ hopens hends _ ih =>
    refine List.forall_mem_cons.mpr ⟨⟨before, opener, inside, rest, rfl, hopens, rfl, rfl, rfl, hends⟩,
      fun span hspan => ?_⟩
    obtain ⟨front, opener', inside', rest', hrest, hopens', htag, hstart, hinner, hends'⟩ :=
      ih span hspan
    obtain ⟨first, hfirst⟩ := hends.isSuffix
    refine ⟨before ++ opener :: (first ++ front), opener', inside', rest', ?_, hopens', htag, hstart,
      hinner, hends'⟩
    rw [← hfirst, hrest]
    simp

/-- The tags follow one another and end before an offset. -/
structure AreOrdered (stop : Nat) (tags : List (Placed Tag)) : Prop where
  pairwise : tags.Pairwise fun tag next => tag.stop ≤ next.start
  bounds : ∀ tag ∈ tags, tag.start ≤ tag.stop ∧ tag.stop ≤ stop

theorem AreOrdered.of_suffix (h : AreOrdered stop tags) (hrest : rest <:+ tags) :
    AreOrdered stop rest :=
  ⟨h.pairwise.sublist hrest.sublist, fun tag htag => h.bounds tag (hrest.mem htag)⟩

/-- A tag that opens a section lies in an element that is open, or behind it. -/
theorem Ends.mem_rest_or_stop_le (h : Ends stop name opened tags innerStop outerStop rest)
    (hordered : AreOrdered stop tags) {tag : Placed Tag} (htag : tag ∈ tags)
    (hopens : opensSection tag.value = true) : tag ∈ rest ∨ tag.stop ≤ outerStop := by
  obtain ⟨inside, -, ⟨closer, rfl, hclosing, -, -, -, rfl⟩ | ⟨rfl, -, -, rfl⟩⟩ := h
  · rcases List.mem_append.mp htag with htag | htag
    · have hbefore := (List.pairwise_append.mp hordered.pairwise).2.2 tag htag closer
        List.mem_cons_self
      have hcloser := hordered.bounds closer (by simp)
      exact .inr (by omega)
    · rcases List.mem_cons.mp htag with rfl | htag
      · simp [opensSection, hclosing] at hopens
      · exact .inl htag
  · exact .inr (hordered.bounds tag htag).2

/-- An element ends behind its opening tag. -/
theorem Ends.le_stop (h : Ends stop name opened tags innerStop outerStop rest)
    (hordered : AreOrdered stop tags) {offset : Nat} (hstop : offset ≤ stop)
    (htags : ∀ tag ∈ tags, offset ≤ tag.start) : offset ≤ outerStop := by
  obtain ⟨inside, -, ⟨closer, rfl, -, -, -, -, rfl⟩ | ⟨rfl, -, -, rfl⟩⟩ := h
  · have hcloser := hordered.bounds closer (by simp)
    have := htags closer (by simp)
    omega
  · exact hstop

/-- Every tag that opens a section lies in one. -/
theorem IsCut.exists_span (h : IsCut stop tags spans) (hordered : AreOrdered stop tags)
    {tag : Placed Tag} (htag : tag ∈ tags) (hopens : opensSection tag.value = true) :
    ∃ span ∈ spans, span.start ≤ tag.start ∧ tag.stop ≤ span.stop := by
  induction h with
  | none hnone =>
    rw [hnone tag htag] at hopens
    exact absurd hopens (by decide)
  | @«section» before inside rest opener innerStop outerStop spans hbefore _ hends _ ih =>
    obtain ⟨hopener, hpairwise⟩ :=
      List.pairwise_cons.mp (List.pairwise_append.mp hordered.pairwise).2.1
    have hbounds := hordered.bounds opener (by simp)
    have hinside : AreOrdered stop inside := hordered.of_suffix
      ((List.suffix_cons opener inside).trans (List.suffix_append before _))
    rcases List.mem_append.mp htag with hmem | hmem
    · rw [hbefore tag hmem] at hopens
      exact absurd hopens (by decide)
    rcases List.mem_cons.mp hmem with rfl | hmem
    · exact ⟨_, List.mem_cons_self, Nat.le_refl _, hends.le_stop hinside hbounds.2 hopener⟩
    rcases hends.mem_rest_or_stop_le hinside hmem hopens with hrest | hstop
    · obtain ⟨span, hspan, hin⟩ := ih (hinside.of_suffix hends.isSuffix) hrest
      exact ⟨span, List.mem_cons_of_mem _ hspan, hin⟩
    · have := hopener tag hmem
      exact ⟨_, List.mem_cons_self, by dsimp only; omega, hstop⟩

end

/-! ### Sections in a page -/

/-- A tag stands where its brackets do. -/
theorem exists_of_mem_findAll_readTag {page : List Char} {tag : Placed Tag}
    (h : tag ∈ Placed.findAll readTag page) : ∃ front inside back,
      page = front ++ '<' :: (inside ++ '>' :: back) ∧ tag.start = size front ∧
        tag.stop = size (front ++ '<' :: inside) + '>'.utf8Size := by
  obtain ⟨before, source, after, hpieces, hstart, hstop⟩ := Placed.exists_of_mem_ofPieces h
  have hfound : .found tag.value source ∈ scan readTag page := by simp [hpieces]
  obtain ⟨rest, -, hread⟩ := exists_read_of_mem_scan isTagReader_readTag.progresses hfound
  obtain ⟨inside, -, hinside⟩ := isTagReader_readTag.exists_inside hread
  have hinside : source ++ rest = '<' :: (inside ++ ['>']) ++ rest := by simpa using hinside
  obtain rfl := List.append_cancel_right hinside
  refine ⟨before.flatMap Piece.source, inside, after.flatMap Piece.source, ?_, ?_, ?_⟩
  · have hpage := flatMap_source_scan readTag page
    rw [hpieces] at hpage
    rw [← hpage]
    simp [Piece.source]
  · rw [hstart, Nat.zero_add]
  · rw [hstop, hstart]
    simp [Nat.add_assoc]

/-- The offsets are in order and in the page, and stand at boundaries of the page and of the blanked
page. -/
structure Span.IsIn (page : List Char) (span : Span) : Prop where
  start_le : span.start ≤ span.innerStart
  innerStart_le : span.innerStart ≤ span.innerStop
  innerStop_le : span.innerStop ≤ span.stop
  stop_le : span.stop ≤ size page
  boundaries : ∀ offset ∈ [span.start, span.innerStart, span.innerStop, span.stop],
    IsBoundary page offset ∧ IsBoundary (withoutNoise page) offset

/-- Tags begin and end at boundaries. -/
theorem isBoundary_of_mem_findAll_readTag {page : List Char} {tag : Placed Tag}
    (h : tag ∈ Placed.findAll readTag (withoutNoise page)) : ∀ offset ∈ [tag.start, tag.stop],
      IsBoundary page offset ∧ IsBoundary (withoutNoise page) offset := by
  obtain ⟨front, inside, back, hpage, hstart, hstop⟩ := exists_of_mem_findAll_readTag h
  have hclose : withoutNoise page = (front ++ '<' :: inside) ++ '>' :: back := by simp [hpage]
  intro offset hoffset
  simp only [List.mem_cons, List.not_mem_nil, or_false] at hoffset
  rcases hoffset with rfl | rfl
  · rw [hstart]
    exact ⟨(isBoundary_of_withoutNoise (by decide) hpage).1, front, _, hpage, rfl⟩
  · rw [hstop]
    exact ⟨(isBoundary_of_withoutNoise (by decide) hclose).2, front ++ '<' :: (inside ++ ['>']),
      back, by simp [hpage], by simp [Nat.add_assoc]⟩

theorem isBoundary_size (cs : List Char) : IsBoundary cs (size cs) :=
  ⟨cs, [], (List.append_nil cs).symm, rfl⟩

/-- The inside of an element and the element end at a closing tag or at the end of the page. -/
theorem Ends.cases {stop innerStop outerStop : Nat} {name : List Char} {opened : Int}
    {tags rest : List (Placed Tag)} (h : Ends stop name opened tags innerStop outerStop rest) :
    (∃ closer ∈ tags, innerStop = closer.start ∧ outerStop = closer.stop) ∨
      innerStop = stop ∧ outerStop = stop := by
  obtain ⟨inside, -, ⟨closer, rfl, -, -, -, hstops⟩ | ⟨-, -, hstops⟩⟩ := h
  · exact .inl ⟨closer, by simp, hstops⟩
  · exact .inr hstops

theorem isIn_of_mem_spans {page : List Char} {span : Span} (h : span ∈ spans page) :
    span.IsIn page := by
  have hbounds := spansFrom_bounds (segments (withoutNoise page)) 0 span h
  rw [flatMap_source_segments, size_withoutNoise, Nat.zero_add] at hbounds
  refine ⟨hbounds.2.1, hbounds.2.2.1, hbounds.2.2.2.1, hbounds.2.2.2.2, ?_⟩
  obtain ⟨before, opener, inside, rest, htags, -, -, hstart, hinner, hends⟩ :=
    (isCut_spans page).isElementOf span h
  have hmem : opener ∈ Placed.findAll readTag (withoutNoise page) := by simp [htags]
  have hopener := isBoundary_of_mem_findAll_readTag hmem
  have hend : ∀ offset ∈ [span.innerStop, span.stop],
      IsBoundary page offset ∧ IsBoundary (withoutNoise page) offset := by
    rcases hends.cases with ⟨closer, hcloser, hinnerStop, hstop⟩ | ⟨hinnerStop, hstop⟩
    · rw [hinnerStop, hstop]
      exact isBoundary_of_mem_findAll_readTag (by simp [htags, hcloser])
    · have hsize := isBoundary_size (withoutNoise page)
      rw [size_withoutNoise] at hsize
      rw [hinnerStop, hstop]
      simp [isBoundary_size, hsize]
  simp only [List.forall_mem_cons] at hopener hend ⊢
  rw [hstart, hinner]
  exact ⟨hopener.1, hopener.2.1, hend⟩

/-- Blanking noise keeps all other bytes, and the sections of the blanked page are cut out of it
safely: they follow one another within the page and between its characters, each is an element whose
tags balance at its end and nowhere before, no tag that opens a section is outside of them, and every
slice at their offsets is there and gives the items of the page. -/
theorem sections_are_cut (page : List Char) :
    size (withoutNoise page) = size page ∧
    (∀ i, (bytes (withoutNoise page))[i]? =
      if InNoise (Placed.findAll readNoise page) i then some 32 else (bytes page)[i]?) ∧
    ((spans page).Pairwise fun span next => span.stop ≤ next.start) ∧
    (∀ span ∈ spans page, span.IsIn page ∧
      span.IsElementOf (Placed.findAll readTag (withoutNoise page)) (size page)) ∧
    (∀ tag ∈ Placed.findAll readTag (withoutNoise page), opensSection tag.value = true →
      ∃ span ∈ spans page, span.start ≤ tag.start ∧ tag.stop ≤ span.stop) ∧
    itemsOfSpans? (withoutNoise page) 0 (spans page) = some (items page) := by
  have hordered : AreOrdered (size page) (Placed.findAll readTag (withoutNoise page)) := by
    refine ⟨Placed.pairwise_ofPieces 0 _, fun tag htag => ?_⟩
    obtain ⟨front, inside, back, hpage, hstart, hstop⟩ := exists_of_mem_findAll_readTag htag
    have hsize := size_withoutNoise page
    rw [hpage] at hsize
    simp only [size_append, size_cons] at hsize hstop
    omega
  exact ⟨size_withoutNoise page, bytes_withoutNoise page, pairwise_spansFrom _ 0,
    fun span hspan => ⟨isIn_of_mem_spans hspan, (isCut_spans page).isElementOf span hspan⟩,
    fun tag htag hopens => (isCut_spans page).exists_span hordered htag hopens,
    itemsOfSpans?_spans page⟩

end Html

end PageMarkup
