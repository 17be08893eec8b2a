import PageMarkup.Proofs.Html.Sections
import PageMarkup.Proofs.Text.Replacing

/-!
# Comments and scripts

A comment ends at the first `-->` and an element that shows nothing at the first closing tag of its
name.  So what is noise is told from its own text, whatever follows, and where no noise that begins
before a comment reaches into it, the page is blanked before, in and behind the comment on its own.
-/

namespace PageMarkup

open Text

variable {α : Type}

namespace Html

/-! ### Parts that are told from their own text -/

/-- What closes an element is told from its own text, and holds nothing else that would. -/
structure IsClosing (close : List Char → Option (List Char)) : Prop where
  progresses : Progresses (asReader close)
  decided : ∀ part rest other, close (part ++ rest) = some rest → close (part ++ other) = some other
  unnested : ∀ front part back rest, front ≠ [] →
    close (front ++ (part ++ (back ++ rest))) = some rest →
    close (part ++ (back ++ rest)) ≠ some (back ++ rest)

/-- Where no end stands in front of one, none stands there if something else follows. -/
theorem IsClosing.eq_none {close : List Char → Option (List Char)} (h : IsClosing close)
    {inner part rest : List Char} {c : Char} (hclose : close (part ++ rest) = some rest)
    (hread : close (c :: (inner ++ (part ++ rest))) = none) (other : List Char) :
    close (c :: (inner ++ (part ++ other))) = none := by
  refine Option.eq_none_iff_forall_ne_some.mpr fun more hmore => ?_
  obtain ⟨found, -, hfound⟩ := h.progresses _ _ _ (asReader_eq_some_iff.mpr hmore)
  have happend : (c :: (inner ++ part)) ++ other = found ++ more := by simpa using hfound
  -- an end that is found here would hold the other one or end in front of what follows
  rcases List.append_eq_append_iff.mp happend with ⟨back, hback, hrest⟩ | ⟨back, hback, hrest⟩
  · subst hrest hback
    refine h.unnested (c :: inner) part back more (by simp) ?_ (h.decided _ _ _ hclose)
    simpa using hmore
  · have hwithin : close (found ++ (back ++ rest)) = some (back ++ rest) := by
      refine h.decided found more _ ?_
      rw [← hfound]
      exact hmore
    rw [← List.append_assoc, ← hback] at hwithin
    simp [hread] at hwithin

/-- The first end is the first one whatever follows it. -/
theorem IsClosing.splitFirst? {close : List Char → Option (List Char)} (h : IsClosing close)
    {inner part rest : List Char} (hpart : part ≠ []) (hclose : close (part ++ rest) = some rest)
    (hsplit : splitFirst? close (inner ++ (part ++ rest)) = some (inner, rest))
    (other : List Char) :
    Text.splitFirst? close (inner ++ (part ++ other)) = some (inner, other) := by
  induction inner with
  | nil =>
    obtain ⟨c, cs, rfl⟩ := List.exists_cons_of_ne_nil hpart
    have hother := h.decided _ rest other hclose
    rw [List.cons_append] at hother
    rw [List.nil_append, List.cons_append, Text.splitFirst?, hother]
  | cons c inner ih =>
    rw [List.cons_append, Text.splitFirst?] at hsplit
    cases hread : close (c :: (inner ++ (part ++ rest))) with
    | some more =>
      rw [hread] at hsplit
      cases hsplit
    | none =>
      rw [hread] at hsplit
      have htail : Text.splitFirst? close (inner ++ (part ++ rest)) = some (inner, rest) := by
        obtain ⟨⟨before, more⟩, hfound, heq⟩ := Option.map_eq_some_iff.mp hsplit
        obtain ⟨hbefore, rfl⟩ := Prod.mk.inj heq
        obtain rfl : before = inner := (List.cons.inj hbefore).2
        exact hfound
      rw [List.cons_append, Text.splitFirst?, h.eq_none hclose hread, ih htail]
      rfl

/-- A mark closes what stands before it. -/
theorem isClosing_after? {mark : List Char} (hmark : mark ≠ []) : IsClosing (after? mark) where
  progresses cs _ rest h := by
    rw [asReader_eq_some_iff, after?_eq_some_iff] at h
    exact ⟨mark, hmark, h⟩
  decided part rest other h := by
    rw [after?_eq_some_iff, List.append_left_inj] at h
    rw [after?_eq_some_iff, h]
  unnested front part back rest hfront h hpart := by
    rw [after?_eq_some_iff, List.append_left_inj] at hpart
    rw [after?_eq_some_iff, ← List.append_assoc, ← List.append_assoc, List.append_left_inj] at h
    have hlength := congrArg List.length h
    rw [List.length_append, List.length_append, hpart] at hlength
    have hpos := List.length_pos_iff.mpr hfront
    omega

/-! ### Closing tags -/

theorem afterFolded?_eq_some_iff {name cs rest : List Char} :
    afterFolded? name cs = some rest ↔ ∃ word, word.map fold = name ∧ cs = word ++ rest := by
  induction name generalizing cs with
  | nil => simp [afterFolded?, eq_comm]
  | cons d name ih =>
    cases cs with
    | nil =>
      simp only [afterFolded?, reduceCtorEq, false_iff, not_exists, not_and]
      rintro word hword hnil
      cases word with
      | nil => cases hword
      | cons e word => cases hnil
    | cons c cs =>
      rw [afterFolded?]
      split_ifs with hfold
      · rw [ih]
        constructor
        · rintro ⟨word, rfl, rfl⟩
          exact ⟨c :: word, by rw [List.map_cons, ← hfold], rfl⟩
        · rintro ⟨word, hword, hcs⟩
          cases word with
          | nil => cases hword
          | cons e word =>
            obtain ⟨rfl, rfl⟩ := List.cons.inj hcs
            exact ⟨word, (List.cons.inj hword).2, rfl⟩
      · simp only [false_iff, not_exists, not_and]
        intro word hword hcs
        cases word with
        | nil => cases hword
        | cons e word =>
          obtain ⟨rfl, rfl⟩ := List.cons.inj hcs
          exact hfold (List.cons.inj hword).1.symm

theorem afterMark_eq_some_iff {cs rest : List Char} :
    after? ['>'] (trimStart cs) = some rest ↔
      ∃ blanks, allBlank blanks = true ∧ cs = blanks ++ '>' :: rest :=
  after?_trimStart_eq_some_iff rfl (by decide)

/-- A closing tag: its name behind `</`, blanks, and its end. -/
theorem afterClosing?_eq_some_iff {name : String} {cs rest : List Char} :
    afterClosing? name cs = some rest ↔ ∃ word blanks, word.map fold = name.toList ∧
      allBlank blanks = true ∧ cs = '<' :: '/' :: (word ++ (blanks ++ '>' :: rest)) := by
  have hmark : ("</" ++ name).toList = '<' :: '/' :: name.toList := by simp
  rw [afterClosing?, hmark, Option.bind_eq_bind, Option.bind_eq_some_iff]
  constructor
  · rintro ⟨more, hmore, hend⟩
    obtain ⟨word, hword, rfl⟩ := afterFolded?_eq_some_iff.mp hmore
    obtain ⟨blanks, hblanks, rfl⟩ := afterMark_eq_some_iff.mp hend
    rcases word with - | ⟨c, - | ⟨d, word⟩⟩
    · cases hword
    · simp at hword
    · obtain ⟨hc, htail⟩ := List.cons.inj hword
      obtain ⟨hd, hname⟩ := List.cons.inj htail
      obtain rfl : c = '<' := eq_of_fold_eq hc (by decide)
      obtain rfl : d = '/' := eq_of_fold_eq hd (by decide)
      exact ⟨word, blanks, hname, hblanks, rfl⟩
  · rintro ⟨word, blanks, hword, hblanks, rfl⟩
    refine ⟨blanks ++ '>' :: rest, afterFolded?_eq_some_iff.mpr ⟨'<' :: '/' :: word, ?_, rfl⟩,
      afterMark_eq_some_iff.mpr ⟨blanks, hblanks, rfl⟩⟩
    rw [List.map_cons, List.map_cons, hword]
    rfl

theorem isClosing_afterClosing? {name : String} (hname : '<' ∉ name.toList) :
    IsClosing (afterClosing? name) where
  progresses cs _ rest h := by
    rw [asReader_eq_some_iff, afterClosing?_eq_some_iff] at h
    obtain ⟨word, blanks, -, -, rfl⟩ := h
    exact ⟨'<' :: '/' :: (word ++ (blanks ++ ['>'])), by simp, by simp⟩
  decided part rest other h := by
    obtain ⟨word, blanks, hword, hblanks, hpart⟩ := afterClosing?_eq_some_iff.mp h
    have hparts : part = '<' :: '/' :: (word ++ (blanks ++ ['>'])) :=
      List.append_cancel_right (by simpa using hpart)
    exact afterClosing?_eq_some_iff.mpr ⟨word, blanks, hword, hblanks, by simp [hparts]⟩
  unnested front part back rest hfront h hpart := by
    obtain ⟨word, blanks, hword, hblanks, hwhole⟩ := afterClosing?_eq_some_iff.mp h
    obtain ⟨word', blanks', -, -, hinner⟩ := afterClosing?_eq_some_iff.mp hpart
    obtain ⟨c, front, rfl⟩ := List.exists_cons_of_ne_nil hfront
    -- behind its beginning a closing tag has no other `<`
    have hno : '<' ∉ '/' :: (word ++ (blanks ++ ['>'])) := by
      simp only [List.mem_cons, List.mem_append, List.not_mem_nil, or_false, not_or]
      refine ⟨by decide, fun hmem => hname ?_, fun hmem => ?_, by decide⟩
      · rw [← hword]
        exact List.mem_map.mpr ⟨'<', hmem, by decide⟩
      · exact absurd (List.all_eq_true.mp hblanks _ hmem) (by decide)
    have hwhole' : front ++ (part ++ back) = '/' :: (word ++ (blanks ++ ['>'])) :=
      List.append_cancel_right (by simpa using (List.cons.inj hwhole).2)
    have hpart' : part = '<' :: '/' :: (word' ++ (blanks' ++ ['>'])) :=
      List.append_cancel_right (by simpa using hinner)
    rw [← hwhole', hpart'] at hno
    simp at hno

/-! ### Noise -/

/-- An element that shows nothing: its name, something that ends the name, and its closing tag. -/
theorem readWhole_eq_some_iff {name : String} {cs rest : List Char} :
    readWhole name cs = some ((), rest) ↔ ∃ word more inner, word.map fold = name.toList ∧
      cs = '<' :: (word ++ more) ∧ atWordEnd more = true ∧
      splitFirst? (afterClosing? name) more = some (inner, rest) := by
  constructor
  · intro h
    unfold readWhole at h
    split at h
    · rename_i cs
      cases hmore : afterFolded? name.toList cs with
      | none => simp [hmore] at h
      | some more =>
        obtain ⟨word, hword, rfl⟩ := afterFolded?_eq_some_iff.mp hmore
        by_cases hend : atWordEnd more = true
        · cases hsplit : splitFirst? (afterClosing? name) more with
          | none => simp [hmore, hend, hsplit] at h
          | some found =>
            obtain ⟨inner, after⟩ := found
            simp only [hmore, hend, hsplit, Option.bind_eq_bind, Option.bind_some, Bool.not_true,
              Bool.false_eq_true, if_false, Option.some.injEq, Prod.mk.injEq, true_and] at h
            exact ⟨word, more, inner, hword, rfl, hend, by rw [hsplit, h]⟩
        · simp [hmore, hend] at h
    · cases h
  · rintro ⟨word, more, inner, hword, rfl, hend, hsplit⟩
    have hmore : afterFolded? name.toList (word ++ more) = some more :=
      afterFolded?_eq_some_iff.mpr ⟨word, hword, rfl⟩
    simp [readWhole, hmore, hend, hsplit]

/-- Names of elements that show nothing. -/
theorem mem_noiseNames {name : String} (h : name ∈ noiseNames) :
    '<' ∉ name.toList ∧ name.toList ≠ [] ∧ ∀ c ∈ name.toList, isSmallLetter c = true := by
  have hall : ∀ name ∈ noiseNames,
      '<' ∉ name.toList ∧ name.toList ≠ [] ∧ name.toList.all isSmallLetter = true := by decide
  obtain ⟨hmark, hne, hletters⟩ := hall name h
  exact ⟨hmark, hne, List.all_eq_true.mp hletters⟩

/-- No name of an element that shows nothing begins with another one. -/
theorem name_eq_of_leads {name other : String} (h : name ∈ noiseNames) (hother : other ∈ noiseNames)
    (hleads : name.toList <+: other.toList) : name = other := by
  have hall : ∀ name ∈ noiseNames, ∀ other ∈ noiseNames, name.toList <+: other.toList →
      name = other := by decide
  exact hall name h other hother hleads

theorem progresses_readWhole {name : String} (hname : '<' ∉ name.toList) :
    Progresses (readWhole name) := by
  intro cs _ rest h
  obtain ⟨word, more, inner, -, rfl, -, hsplit⟩ := readWhole_eq_some_iff.mp h
  obtain ⟨part, -, rfl, -⟩ := exists_of_splitFirst?
    (isClosing_afterClosing? hname).progresses hsplit
  exact ⟨'<' :: (word ++ (inner ++ part)), by simp, by simp⟩

/-- An element that shows nothing is told from its own text. -/
theorem isDecided_readWhole {name : String} (hname : '<' ∉ name.toList) :
    IsDecided (readWhole name) := by
  have hclosing := isClosing_afterClosing? hname
  intro part rest _ other h
  obtain ⟨word, more, inner, hword, hcs, hend, hsplit⟩ := readWhole_eq_some_iff.mp h
  obtain ⟨closing, hne, rfl, hclose⟩ := exists_of_splitFirst? hclosing.progresses hsplit
  have hpart : part = '<' :: (word ++ (inner ++ closing)) :=
    List.append_cancel_right (by simpa using hcs)
  refine readWhole_eq_some_iff.mpr ⟨word, inner ++ (closing ++ other), inner, hword,
    by simp [hpart],
    ?_, hclosing.splitFirst? hne hclose hsplit other⟩
  obtain ⟨c, tail, hcons⟩ : ∃ c tail, inner ++ closing = c :: tail :=
    List.exists_cons_of_ne_nil (by simp [hne])
  rw [← List.append_assoc, hcons] at hend ⊢
  exact hend

/-- A comment. -/
def readComment : Reader Unit := fun cs =>
  (after? "<!--".toList cs).bind fun rest =>
    (splitAt? "-->".toList rest).map fun (_, rest) => ((), rest)

theorem readComment_eq_some_iff {cs rest : List Char} :
    readComment cs = some ((), rest) ↔ ∃ more inner, cs = "<!--".toList ++ more ∧
      splitAt? "-->".toList more = some (inner, rest) := by
  simp only [readComment, Option.bind_eq_some_iff, Option.map_eq_some_iff, after?_eq_some_iff]
  constructor
  · rintro ⟨more, hcs, ⟨inner, after⟩, hsplit, heq⟩
    obtain ⟨-, rfl⟩ := Prod.mk.inj heq
    exact ⟨more, inner, hcs, hsplit⟩
  · rintro ⟨more, inner, hcs, hsplit⟩
    exact ⟨more, hcs, (inner, rest), hsplit, rfl⟩

theorem isClosing_commentEnd : IsClosing (after? "-->".toList) :=
  isClosing_after? (by decide)

theorem progresses_readComment : Progresses readComment := by
  intro cs _ rest h
  obtain ⟨more, inner, rfl, hsplit⟩ := readComment_eq_some_iff.mp h
  obtain ⟨part, -, rfl, -⟩ := exists_of_splitFirst? isClosing_commentEnd.progresses hsplit
  exact ⟨"<!--".toList ++ (inner ++ part), by simp, by simp⟩

theorem isDecided_readComment : IsDecided readComment := by
  intro part rest _ other h
  obtain ⟨more, inner, hcs, hsplit⟩ := readComment_eq_some_iff.mp h
  obtain ⟨closing, hne, rfl, hclose⟩ :=
    exists_of_splitFirst? isClosing_commentEnd.progresses hsplit
  have hpart : part = "<!--".toList ++ (inner ++ closing) :=
    List.append_cancel_right (by simpa using hcs)
  refine readComment_eq_some_iff.mpr ⟨inner ++ (closing ++ other), inner, by simp [hpart], ?_⟩
  exact isClosing_commentEnd.splitFirst? hne hclose hsplit other

theorem readWhole_unique {name other : String} (hname : name ∈ noiseNames)
    (hother : other ∈ noiseNames) {cs rest rest' : List Char}
    (h : readWhole name cs = some ((), rest)) (h' : readWhole other cs = some ((), rest')) :
    name = other := by
  obtain ⟨word, more, -, hword, rfl, -⟩ := readWhole_eq_some_iff.mp h
  obtain ⟨word', more', -, hword', hcs, -⟩ := readWhole_eq_some_iff.mp h'
  have hleads : word <+: word ++ more := List.prefix_append word more
  have hleads' : word' <+: word ++ more := by
    rw [(List.cons.inj hcs).2]
    exact List.prefix_append word' more'
  rcases List.prefix_or_prefix_of_prefix hleads hleads' with hle | hle
  · exact name_eq_of_leads hname hother (hword ▸ hword' ▸ hle.map fold)
  · exact (name_eq_of_leads hother hname (hword ▸ hword' ▸ hle.map fold)).symm

/-- An element is no comment. -/
theorem after?_eq_none_of_readWhole {name : String} (hname : name ∈ noiseNames)
    {cs rest : List Char} (h : readWhole name cs = some ((), rest)) :
    after? "<!--".toList cs = none := by
  obtain ⟨word, more, -, hword, rfl, -⟩ := readWhole_eq_some_iff.mp h
  obtain ⟨-, hne, hletters⟩ := mem_noiseNames hname
  refine Option.eq_none_iff_forall_ne_some.mpr fun tail htail => ?_
  rw [after?_eq_some_iff] at htail
  cases word with
  | nil => exact hne (by rw [← hword]; rfl)
  | cons c word =>
    obtain rfl : c = '!' := (List.cons.inj (List.cons.inj htail).2).1
    have hletter := hletters (fold '!') (by rw [← hword]; exact List.mem_cons_self)
    exact absurd hletter (by decide)

/-- Noise is a comment or an element of one of the names. -/
theorem readNoise_eq_some_iff {cs rest : List Char} :
    readNoise cs = some ((), rest) ↔
      readComment cs = some ((), rest) ∨
        ∃ name ∈ noiseNames, readWhole name cs = some ((), rest) := by
  constructor
  · intro h
    unfold readNoise at h
    split at h
    · rename_i more hmore
      refine .inl ?_
      rw [readComment, hmore]
      exact h
    · obtain ⟨name, hname, hwhole⟩ := List.exists_of_findSome?_eq_some h
      exact .inr ⟨name, hname, hwhole⟩
  · rintro (hcomment | ⟨name, hname, hwhole⟩)
    · obtain ⟨more, inner, rfl, hsplit⟩ := readComment_eq_some_iff.mp hcomment
      have hmore : after? "<!--".toList ("<!--".toList ++ more) = some more :=
        after?_eq_some_iff.mpr rfl
      rw [readNoise, hmore]
      dsimp only
      rw [hsplit]
      rfl
    · rw [readNoise, after?_eq_none_of_readWhole hname hwhole]
      dsimp only
      -- the first name that is read is some name, and no text is an element of two names
      cases hfound : noiseNames.findSome? (readWhole · cs) with
      | none =>
        rw [List.findSome?_eq_none_iff] at hfound
        rw [hfound name hname] at hwhole
        cases hwhole
      | some found =>
        obtain ⟨⟨⟩, rest'⟩ := found
        obtain ⟨other, hother, hread⟩ := List.exists_of_findSome?_eq_some hfound
        obtain rfl := readWhole_unique hname hother hwhole hread
        rw [← hread, hwhole]

theorem progresses_readNoise : Progresses readNoise := by
  intro cs _ rest h
  rcases readNoise_eq_some_iff.mp h with hcomment | ⟨name, hname, hwhole⟩
  · exact progresses_readComment _ _ _ hcomment
  · exact progresses_readWhole (mem_noiseNames hname).1 _ _ _ hwhole

theorem isDecided_readNoise : IsDecided readNoise := by
  intro part rest _ other h
  rcases readNoise_eq_some_iff.mp h with hcomment | ⟨name, hname, hwhole⟩
  · exact readNoise_eq_some_iff.mpr (.inl (isDecided_readComment _ _ _ _ hcomment))
  · exact readNoise_eq_some_iff.mpr
      (.inr ⟨name, hname, isDecided_readWhole (mem_noiseNames hname).1 _ _ _ _ hwhole⟩)

/-! ### Noise in a page -/

/-- A text that is noise whatever follows it. -/
def IsNoise (noise : List Char) : Prop :=
  noise ≠ [] ∧ ∀ rest, readNoise (noise ++ rest) = some ((), rest)

/-- A piece of a page without its noise. -/
def blanked : Piece Unit → List Char
  | .char c => [c]
  | .found _ source => List.replicate (size source) ' '

theorem withoutNoise_eq (page : List Char) :
    withoutNoise page = (scan readNoise page).flatMap blanked := by
  rw [withoutNoise, replaceFound]
  congr 1
  funext piece
  cases piece <;> rfl

/-- Blanking moves nothing. -/
theorem size_withoutNoise (page : List Char) : size (withoutNoise page) = size page := by
  have hpieces : ∀ pieces : List (Piece Unit),
      size (pieces.flatMap blanked) = size (pieces.flatMap Piece.source) := by
    intro pieces
    induction pieces with
    | nil => rfl
    | cons piece pieces ih =>
      rw [List.flatMap_cons, List.flatMap_cons, size_append, size_append, ih]
      cases piece with
      | char c => rfl
      | found value source =>
        rw [blanked, size_replicate_space]
        rfl
  rw [withoutNoise_eq, hpieces, flatMap_source_scan]

/-- Noise that no other noise reaches is blanked on its own. -/
theorem withoutNoise_append {before noise after : List Char} (hnoise : IsNoise noise)
    (h : ScansApart readNoise before (noise ++ after)) :
    withoutNoise (before ++ (noise ++ after)) =
      withoutNoise before ++ (List.replicate (size noise) ' ' ++ withoutNoise after) := by
  have hscan := h.scan_append isDecided_readNoise progresses_readNoise
  rw [scan_append_of_some hnoise.1 (hnoise.2 after)] at hscan
  rw [withoutNoise_eq, hscan, List.flatMap_append, List.flatMap_cons, ← withoutNoise_eq,
    ← withoutNoise_eq, blanked]

theorem size_pos {cs : List Char} (h : cs ≠ []) : 0 < size cs := by
  obtain ⟨c, cs, rfl⟩ := List.exists_cons_of_ne_nil h
  rw [size_cons]
  have hpos := c.utf8Size_pos
  omega

/-- The items of a page do not depend on what is said in noise, but for their offsets. -/
theorem items_movesTo {before noise other after : List Char} (hnoise : IsNoise noise)
    (hother : IsNoise other) (hreach : ScansApart readNoise before (noise ++ after))
    (hreach' : ScansApart readNoise before (other ++ after))
    (htags : ClosesTags (withoutNoise before)) :
    List.Forall₂ (Item.MovesTo (size before) (size noise) (size other))
      (items (before ++ (noise ++ after))) (items (before ++ (other ++ after))) := by
  obtain ⟨n, hn⟩ := Nat.exists_eq_add_one_of_ne_zero (size_pos hnoise.1).ne'
  obtain ⟨m, hm⟩ := Nat.exists_eq_add_one_of_ne_zero (size_pos hother.1).ne'
  have hmoves := itemsFrom_movesTo htags n m (withoutNoise after)
  rw [size_withoutNoise] at hmoves
  rw [items, items, withoutNoise_append hnoise hreach, withoutNoise_append hother hreach', hn, hm]
  exact hmoves

/-! ### Versions of a comment or a script -/

theorem splitFirst?_cons_eq_none_iff {close : List Char → Option (List Char)} {c : Char}
    {cs : List Char} :
    splitFirst? close (c :: cs) = none ↔ close (c :: cs) = none ∧ splitFirst? close cs = none := by
  rw [splitFirst?]
  cases close (c :: cs) with
  | none => simp
  | some rest => simp

/-- A text without the end of a comment ends before it. -/
theorem splitAt?_commentEnd {text : List Char} (h : splitAt? "-->".toList text = none)
    (rest : List Char) :
    splitAt? "-->".toList (text ++ ("-->".toList ++ rest)) = some (text, rest) := by
  induction text with
  | nil => rfl
  | cons c text ih =>
    obtain ⟨hnone, htail⟩ := splitFirst?_cons_eq_none_iff.mp h
    -- a mark that begins in the text and ends behind it would have its `>` where there is none
    have hhere : after? "-->".toList (c :: (text ++ ("-->".toList ++ rest))) = none := by
      rcases text with - | ⟨d, - | ⟨e, text⟩⟩
      · simp [after?]
      · simp [after?]
      · simpa [after?] using hnone
    have hmore := ih htail
    rw [splitAt?] at hmore ⊢
    rw [List.cons_append, splitFirst?, hhere, hmore]
    rfl

/-- A comment is noise. -/
theorem isNoise_comment {text : List Char} (h : splitAt? "-->".toList text = none) :
    IsNoise ("<!--".toList ++ (text ++ "-->".toList)) := by
  refine ⟨by simp, fun rest => ?_⟩
  refine readNoise_eq_some_iff.mpr (.inl (readComment_eq_some_iff.mpr
    ⟨text ++ ("-->".toList ++ rest), text, by simp, splitAt?_commentEnd h rest⟩))

/-- A text without the beginning of a closing tag ends before the tag. -/
theorem splitFirst?_closingTag {name : String} (hname : '<' ∉ name.toList)
    {text closing : List Char}
    (h : splitFirst? (afterFolded? ("</" ++ name).toList) text = none)
    (hclosing : afterClosing? name closing = some []) (rest : List Char) :
    splitFirst? (afterClosing? name) (text ++ (closing ++ rest)) = some (text, rest) := by
  have hclose := isClosing_afterClosing? hname
  have hfollowed : ∀ rest, afterClosing? name (closing ++ rest) = some rest := fun rest =>
    hclose.decided closing [] rest (by rwa [List.append_nil])
  obtain ⟨tail, rfl⟩ : ∃ tail, closing = '<' :: tail := by
    obtain ⟨word, blanks, -, -, rfl⟩ := afterClosing?_eq_some_iff.mp hclosing
    exact ⟨_, rfl⟩
  have hmark : ("</" ++ name).toList = '<' :: '/' :: name.toList := by simp
  induction text with
  | nil =>
    have hhere := hfollowed rest
    rw [List.cons_append] at hhere
    rw [List.nil_append, List.cons_append, splitFirst?, hhere]
  | cons c text ih =>
    obtain ⟨hnone, htail⟩ := splitFirst?_cons_eq_none_iff.mp h
    -- the beginning of a closing tag is not found here, whatever follows the text
    have hhere : afterClosing? name (c :: (text ++ ('<' :: tail ++ rest))) = none := by
      have hfold : fold '<' ∉ '/' :: name.toList := by
        have heq : fold '<' = '<' := by decide
        simpa [heq] using hname
      have happend : afterFolded? ('/' :: name.toList) (text ++ '<' :: (tail ++ rest)) =
          (afterFolded? ('/' :: name.toList) text).map fun more => more ++ '<' :: (tail ++ rest) :=
        afterFolded?_append hfold (tail ++ rest)
      rw [hmark, afterFolded?] at hnone
      rw [afterClosing?, hmark, List.cons_append, afterFolded?, happend]
      split_ifs at hnone ⊢
      · rw [hnone]
        rfl
      · rfl
    rw [List.cons_append, splitFirst?, hhere, ih htail]
    rfl

/-- An element that shows nothing is noise. -/
theorem isNoise_element {name : String} (hname : name ∈ noiseNames) {word body closing : List Char}
    (hword : word.map fold = name.toList) (hend : atWordEnd body = true) (hbody : body ≠ [])
    (h : splitFirst? (afterFolded? ("</" ++ name).toList) body = none)
    (hclosing : afterClosing? name closing = some []) :
    IsNoise ('<' :: (word ++ (body ++ closing))) := by
  refine ⟨by simp, fun rest => readNoise_eq_some_iff.mpr (.inr ⟨name, hname, ?_⟩)⟩
  refine readWhole_eq_some_iff.mpr ⟨word, body ++ (closing ++ rest), body, hword, by simp, ?_,
    splitFirst?_closingTag (mem_noiseNames hname).1 h hclosing rest⟩
  obtain ⟨c, tail, rfl⟩ := List.exists_cons_of_ne_nil hbody
  exact hend

/-- Two comments, or two scripts with the same tags: one construct of a page with different texts in
it. -/
inductive AreVersions : List Char → List Char → Prop
  | comment {text other : List Char} (htext : splitAt? "-->".toList text = none)
      (hother : splitAt? "-->".toList other = none) :
      AreVersions ("<!--".toList ++ (text ++ "-->".toList))
        ("<!--".toList ++ (other ++ "-->".toList))
  | script {word attributes text other closing : List Char}
      (hword : word.map fold = "script".toList)
      (hattributes : atWordEnd (attributes ++ ['>']) = true)
      (hclosing : afterClosing? "script" closing = some [])
      (htext : splitFirst? (afterFolded? "</script".toList) (attributes ++ '>' :: text) = none)
      (hother : splitFirst? (afterFolded? "</script".toList) (attributes ++ '>' :: other) = none) :
      AreVersions ('<' :: (word ++ (attributes ++ '>' :: text ++ closing)))
        ('<' :: (word ++ (attributes ++ '>' :: other ++ closing)))

theorem AreVersions.symm {noise other : List Char} (h : AreVersions noise other) :
    AreVersions other noise := by
  cases h with
  | comment htext hother => exact .comment hother htext
  | script hword hattributes hclosing htext hother =>
    exact .script hword hattributes hclosing hother htext

theorem AreVersions.isNoise {noise other : List Char} (h : AreVersions noise other) :
    IsNoise noise := by
  cases h with
  | comment htext => exact isNoise_comment htext
  | script hword hattributes hclosing htext =>
    refine isNoise_element (by decide) hword ?_ (by simp) htext hclosing
    rw [atWordEnd_append]
    exact hattributes

end Html

end PageMarkup
