import PageMarkup.Proofs.Text.Spacing

/-!
# Borders between parts of a text

Where a text is put together from parts, a mark may begin in one part and end in the next.  Wherever
a border cuts no mark, what is recognized in the text is what is recognized on either side.  A part
that is cut at neither border stays so when the blanks around it and around the text are dropped,
and line by line: no mark holds a blank.
-/

namespace PageMarkup

universe u

variable {α : Type u}

namespace Text

/-! ### Scanning on both sides of a border -/

/-- What a reader recognizes does not depend on what follows it. -/
def IsDecided (read : Reader α) : Prop :=
  ∀ part rest value other, read (part ++ rest) = some (value, rest) →
    read (part ++ other) = some (value, other)

/-- Where no part begins in a text with something behind it, none begins in the text alone. -/
theorem IsDecided.eq_none_of_append {read : Reader α} (hdecided : IsDecided read)
    (hprogress : Progresses read) {front back : List Char} (h : read (front ++ back) = none) :
    read front = none := by
  refine Option.eq_none_iff_forall_ne_some.mpr fun ⟨value, rest⟩ hvalue => ?_
  obtain ⟨part, -, rfl⟩ := hprogress _ _ _ hvalue
  have hmore := hdecided part rest value (rest ++ back) hvalue
  rw [← List.append_assoc, h] at hmore
  cases hmore

/-- No part that begins in the first text reaches into the second. -/
def ScansApart (read : Reader α) (front back : List Char) : Prop :=
  ∃ pieces, scan read (front ++ back) = pieces ++ scan read back

/-- Then the parts of the first text are those of the text alone. -/
theorem ScansApart.scan_append {read : Reader α} (hdecided : IsDecided read)
    (hprogress : Progresses read) {front back : List Char} (h : ScansApart read front back) :
    scan read (front ++ back) = scan read front ++ scan read back := by
  obtain ⟨pieces, hpieces⟩ := h
  induction pieces generalizing front with
  | nil =>
    have hsource := congrArg (List.flatMap Piece.source) hpieces
    rw [List.nil_append, flatMap_source_scan, flatMap_source_scan] at hsource
    obtain rfl : front = [] := List.append_left_eq_self.mp hsource
    rfl
  | cons piece pieces ih =>
    cases front with
    | nil => rfl
    | cons c front =>
      have hsource := congrArg (List.flatMap Piece.source) hpieces
      rw [flatMap_source_scan, List.flatMap_append, flatMap_source_scan,
        List.append_left_inj] at hsource
      cases hread : read (c :: front ++ back) with
      | none =>
        have hnone : read (c :: front) = none := hdecided.eq_none_of_append hprogress hread
        rw [List.cons_append] at hread hpieces ⊢
        rw [scan_cons_of_none hread] at hpieces ⊢
        rw [scan_cons_of_none hnone, ih (List.cons.inj hpieces).2, List.cons_append]
      | some found =>
        obtain ⟨value, rest⟩ := found
        obtain ⟨part, hne, hpart⟩ := hprogress _ _ _ hread
        rw [hpart] at hread hpieces
        rw [scan_append_of_some hne hread, List.cons_append] at hpieces
        obtain ⟨rfl, htail⟩ := List.cons.inj hpieces
        rw [List.flatMap_cons] at hsource
        have hrest : rest = pieces.flatMap Piece.source ++ back := by
          have hwhole := hpart
          rw [hsource, List.append_assoc] at hwhole
          exact (List.append_cancel_left hwhole).symm
        -- the part ends in the front, and there it is recognized alone
        have hown := hdecided part rest value (pieces.flatMap Piece.source) hread
        rw [hrest] at htail
        rw [hpart, scan_append_of_some hne hread, hsource]
        have hfound : scan read (part ++ pieces.flatMap Piece.source) =
            .found value part :: scan read (pieces.flatMap Piece.source) :=
          scan_append_of_some hne hown
        have hboth := ih htail
        rw [hrest, hboth]
        exact congrArg (· ++ scan read back) hfound.symm

/-! ### Marks -/

variable {IsMark : List Char → Prop} {front back part text : List Char}

/-- The border between two texts cuts no mark. -/
def CutsNo (IsMark : List Char → Prop) (front back : List Char) : Prop :=
  ∀ left right, left <:+ front → right <+: back → IsMark (left ++ right) → left = [] ∨ right = []

/-- The text is one that a reader recognizes as a whole. -/
def IsRecognized (read : Reader α) (cs : List Char) : Prop :=
  ∃ value, read cs = some (value, [])

/-- A border inside the texts on both sides of it cuts nothing else. -/
theorem CutsNo.mono {inner inner' : List Char} (h : CutsNo IsMark front back)
    (hfront : inner <:+ front) (hback : inner' <+: back) : CutsNo IsMark inner inner' :=
  fun left right hleft hright => h left right (hleft.trans hfront) (hright.trans hback)

/-- Before a border that cuts nothing a reader recognizes what it does without the text behind it.
-/
theorem CutsNo.read_append {read : Reader α} (hdecided : IsDecided read)
    (hprogress : Progresses read) (h : CutsNo (IsRecognized read) front back) (hne : front ≠ []) :
    read (front ++ back) = (read front).map fun (value, rest) => (value, rest ++ back) := by
  cases hread : read front with
  | some found =>
    obtain ⟨value, rest⟩ := found
    obtain ⟨part, -, rfl⟩ := hprogress _ _ _ hread
    rw [List.append_assoc]
    exact hdecided _ _ _ _ hread
  | none =>
    refine Option.eq_none_iff_forall_ne_some.mpr fun ⟨value, rest⟩ hvalue => ?_
    obtain ⟨part, hpart, happend⟩ := hprogress _ _ _ hvalue
    rw [happend] at hvalue
    have halone : read (part ++ []) = some (value, []) := hdecided _ _ _ _ hvalue
    rcases List.append_eq_append_iff.mp happend with ⟨right, rfl, hback⟩ | ⟨more, rfl, -⟩
    · -- the part reaches the border, so it ends there
      rw [List.append_nil] at halone
      rcases h front right (List.suffix_refl front) ⟨rest, hback.symm⟩ ⟨value, halone⟩ with
        hnil | rfl
      · exact hne hnil
      · rw [List.append_nil, hread] at halone
        cases halone
    · have hmore : read (part ++ more) = some (value, more) := hdecided _ _ _ _ hvalue
      rw [hread] at hmore
      cases hmore

/-- A border that cuts nothing that a reader recognizes separates what it finds. -/
theorem CutsNo.scan_append {read : Reader α} (hdecided : IsDecided read)
    (hprogress : Progresses read) (h : CutsNo (IsRecognized read) front back) :
    scan read (front ++ back) = scan read front ++ scan read back := by
  induction front using hprogress.induction with
  | nil => rfl
  | char c front hread ih =>
    have happend := h.read_append hdecided hprogress (List.cons_ne_nil c front)
    rw [hread, List.cons_append] at happend
    have htail := h.mono (List.suffix_cons c front) (List.prefix_refl back)
    rw [List.cons_append, scan_cons_of_none happend, scan_cons_of_none hread, ih htail,
      List.cons_append]
  | found value part rest hne hread ih =>
    have happend := h.read_append hdecided hprogress (List.append_ne_nil_of_left_ne_nil hne rest)
    rw [hread, Option.map_some, List.append_assoc] at happend
    have htail := h.mono (List.suffix_append part rest) (List.prefix_refl back)
    rw [List.append_assoc, scan_append_of_some hne happend, scan_append_of_some hne hread,
      ih htail, List.cons_append]

theorem cutsNo_nil_left (back : List Char) : CutsNo IsMark [] back :=
  fun _ _ hleft _ _ => .inl (List.suffix_nil.mp hleft)

theorem cutsNo_nil_right (front : List Char) : CutsNo IsMark front [] :=
  fun _ _ _ hright _ => .inr (List.prefix_nil.mp hright)

/-- The character is in no mark. -/
def IsFree (IsMark : List Char → Prop) (c : Char) : Prop :=
  ∀ mark, IsMark mark → c ∉ mark

/-- Behind a character that is in no mark nothing is cut. -/
theorem cutsNo_of_getLast? {c : Char} (hc : IsFree IsMark c) (h : front.getLast? = some c) :
    CutsNo IsMark front back := by
  intro left right hleft _ hmark
  by_contra hboth
  rw [not_or] at hboth
  obtain ⟨more, rfl⟩ := hleft
  rw [List.getLast?_append_of_ne_nil _ hboth.1] at h
  exact hc _ hmark (List.mem_append_left _ (List.mem_of_getLast? h))

/-- Before a character that is in no mark nothing is cut. -/
theorem cutsNo_of_head? {c : Char} (hc : IsFree IsMark c) (h : back.head? = some c) :
    CutsNo IsMark front back := by
  intro left right _ hright hmark
  by_contra hboth
  rw [not_or] at hboth
  obtain ⟨more, rfl⟩ := hright
  rw [List.head?_append_of_ne_nil _ hboth.2] at h
  exact hc _ hmark (List.mem_append_right _ (List.mem_of_head? h))

/-! ### Parts that are whole in a text -/

/-- The part stands in the text, and neither border of it cuts a mark. -/
def IsWholeIn (IsMark : List Char → Prop) (part text : List Char) : Prop :=
  ∃ front back, text = front ++ (part ++ back) ∧ CutsNo IsMark front (part ++ back) ∧
    CutsNo IsMark (front ++ part) back

/-- Without a first character that is in no mark a part is as whole as with it. -/
theorem IsWholeIn.of_cons {c : Char} (hc : IsFree IsMark c)
    (h : IsWholeIn IsMark (c :: part) text) :
    IsWholeIn IsMark part text := by
  obtain ⟨front, back, rfl, -, hright⟩ := h
  refine ⟨front ++ [c], back, by simp, ?_, by simpa using hright⟩
  exact cutsNo_of_getLast? hc (by simp)

/-- A whole part begins with the text or stands behind its first character. -/
theorem IsWholeIn.of_cons_text {c : Char} (h : IsWholeIn IsMark part (c :: text))
    (hne : part ≠ []) :
    IsWholeIn IsMark part text ∨ ∃ more, part = c :: more ∧ IsWholeIn IsMark more text := by
  obtain ⟨front, back, htext, hleft, hright⟩ := h
  cases front with
  | nil =>
    obtain ⟨d, more, rfl⟩ := List.exists_cons_of_ne_nil hne
    obtain ⟨rfl, rfl⟩ := List.cons.inj htext
    refine .inr ⟨more, rfl, [], back, rfl, cutsNo_nil_left _, ?_⟩
    exact hright.mono (List.suffix_cons c more) (List.prefix_refl back)
  | cons d front =>
    obtain ⟨rfl, rfl⟩ := List.cons.inj htext
    refine .inl ⟨front, back, rfl, ?_, ?_⟩
    · exact hleft.mono (List.suffix_cons c front) (List.prefix_refl _)
    · exact hright.mono (List.suffix_cons c _) (List.prefix_refl back)

/-- What is recognized in a whole part is recognized in the text, between what is recognized before
and behind it. -/
theorem IsWholeIn.scan_isInfix {read : Reader α} (hdecided : IsDecided read)
    (hprogress : Progresses read) (h : IsWholeIn (IsRecognized read) part text) :
    scan read part <:+: scan read text := by
  obtain ⟨front, back, rfl, hleft, hright⟩ := h
  have hback : CutsNo (IsRecognized read) part back :=
    hright.mono (List.suffix_append front part) (List.prefix_refl back)
  rw [hleft.scan_append hdecided hprogress, hback.scan_append hdecided hprogress]
  exact ⟨scan read front, scan read back, by rw [List.append_assoc]⟩

/-! ### Dropping blanks -/

/-- The blanks before a text that begins with none are dropped. -/
theorem trimStart_append {rest : List Char} (hrest : ∀ c ∈ rest.head?, isBlank c = false)
    (front : List Char) : trimStart (front ++ rest) = trimStart front ++ rest := by
  induction front with
  | nil => exact trimStart_eq_self hrest
  | cons c front ih =>
    cases hc : isBlank c with
    | true => simpa [trimStart, hc] using ih
    | false => simp [trimStart, hc]

theorem IsWholeIn.trimStart (hblank : ∀ c, isBlank c = true → IsFree IsMark c)
    (h : IsWholeIn IsMark part text) (hne : Text.trimStart part ≠ []) :
    IsWholeIn IsMark (Text.trimStart part) (Text.trimStart text) := by
  obtain ⟨front, back, rfl, hleft, hright⟩ := h
  let blanks := part.takeWhile isBlank
  have hpart : blanks ++ Text.trimStart part = part := List.takeWhile_append_dropWhile
  have hhead : ∀ c ∈ (Text.trimStart part ++ back).head?, isBlank c = false := by
    rw [List.head?_append_of_ne_nil _ hne]
    exact head?_trimStart part
  have htext : Text.trimStart (front ++ (part ++ back)) =
      Text.trimStart (front ++ blanks) ++ (Text.trimStart part ++ back) := by
    have hsame : front ++ (part ++ back) = front ++ blanks ++ (Text.trimStart part ++ back) := by
      rw [List.append_assoc, ← List.append_assoc blanks, hpart]
    rw [hsame, trimStart_append hhead]
  have hsuffix : Text.trimStart (front ++ blanks) <:+ front ++ blanks := List.dropWhile_suffix _
  refine ⟨Text.trimStart (front ++ blanks), back, htext, ?_, ?_⟩
  · have hborder : CutsNo IsMark (front ++ blanks) (Text.trimStart part ++ back) := by
      -- the blanks passed between front and part cut nothing
      by_cases hnil : blanks = []
      · rw [hnil, List.nil_append] at hpart
        rw [hnil, List.append_nil, hpart]
        exact hleft
      · have hlast : isBlank (blanks.getLast hnil) = true :=
          List.mem_takeWhile_imp (List.getLast_mem hnil)
        refine cutsNo_of_getLast? (hblank _ hlast) ?_
        rw [List.getLast?_append_of_ne_nil _ hnil, List.getLast?_eq_some_getLast hnil]
    exact hborder.mono hsuffix (List.prefix_refl _)
  · refine hright.mono ?_ (List.prefix_refl back)
    obtain ⟨more, hmore⟩ := hsuffix
    exact ⟨more, by rw [← List.append_assoc, hmore, List.append_assoc, hpart]⟩

/-- The marks, the last character first. -/
def Reversed (IsMark : List Char → Prop) (mark : List Char) : Prop :=
  IsMark mark.reverse

theorem CutsNo.reverse (h : CutsNo IsMark front back) :
    CutsNo (Reversed IsMark) back.reverse front.reverse := by
  intro left right hleft hright hmark
  have hboth := h right.reverse left.reverse (List.reverse_prefix.mp (by simpa using hright))
    (List.reverse_suffix.mp (by simpa using hleft)) (by simpa [Reversed] using hmark)
  simpa [or_comm] using hboth

theorem IsWholeIn.reverse (h : IsWholeIn IsMark part text) :
    IsWholeIn (Reversed IsMark) part.reverse text.reverse := by
  obtain ⟨front, back, rfl, hleft, hright⟩ := h
  exact ⟨back.reverse, front.reverse, by simp, by simpa using hright.reverse,
    by simpa using hleft.reverse⟩

theorem IsWholeIn.trimEnd (hblank : ∀ c, isBlank c = true → IsFree IsMark c)
    (h : IsWholeIn IsMark part text) (hne : Text.trimEnd part ≠ []) :
    IsWholeIn IsMark (Text.trimEnd part) (Text.trimEnd text) := by
  have hfree : ∀ c, isBlank c = true → IsFree (Reversed IsMark) c := by
    intro c hc mark hmark
    simpa using hblank c hc mark.reverse hmark
  have hstart : Text.trimStart part.reverse ≠ [] := fun hnil => hne (congrArg List.reverse hnil)
  have hback := (h.reverse.trimStart hfree hstart).reverse
  have hmarks : Reversed (Reversed IsMark) = IsMark := by
    funext mark
    simp [Reversed]
  rw [hmarks] at hback
  exact hback

/-- A whole part stays whole when the blanks around it and around the text are dropped. -/
theorem IsWholeIn.trim (hblank : ∀ c, isBlank c = true → IsFree IsMark c)
    (h : IsWholeIn IsMark part text) (hne : Text.trim part ≠ []) :
    IsWholeIn IsMark (Text.trim part) (Text.trim text) := by
  have hstart : Text.trimStart part ≠ [] := by
    intro hnil
    exact hne (by rw [Text.trim, hnil]; rfl)
  exact (h.trimStart hblank hstart).trimEnd hblank hne

/-! ### Lines -/

section

variable {p : Char → Bool} {cs : List Char} {pieces : List (List Char)}

/-- A text whose only piece is empty is empty. -/
theorem eq_nil_of_splitWhere_eq (h : splitWhere p cs = [[]]) : cs = [] := by
  cases cs with
  | nil => rfl
  | cons c cs =>
    obtain ⟨piece, more, hmore⟩ := List.exists_cons_of_ne_nil (splitWhere_ne_nil p cs)
    rw [splitWhere, hmore] at h
    split at h <;> simp at h

/-- A text with an empty first piece begins with a cut, unless it is empty. -/
theorem eq_nil_or_head?_of_splitWhere_eq (h : splitWhere p cs = [] :: pieces) :
    cs = [] ∨ ∃ c, cs.head? = some c ∧ p c = true := by
  cases cs with
  | nil => exact .inl rfl
  | cons c cs =>
    obtain ⟨piece, more, hmore⟩ := List.exists_cons_of_ne_nil (splitWhere_ne_nil p cs)
    rw [splitWhere, hmore] at h
    split at h
    · rename_i hc
      exact .inr ⟨c, rfl, hc⟩
    · simp at h

/-- A text with an empty last piece ends with a cut, unless it is empty. -/
theorem eq_nil_or_getLast?_of_splitWhere_eq (h : splitWhere p cs = pieces ++ [[]]) :
    cs = [] ∨ ∃ c, cs.getLast? = some c ∧ p c = true := by
  rcases List.eq_nil_or_concat cs with rfl | ⟨front, c, rfl⟩
  · exact .inl rfl
  · refine .inr ⟨c, by rw [List.concat_eq_append, List.getLast?_concat], ?_⟩
    by_contra hc
    have htail : ∀ d ∈ [c], p d = false := by simpa using hc
    obtain ⟨others, last, -, happend⟩ := exists_splitWhere_append htail front
    rw [List.concat_eq_append, happend] at h
    exact absurd (List.append_singleton_inj.mp h).2 (by simp)

end

/-- A piece of a text stands between texts that end and begin with an empty piece. -/
theorem exists_of_splitWhere_eq {p : Char → Bool} {line cs : List Char}
    {pieces others : List (List Char)} (h : splitWhere p cs = pieces ++ line :: others) :
    ∃ before after, cs = before ++ (line ++ after) ∧ splitWhere p before = pieces ++ [[]] ∧
      splitWhere p after = [] :: others := by
  induction cs generalizing pieces line with
  | nil =>
    cases pieces with
    | nil =>
      obtain ⟨rfl, rfl⟩ := List.cons.inj h
      exact ⟨[], [], rfl, rfl, rfl⟩
    | cons piece pieces => simp [splitWhere] at h
  | cons c cs ih =>
    rw [splitWhere] at h
    split at h
    · rename_i hc
      cases pieces with
      | nil =>
        obtain ⟨rfl, rfl⟩ := List.cons.inj h
        exact ⟨[], c :: cs, rfl, rfl, by rw [splitWhere, if_pos hc]⟩
      | cons piece pieces =>
        obtain ⟨rfl, htail⟩ := List.cons.inj h
        obtain ⟨before, after, rfl, hbefore, hafter⟩ := ih htail
        exact ⟨c :: before, after, rfl, by rw [splitWhere, if_pos hc, hbefore]; rfl, hafter⟩
    · rename_i hc
      obtain ⟨piece, more, hmore⟩ := List.exists_cons_of_ne_nil (splitWhere_ne_nil p cs)
      rw [hmore] at h
      cases pieces with
      | nil =>
        obtain ⟨rfl, rfl⟩ := List.cons.inj h
        obtain ⟨before, after, rfl, hbefore, hafter⟩ := @ih piece [] hmore
        obtain rfl := eq_nil_of_splitWhere_eq hbefore
        exact ⟨[], after, rfl, rfl, hafter⟩
      | cons first pieces =>
        obtain ⟨rfl, rfl⟩ := List.cons.inj h
        obtain ⟨before, after, rfl, hbefore, hafter⟩ := @ih line (piece :: pieces) hmore
        exact ⟨c :: before, after, rfl, by rw [splitWhere, if_neg hc, hbefore]; rfl, hafter⟩

/-- The first piece of a text is a first part of it. -/
theorem prefix_of_splitWhere_eq {p : Char → Bool} {first cs : List Char}
    {others : List (List Char)} (h : splitWhere p cs = first :: others) : first <+: cs := by
  obtain ⟨before, after, rfl, hbefore, -⟩ := @exists_of_splitWhere_eq p first cs [] others h
  obtain rfl := eq_nil_of_splitWhere_eq hbefore
  exact List.prefix_append first after

/-- The last piece of a text is a last part of it. -/
theorem suffix_of_splitWhere_eq {p : Char → Bool} {last cs : List Char}
    {pieces : List (List Char)} (h : splitWhere p cs = pieces ++ [last]) : last <:+ cs := by
  obtain ⟨before, after, rfl, -, hafter⟩ := exists_of_splitWhere_eq h
  obtain rfl := eq_nil_of_splitWhere_eq hafter
  rw [List.append_nil]
  exact List.suffix_append before last

/-- The lines of a whole part are whole in lines of the text. -/
theorem IsWholeIn.exists_line {p : Char → Bool} (hfree : ∀ c, p c = true → IsFree IsMark c)
    (h : IsWholeIn IsMark part text) {line : List Char} (hline : line ∈ splitWhere p part) :
    ∃ whole ∈ splitWhere p text, IsWholeIn IsMark line whole := by
  obtain ⟨front, back, rfl, hleft, hright⟩ := h
  obtain ⟨pieces, others, hpieces⟩ := List.append_of_mem hline
  obtain ⟨before, after, rfl, hbefore, hafter⟩ := exists_of_splitWhere_eq hpieces
  obtain ⟨start, first, hfirst⟩ := exists_splitWhere_eq_concat p (front ++ before)
  obtain ⟨last, rest, hlast⟩ := List.exists_cons_of_ne_nil (splitWhere_ne_nil p (after ++ back))
  have hfront : first <:+ front ++ before := suffix_of_splitWhere_eq hfirst
  have hback : last <+: after ++ back := prefix_of_splitWhere_eq hlast
  have hself : splitWhere p line = [] ++ [line] :=
    splitWhere_of_forall (forall_of_mem_splitWhere hline)
  have hwhole : splitWhere p (front ++ before ++ (line ++ (after ++ back))) =
      start ++ (first ++ (line ++ last)) :: rest :=
    splitWhere_append hfirst (splitWhere_append hself hlast)
  refine ⟨first ++ (line ++ last), ?_, first, last, rfl, ?_, ?_⟩
  · have hmem : first ++ (line ++ last) ∈
        splitWhere p (front ++ before ++ (line ++ (after ++ back))) := by
      rw [hwhole]
      exact List.mem_append_right _ List.mem_cons_self
    simpa using hmem
  · -- either the line begins with the part or behind a character that ends a line
    have hborder : CutsNo IsMark (front ++ before) (line ++ (after ++ back)) := by
      rcases eq_nil_or_getLast?_of_splitWhere_eq hbefore with rfl | ⟨c, hc, hcut⟩
      · simpa using hleft
      · refine cutsNo_of_getLast? (hfree c hcut) ?_
        rw [List.getLast?_append, hc]
        rfl
    exact hborder.mono hfront ((List.prefix_append_right_inj line).mpr hback)
  · have hborder : CutsNo IsMark (front ++ before ++ line) (after ++ back) := by
      rcases eq_nil_or_head?_of_splitWhere_eq hafter with rfl | ⟨c, hc, hcut⟩
      · simpa using hright
      · refine cutsNo_of_head? (hfree c hcut) ?_
        rw [List.head?_append, hc]
        rfl
    obtain ⟨more, hmore⟩ := hfront
    refine hborder.mono ⟨more, ?_⟩ hback
    rw [← List.append_assoc, hmore]

end Text

end PageMarkup
