import Mathlib.Data.List.Infix
import PageMarkup.Proofs.Entity
import PageMarkup.Proofs.Import.Values
import PageMarkup.Proofs.Markup.Brackets

/-!
# What is read of a run of text

Elements read the text inside them, tags apart, in one of three ways: as plain text with its
references decoded, as rich text with its brackets put back, or line by line as the features of a
plan.  A text between elements is read for itself.  Whatever the way, a run of which no tag cuts a
reference is read as a part of the whole.
-/

namespace PageMarkup

open Text

/-- How a text is read. -/
inductive Reading where
  /-- A text between elements. -/
  | loose
  /-- The plain text of an element. -/
  | plain
  /-- The rich text of an element. -/
  | rich
  /-- The lines of a plan. -/
  | lines
  deriving DecidableEq, Repr

namespace Reading

/-- The references that are read. -/
def reference? : Reading → Reader Char
  | loose => fun _ => none
  | plain => Entity.reference?
  | rich => Escape.readBracket
  | lines => Entity.reference?

/-- What is to be found of a run of text: all of it without the blanks around it, or in a plan each
of its lines without the plus before it, unless nothing is left of it. -/
def kept : Reading → List Char → List (List Char)
  | loose, run => [Escape.unbracket (trim run)]
  | plain, run => [Entity.decode (trim run)]
  | rich, run => [Escape.unbracket (trim run)]
  | lines, run =>
    (((splitWhere (· == '\n') run).map Element.featureOf).filter fun line => !line.isEmpty).map
      Entity.decode

/-- No reference is cut where the run begins or ends. -/
def IsUncut (reading : Reading) (front run back : List Char) : Prop :=
  CutsNo (IsRecognized reading.reference?) front (run ++ back) ∧
    CutsNo (IsRecognized reading.reference?) (front ++ run) back

variable {reading : Reading} {front run back : List Char}

/-- Of a text between elements nothing can be cut. -/
theorem isUncut_loose (front run back : List Char) : loose.IsUncut front run back := by
  constructor <;> rintro left right - - ⟨value, hvalue⟩ <;> cases hvalue

/-- A run that is not cut in a text is not cut in a part of the text around it. -/
theorem IsUncut.mono (h : reading.IsUncut front run back) {before after : List Char}
    (hbefore : before <:+ front) (hafter : after <+: back) : reading.IsUncut before run after := by
  refine ⟨h.1.mono hbefore ?_, h.2.mono ?_ hafter⟩
  · exact (List.prefix_append_right_inj run).mpr hafter
  · obtain ⟨more, rfl⟩ := hbefore
    exact ⟨more, by rw [List.append_assoc]⟩

/-- A run that is not cut is whole in the text that it stands in. -/
theorem IsUncut.isWholeIn (h : reading.IsUncut front run back) {text : List Char}
    (htext : text = front ++ (run ++ back)) :
    IsWholeIn (IsRecognized reading.reference?) run text :=
  ⟨front, back, htext, h⟩

end Reading

namespace Element

variable {run text : List Char}

theorem isFree_reference_of_isBlank (c : Char) (hc : isBlank c = true) :
    IsFree (IsRecognized Entity.reference?) c :=
  Entity.isFree_of_isReferenceChar (Entity.isReferenceChar_eq_false (.inl hc))

theorem isFree_bracket_of_isBlank (c : Char) (hc : isBlank c = true) :
    IsFree (IsRecognized Escape.readBracket) c := by
  refine Escape.isFree_readBracket fun hmem => ?_
  have hshown : ∀ d ∈ "&#91;".toList ++ "&#93;".toList, (!isBlank d) = true :=
    List.all_eq_true.mp rfl
  simpa [hc] using hshown c hmem

/-- What is put for a part that is recognized shows in what is put for the text. -/
theorem isInfix_replaceFound {read : Reader Char} (hdecided : IsDecided read)
    (hprogress : Progresses read) (h : IsWholeIn (IsRecognized read) run text) :
    replaceFound read (fun c _ => [c]) run <:+: replaceFound read (fun c _ => [c]) text :=
  (h.scan_isInfix hdecided hprogress).flatMap _

/-- A text that is not empty stands for one that is not. -/
theorem replaceFound_ne_nil {read : Reader Char} (hprogress : Progresses read) (h : run ≠ []) :
    replaceFound read (fun c _ => [c]) run ≠ [] := by
  obtain ⟨c, cs, rfl⟩ := List.exists_cons_of_ne_nil h
  cases hread : read (c :: cs) with
  | none =>
    rw [replaceFound_cons_of_none hread]
    exact List.cons_ne_nil c _
  | some found =>
    obtain ⟨value, rest⟩ := found
    obtain ⟨part, hne, hpart⟩ := hprogress _ _ _ hread
    rw [hpart] at hread ⊢
    rw [replaceFound_append_of_some hne hread]
    exact List.cons_ne_nil value _

/-- A whole run that is not blank shows in the plain text. -/
theorem isInfix_plain {run : List Char} {text : String}
    (h : IsWholeIn (IsRecognized Entity.reference?) run text.toList) (hrun : allBlank run = false) :
    Entity.decode (trim run) <:+: (plain text).toList := by
  have hne : trim run ≠ [] := fun hnil => by simp [trim_eq_nil_iff.mp hnil] at hrun
  have htrim := h.trim isFree_reference_of_isBlank hne
  rw [plain, Entity.decoded, trimmed, String.toList_ofList, String.toList_ofList]
  exact isInfix_replaceFound Entity.isDecided_reference? Entity.progresses_reference? htrim

/-- A whole run that is not blank shows in the rich text. -/
theorem isInfix_rich {run : List Char} {text : String}
    (h : IsWholeIn (IsRecognized Escape.readBracket) run text.toList)
    (hrun : allBlank run = false) :
    Escape.unbracket (trim run) <:+: (rich text).toList := by
  have hne : trim run ≠ [] := fun hnil => by simp [trim_eq_nil_iff.mp hnil] at hrun
  have htrim := h.trim isFree_bracket_of_isBlank hne
  rw [toList_rich, Escape.unbracket_eq, Escape.unbracket_eq]
  exact isInfix_replaceFound Escape.isDecided_readBracket Escape.progresses_readBracket htrim

/-! ### Lines of a plan -/

/-- What is left of a line without the plus before it. -/
theorem featureOf_eq (line : List Char) :
    (∃ rest, trim line = '+' :: rest ∧ featureOf line = trim rest) ∨
      ((∀ rest, trim line ≠ '+' :: rest) ∧ featureOf line = trim line) := by
  unfold featureOf
  split
  · rename_i rest hline
    exact .inl ⟨rest, hline, rfl⟩
  · rename_i hline
    exact .inr ⟨hline, rfl⟩

/-- What is left of a line is trimmed. -/
theorem trim_featureOf (line : List Char) : trim (featureOf line) = featureOf line := by
  rcases featureOf_eq line with ⟨rest, -, h⟩ | ⟨-, h⟩ <;> rw [h, trim_trim]

/-- What is left of a whole part of a line is whole in what is left of the line. -/
theorem isWholeIn_featureOf {line whole : List Char}
    (h : IsWholeIn (IsRecognized Entity.reference?) line whole) (hne : featureOf line ≠ []) :
    IsWholeIn (IsRecognized Entity.reference?) (featureOf line) (featureOf whole) := by
  have hblank := isFree_reference_of_isBlank
  have hplus : IsFree (IsRecognized Entity.reference?) '+' :=
    Entity.isFree_of_isReferenceChar (Entity.isReferenceChar_eq_false (.inr rfl))
  have hline : trim line ≠ [] := by
    intro hnil
    rcases featureOf_eq line with ⟨rest, hrest, -⟩ | ⟨-, hsame⟩
    · rw [hnil] at hrest
      cases hrest
    · exact hne (hsame.trans hnil)
  have htrim := h.trim hblank hline
  -- the part without its plus is as whole in the line as the part
  have hpart : ∀ text, IsWholeIn (IsRecognized Entity.reference?) (trim line) text →
      ∃ more, featureOf line = trim more ∧
        IsWholeIn (IsRecognized Entity.reference?) more text := by
    intro text htext
    rcases featureOf_eq line with ⟨rest, hrest, hfeature⟩ | ⟨-, hfeature⟩
    · exact ⟨rest, hfeature, (hrest ▸ htext).of_cons hplus⟩
    · exact ⟨trim line, hfeature.trans (trim_trim line).symm, htext⟩
  have hdone : ∀ more text, featureOf line = trim more →
      IsWholeIn (IsRecognized Entity.reference?) more text →
      IsWholeIn (IsRecognized Entity.reference?) (featureOf line) (trim text) := by
    intro more text hmore htext
    rw [hmore]
    exact htext.trim hblank (hmore ▸ hne)
  rcases featureOf_eq whole with ⟨rest, hrest, hfeature⟩ | ⟨-, hfeature⟩
  · rw [hfeature]
    rw [hrest] at htrim
    rcases htrim.of_cons_text hline with hrest' | ⟨more, hmore, hrest'⟩
    · obtain ⟨more, hmore, hwhole⟩ := hpart rest hrest'
      exact hdone more rest hmore hwhole
    · rcases featureOf_eq line with ⟨own, hown, hself⟩ | ⟨hnone, -⟩
      · obtain rfl : own = more := (List.cons.inj (hown.symm.trans hmore)).2
        exact hdone own rest hself hrest'
      · exact absurd hmore (hnone more)
  · obtain ⟨more, hmore, hwhole⟩ := hpart (trim whole) htrim
    rw [hfeature, ← trim_trim]
    exact hdone more (trim whole) hmore hwhole

/-- Every line of a whole run shows in a feature of the plan. -/
theorem exists_planFeature {run : List Char} {text : String}
    (h : IsWholeIn (IsRecognized Entity.reference?) run text.toList) {part : List Char}
    (hpart : part ∈ Reading.lines.kept run) :
    ∃ feature, Value.text feature ∈ planFeatures text ∧ part <:+: feature.toList := by
  obtain ⟨left, hleft, rfl⟩ := List.mem_map.mp hpart
  obtain ⟨hline, hne⟩ := List.mem_filter.mp hleft
  obtain ⟨line, hmem, rfl⟩ := List.mem_map.mp hline
  have hne : featureOf line ≠ [] := by simpa using hne
  have hfree : ∀ c, (c == '\n') = true → IsFree (IsRecognized Entity.reference?) c := by
    intro c hc
    obtain rfl := beq_iff_eq.mp hc
    exact isFree_reference_of_isBlank '\n' (by decide)
  obtain ⟨whole, hwhole, hin⟩ := h.exists_line hfree hmem
  have hfeature := isWholeIn_featureOf hin hne
  have hshown := isInfix_replaceFound Entity.isDecided_reference? Entity.progresses_reference?
    hfeature
  have hkept : featureOf whole ≠ [] := by
    obtain ⟨front, back, hsame, -⟩ := hfeature
    rw [hsame]
    simp [hne]
  refine ⟨plain (String.ofList (featureOf whole)), ?_, ?_⟩
  · refine List.mem_map.mpr ⟨featureOf whole, List.mem_filter.mpr ⟨?_, by simpa using hkept⟩, rfl⟩
    exact List.mem_map.mpr ⟨whole, hwhole, rfl⟩
  · rw [plain, Entity.decoded, trimmed, String.toList_ofList, String.toList_ofList,
      String.toList_ofList, trim_featureOf]
    exact hshown

end Element

end PageMarkup
