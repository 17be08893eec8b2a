import PageMarkup.Proofs.Markup.Spelling
import PageMarkup.Proofs.Text.Spacing

/-!
# The parts of a text

A text consists of its tags and of the runs between them.  A tag is taken as far to the left as one
begins, and the next one is looked for behind it, so every text can be cut in exactly one way.  The
tokens of a text are those of its parts, and only closing tags are not found in a forest.
-/

namespace PageMarkup

open Text

namespace Markup

/-! ### Cutting a text -/

/-- The characters spell a tag. -/
def Spells (source : List Char) (token : TagToken) : Prop :=
  ∃ spelled : SpelledTag, spelled.IsProper ∧ source = spelled.chars ∧ token = spelled.token

/-- A tag begins the text. -/
def BeginsTag (cs : List Char) : Prop :=
  ∃ source token rest, Spells source token ∧ cs = source ++ rest

/-- No tag begins inside a run that has more behind it. -/
def IsClear (run rest : List Char) : Prop :=
  ∀ before c after, run = before ++ c :: after → ¬ BeginsTag (c :: (after ++ rest))

/-- A part of a text. -/
inductive Part where
  | run (chars : List Char)
  | tag (token : TagToken) (source : List Char)
  deriving DecidableEq, Repr

namespace Part

/-- The characters of the part. -/
def source : Part → List Char
  | run chars => chars
  | tag _ source => source

/-- The characters of the part unless it is a tag. -/
def outside : Part → List Char
  | run chars => chars
  | tag _ _ => []

/-- The part as it is read. -/
def token : Part → Token
  | run chars => .text (String.ofList chars)
  | tag token _ => if token.closing then .closing token.tag.name else .opening token.tag

/-- The part is a run. -/
def isRun : Part → Bool
  | run _ => true
  | tag _ _ => false

/-- The part is a closing tag. -/
def isClosing : Part → Bool
  | run _ => false
  | tag token _ => token.closing

end Part

/-- The text consists of the parts: of its tags, each as far to the left as possible behind the one
before it, and of the runs between them, none of which is empty. -/
inductive IsCut : List Char → List Part → Prop
  | nil : IsCut [] []
  | run {run rest : List Char} {parts : List Part} (hne : run ≠ []) (hclear : IsClear run rest)
      (hnext : ∀ next ∈ parts.head?, next.isRun = false) (hrest : IsCut rest parts) :
      IsCut (run ++ rest) (.run run :: parts)
  | tag {source rest : List Char} {token : TagToken} {parts : List Part}
      (hspells : Spells source token) (hrest : IsCut rest parts) :
      IsCut (source ++ rest) (.tag token source :: parts)

/-- The parts make up the text. -/
theorem IsCut.flatMap_source {cs : List Char} {parts : List Part} (h : IsCut cs parts) :
    parts.flatMap Part.source = cs := by
  induction h with
  | nil => rfl
  | run _ _ _ _ ih => rw [List.flatMap_cons, ih, Part.source]
  | tag _ _ ih => rw [List.flatMap_cons, ih, Part.source]

/-! ### Finding the parts -/

theorem Spells.ne_nil {source : List Char} {token : TagToken} (h : Spells source token) :
    source ≠ [] := by
  obtain ⟨spelled, -, rfl, -⟩ := h
  exact List.cons_ne_nil _ _

theorem readTag_eq_some_iff_spells {cs rest : List Char} {token : TagToken} :
    readTag cs = some (token, rest) ↔ ∃ source, Spells source token ∧ cs = source ++ rest := by
  rw [readTag_eq_some_iff]
  constructor
  · rintro ⟨spelled, hproper, rfl, rfl⟩
    exact ⟨spelled.chars, ⟨spelled, hproper, rfl, rfl⟩, rfl⟩
  · rintro ⟨_, ⟨spelled, hproper, rfl, rfl⟩, rfl⟩
    exact ⟨spelled, hproper, rfl, rfl⟩

/-- A tag is found where it begins. -/
theorem Spells.scan_append {source : List Char} {token : TagToken} (h : Spells source token)
    (rest : List Char) :
    scan readTag (source ++ rest) = .found token source :: scan readTag rest :=
  scan_append_of_some h.ne_nil (readTag_eq_some_iff_spells.mpr ⟨source, h, rfl⟩)

theorem readTag_eq_none_iff {cs : List Char} : readTag cs = none ↔ ¬ BeginsTag cs := by
  rw [← not_iff_not, not_not, ← Ne, Option.ne_none_iff_exists']
  constructor
  · rintro ⟨found, hfound⟩
    obtain ⟨source, hspells, hcs⟩ := readTag_eq_some_iff_spells.mp hfound
    exact ⟨source, found.1, found.2, hspells, hcs⟩
  · rintro ⟨source, token, rest, hspells, hcs⟩
    exact ⟨(token, rest), readTag_eq_some_iff_spells.mpr ⟨source, hspells, hcs⟩⟩

theorem isClear_iff {run rest : List Char} : IsClear run rest ↔ Misses readTag run rest := by
  simp only [IsClear, Misses, readTag_eq_none_iff]

namespace Part

/-- The part of a run of text, given the last character first; an empty run has none. -/
def ofRun (run : List Char) : List Part :=
  if run.isEmpty then [] else [.run run.reverse]

/-- The parts of a scanned text, after a run of text, the last character first. -/
def ofPieces (run : List Char) : List (Piece TagToken) → List Part
  | [] => ofRun run
  | .char c :: pieces => ofPieces (c :: run) pieces
  | .found token source :: pieces => ofRun run ++ .tag token source :: ofPieces [] pieces

theorem map_token_ofRun (run : List Char) : (ofRun run).map token = Token.ofRun run := by
  unfold ofRun Token.ofRun
  split <;> rfl

theorem map_token_ofPieces (run : List Char) (pieces : List (Piece TagToken)) :
    (ofPieces run pieces).map token = Token.ofPieces run pieces := by
  induction pieces generalizing run with
  | nil => exact map_token_ofRun run
  | cons piece pieces ih =>
    cases piece with
    | char c => exact ih (c :: run)
    | found value source =>
      rw [ofPieces, List.map_append, List.map_cons, map_token_ofRun, ih, Token.ofPieces, token]

/-- Passed characters make the run longer. -/
theorem ofPieces_map_char (run cs : List Char) (pieces : List (Piece TagToken)) :
    ofPieces run (cs.map .char ++ pieces) = ofPieces (cs.reverse ++ run) pieces := by
  induction cs generalizing run with
  | nil => rfl
  | cons c cs ih =>
    rw [List.map_cons, List.cons_append, ofPieces, ih]
    simp

end Part

/-- The parts of a text. -/
def parts (cs : List Char) : List Part :=
  Part.ofPieces [] (scan readTag cs)

/-- The tokens of a text are those of its parts. -/
theorem map_token_parts (cs : List Char) : (parts cs).map Part.token = tokens cs :=
  Part.map_token_ofPieces [] _

/-- A run in front of what does not begin with one is a part of its own. -/
theorem IsCut.ofRun_append {run rest : List Char} {parts : List Part}
    (hclear : IsClear run.reverse rest) (hnext : ∀ next ∈ parts.head?, next.isRun = false)
    (h : IsCut rest parts) : IsCut (run.reverse ++ rest) (Part.ofRun run ++ parts) := by
  cases run with
  | nil => exact h
  | cons c run =>
    refine .run ?_ hclear hnext h
    rw [Ne, List.reverse_eq_nil_iff]
    exact List.cons_ne_nil c run

theorem progresses_readTag : Progresses readTag := by
  intro cs value rest h
  obtain ⟨source, hspells, hcs⟩ := readTag_eq_some_iff_spells.mp h
  exact ⟨source, hspells.ne_nil, hcs⟩

/-- A scan cuts a text, be it behind a run in which no tag begins. -/
theorem isCut_ofPieces {run cs : List Char} (hclear : IsClear run.reverse cs) :
    IsCut (run.reverse ++ cs) (Part.ofPieces run (scan readTag cs)) := by
  induction cs using progresses_readTag.induction generalizing run with
  | nil =>
    have hnone : ∀ next ∈ ([] : List Part).head?, next.isRun = false := by
      intro next hnext
      cases hnext
    have hcut := IsCut.nil.ofRun_append hclear hnone
    rwa [List.append_nil (Part.ofRun run)] at hcut
  | char c cs hread ih =>
    -- the character makes the run longer
    have hsingle : Misses readTag [c] cs := by
      intro before d after hsplit
      obtain ⟨rfl, rfl, rfl⟩ : before = [] ∧ c = d ∧ after = [] := by
        cases before with
        | nil => simpa [eq_comm] using hsplit
        | cons _ before => simp at hsplit
      exact hread
    have hlonger : IsClear (c :: run).reverse cs := by
      rw [isClear_iff, List.reverse_cons]
      exact (isClear_iff.mp hclear).append hsingle
    have hcut := ih hlonger
    rw [scan_cons_of_none hread, Part.ofPieces]
    rwa [List.reverse_cons, List.append_assoc] at hcut
  | found token part rest _ hread ih =>
    -- the run ends here, and behind the tag an empty one begins
    obtain ⟨source, hspells, hcs⟩ := readTag_eq_some_iff_spells.mp hread
    obtain rfl := List.append_cancel_right hcs
    have hempty : IsClear ([] : List Char).reverse rest := isClear_iff.mpr (misses_nil rest)
    rw [hspells.scan_append, Part.ofPieces]
    refine (IsCut.tag hspells (ih hempty)).ofRun_append hclear ?_
    intro next hnext
    obtain rfl := Option.some.inj hnext
    rfl

theorem isCut_parts (cs : List Char) : IsCut cs (parts cs) :=
  have hclear : IsClear ([] : List Char).reverse cs := isClear_iff.mpr (misses_nil cs)
  isCut_ofPieces hclear

/-- A text can be cut in one way only. -/
theorem IsCut.eq_parts {cs : List Char} {others : List Part} (h : IsCut cs others) :
    others = parts cs := by
  induction h with
  | nil => rfl
  | @tag source rest token others hspells _ ih =>
    rw [parts, hspells.scan_append, Part.ofPieces, ih]
    rfl
  | @run run rest others hne hclear hnext hrest ih =>
    rw [parts, scan_append_of_misses (isClear_iff.mp hclear), Part.ofPieces_map_char,
      List.append_nil]
    have hrun : Part.ofRun run.reverse = [.run run] := by
      rw [Part.ofRun, List.isEmpty_reverse, List.reverse_reverse, if_neg]
      rwa [List.isEmpty_iff]
    cases hrest with
    | nil => exact hrun.symm
    | run => exact absurd (hnext _ rfl) Bool.noConfusion
    | @tag source rest token others hspells _ =>
      rw [parts] at ih
      rw [hspells.scan_append, Part.ofPieces] at ih ⊢
      rw [hrun, ih]
      rfl

end Markup

end PageMarkup
