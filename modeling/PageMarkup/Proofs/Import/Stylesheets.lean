import PageMarkup.Proofs.Import.Noise
import PageMarkup.Proofs.Stylesheet.Joining

/-!
# The stylesheets of a page

An import reads the texts of all style elements as one stylesheet, line by line.  What one of them
leaves open goes on in the next one, so the rules of a page are those of its stylesheets one after
the other only where all but the last stand alone.  Any texts of style elements occur together on
some page, and therefore nothing less than that is enough.
-/

namespace PageMarkup

open Text

namespace Background

open Html

/-! ### Style elements -/

/-- The text of a style element on some page. -/
def IsStyleText (css : List Char) : Prop :=
  ∃ page, css ∈ styleBlocks page

/-- Behind the tag of a style element its text is read up to the closing tag. -/
theorem readStyle_append (rest : List Char) :
    readStyle ("<style>".toList ++ rest) = splitFirst? (afterClosing? "style") rest := by
  have hnamed : readNamed "style" ("<style>".toList ++ rest) = some ([], rest) := rfl
  rw [readStyle, hnamed]
  rfl

/-- Behind the text of a style element there is a tag that closes it, whatever follows. -/
theorem IsStyleText.exists_readStyle {css : List Char} (h : IsStyleText css) :
    ∃ closing, ∀ rest,
      readStyle ("<style>".toList ++ (css ++ (closing ++ rest))) = some (css, rest) := by
  obtain ⟨page, hpage⟩ := h
  obtain ⟨start, rest, hread⟩ := exists_of_mem_findAll hpage
  obtain ⟨⟨attributes, more⟩, -, hsplit⟩ := Option.bind_eq_some_iff.mp hread
  have hclose : IsClosing (afterClosing? "style") := isClosing_afterClosing? (by decide)
  obtain ⟨closing, hne, rfl, hclosing⟩ := exists_of_splitFirst? hclose.progresses hsplit
  refine ⟨closing, fun other => ?_⟩
  rw [readStyle_append]
  exact hclose.splitFirst? hne hclosing hsplit other

/-- Texts of style elements occur together on a page. -/
theorem exists_styleBlocks_eq {sheets : List (List Char)} (h : ∀ css ∈ sheets, IsStyleText css) :
    ∃ page, styleBlocks page = sheets := by
  induction sheets with
  | nil => exact ⟨[], rfl⟩
  | cons css sheets ih =>
    obtain ⟨hcss, hsheets⟩ := List.forall_mem_cons.mp h
    obtain ⟨page, hpage⟩ := ih hsheets
    obtain ⟨closing, hclosing⟩ := hcss.exists_readStyle
    have hread := hclosing page
    rw [← List.append_assoc css, ← List.append_assoc] at hread
    refine ⟨"<style>".toList ++ (css ++ closing) ++ page, ?_⟩
    rw [styleBlocks, findAll, scan_append_of_some (by simp) hread, List.filterMap_cons]
    exact congrArg (css :: ·) hpage

theorem isStyleText_of_mem_probes : ∀ probe ∈ Stylesheet.probes, IsStyleText probe := by
  have hall : ∀ probe ∈ Stylesheet.probes,
      probe ∈ styleBlocks ("<style>".toList ++ (probe ++ "</style>".toList)) := by
    decide
  exact fun probe hprobe => ⟨_, hall probe hprobe⟩

/-! ### Rules of a page -/

/-- The rules of a page are those of the texts of its style elements, joined by line ends.  They are
the rules of each text in order where the braces of every text balance and every one but the last
stands alone; and this is so for a text with any other one behind it only if it stands alone. -/
theorem rules_of_styleBlocks :
    (∀ page limit, ((harvest page).result limit).rules =
      Stylesheet.rules (joinWith ['\n'] (styleBlocks page))) ∧
    (∀ page limit, (∀ css ∈ styleBlocks page, Stylesheet.Balances css) →
      (∀ css ∈ (styleBlocks page).dropLast, Stylesheet.StandsAlone css) →
        ((harvest page).result limit).rules = (styleBlocks page).flatMap Stylesheet.rules) ∧
    ∀ css, IsStyleText css → (Stylesheet.StandsAlone css ↔
      ∀ page limit other, styleBlocks page = [css, other] → Stylesheet.Balances other →
        ((harvest page).result limit).rules = Stylesheet.rules css ++ Stylesheet.rules other) := by
  have hjoined (page : List Char) (limit : Nat) : ((harvest page).result limit).rules =
      Stylesheet.rules (joinWith ['\n'] (styleBlocks page)) := by
    rw [result_harvest]
  have hline (css other : List Char) : joinWith ['\n'] [css, other] = css ++ '\n' :: other := by
    simp [joinWith]
  refine ⟨hjoined, fun page limit hbalances halone => ?_, fun css hcss => ⟨?_, fun h => ?_⟩⟩
  · rw [hjoined, (Stylesheet.rules_joinWith hbalances halone).2]
  · intro halone page limit other hblocks hother
    rw [hjoined, hblocks, hline, halone.rules_line hother]
  · refine Stylesheet.standsAlone_iff.mpr fun probe hprobe => ?_
    have hsheets : ∀ sheet ∈ [css, probe], IsStyleText sheet :=
      List.forall_mem_cons.mpr ⟨hcss,
        List.forall_mem_singleton.mpr (isStyleText_of_mem_probes probe hprobe)⟩
    obtain ⟨page, hpage⟩ := exists_styleBlocks_eq hsheets
    have hrules := h page 0 probe hpage (Stylesheet.balances_of_mem_probes probe hprobe)
    rwa [hjoined, hpage, hline] at hrules

/-- A stylesheet that ends with a statement. -/
def firstSheet : List Char :=
  ".section\x7bbackground:red\x7d @import 'a'; ".toList

/-- A stylesheet that ends with a comment that is not closed. -/
def secondSheet : List Char :=
  ".row \x7bbackground:blue\x7d /* b".toList

/-- A page with both stylesheets. -/
def twoSheets : List Char :=
  "<style>".toList ++ (firstSheet ++
    ("</style><p>x</p><style>".toList ++ (secondSheet ++ "</style>".toList)))

/-- The rules of both are found, the one that stands alone in front. -/
theorem rules_of_styleBlocks_twoSheets :
    styleBlocks twoSheets = [firstSheet, secondSheet] ∧ IsStyleText firstSheet ∧
      (∀ css ∈ styleBlocks twoSheets, Stylesheet.Balances css) ∧
      (∀ css ∈ (styleBlocks twoSheets).dropLast, Stylesheet.StandsAlone css) ∧
      Stylesheet.StandsAlone firstSheet ∧ ¬ Stylesheet.StandsAlone secondSheet ∧
      ((harvest twoSheets).result 0).rules =
        [⟨".section", ⟨some "red", none, none⟩⟩, ⟨".row", ⟨some "blue", none, none⟩⟩] ∧
      ((harvest twoSheets).result 0).rules =
        Stylesheet.rules firstSheet ++ Stylesheet.rules secondSheet := by
  have hblocks : styleBlocks twoSheets = [firstSheet, secondSheet] := by decide +kernel
  have hstyle : IsStyleText firstSheet := ⟨twoSheets, by rw [hblocks]; exact List.mem_cons_self⟩
  have hbalances : ∀ css ∈ styleBlocks twoSheets, Stylesheet.Balances css := by
    rw [hblocks]
    decide +kernel
  have hfirst : Stylesheet.StandsAlone firstSheet := by decide +kernel
  have hsecond : ¬ Stylesheet.StandsAlone secondSheet := by decide +kernel
  have halone : ∀ css ∈ (styleBlocks twoSheets).dropLast, Stylesheet.StandsAlone css := by
    rw [hblocks]
    exact List.forall_mem_singleton.mpr hfirst
  obtain ⟨-, hconcat, hexact⟩ := rules_of_styleBlocks
  have hrules := hconcat twoSheets 0 hbalances halone
  have hfound : (styleBlocks twoSheets).flatMap Stylesheet.rules =
      [⟨".section", ⟨some "red", none, none⟩⟩, ⟨".row", ⟨some "blue", none, none⟩⟩] := by
    decide +kernel
  have hother : Stylesheet.Balances secondSheet := hbalances _ (by simp [hblocks])
  exact ⟨hblocks, hstyle, hbalances, halone, hfirst, hsecond, hrules.trans hfound,
    (hexact firstSheet hstyle).mp hfirst twoSheets 0 secondSheet hblocks hother⟩

/-- A stray brace in one style element hides the rules of the other. -/
theorem not_rules_of_styleBlocks_flatMap :
    ¬ ∀ page limit, ((harvest page).result limit).rules =
      (styleBlocks page).flatMap Stylesheet.rules := by
  intro h
  have hstray := h "<style>\x7d</style><style>.section\x7bbackground:red\x7d</style>".toList 0
  rw [result_harvest] at hstray
  exact absurd hstray (by decide +kernel)

end Background

end PageMarkup
