import PageMarkup.Proofs.Stylesheet.Grammar
import PageMarkup.Proofs.Text.Trimming

/-!
# Stylesheets one after the other

The stylesheets of a page are joined by line ends and read as one.  A stylesheet stands alone when
it closes its comments, its braces balance, and nothing of a selector is left at its end: then the
rules of whatever follows come after its own.  No weaker condition would do: of three stylesheets
one tells what is left open, because its rules change.
-/

namespace PageMarkup

open Text

namespace Stylesheet

/-! ### Walking through one text and another -/

/-- The last character of the text closes a block or ends a statement. -/
def EndsItem (cs : List Char) : Prop :=
  ∀ c ∈ cs.getLast?, c = '\x7d' ∨ c = ';'

variable {front blanks rest : List Char}

theorem EndsItem.tail {c : Char} {cs : List Char} (h : EndsItem (c :: cs)) : EndsItem cs := by
  cases cs with
  | nil =>
    intro d hd
    cases hd
  | cons d cs =>
    rw [EndsItem, List.getLast?_cons_cons] at h
    exact h

/-- Behind a text that ends with an item and whose braces balance, the walk begins anew. -/
theorem blocksFrom_append {groups : Nat} {place : Place} (hlast : EndsItem front)
    (hbalanced : IsBalanced (groups + place.braces) front)
    (hplace : front = [] → place.IsFresh) (rest : List Char) :
    blocksFrom groups place (front ++ rest) =
      (blocksFrom groups place front).bind fun found =>
        (blocksFrom 0 (.between []) rest).map (found ++ ·) := by
  induction front generalizing groups place with
  | nil =>
    have hzero := isBalanced_nil.mp hbalanced
    cases place with
    | body selector depth start => simp [Place.braces] at hzero
    | between start =>
      -- all braces are closed, so the walk starts again
      obtain rfl : groups = 0 := by simpa [Place.braces] using hzero
      obtain rfl := hplace rfl start rfl
      simp [blocksFrom]
  | cons c front ih =>
    rcases exists_isStep_or groups place c with
      ⟨groups', place', told, hstep⟩ | ⟨rfl, rfl, start, rfl⟩
    · have hfresh : front = [] → place'.IsFresh := by
        rintro rfl
        exact hstep.fresh (hlast c rfl)
      rw [List.cons_append, hstep.walk, hstep.walk,
        ih hlast.tail ((hstep.braces front).mp hbalanced) hfresh]
      cases blocksFrom groups' place' front with
      | none => rfl
      | some found =>
        simp only [Option.bind_some, Option.map_some, Option.map_map]
        exact congrArg (Option.map · _) (funext fun more => (List.append_assoc _ _ _).symm)
    · exact absurd hbalanced not_isBalanced_close

/-- Blanks in front of a selector do not count. -/
theorem blocksFrom_between_append_blanks (hblanks : allBlank blanks = true) (groups : Nat)
    (start cs : List Char) : blocksFrom groups (.between (start ++ blanks)) cs =
      blocksFrom groups (.between start) cs := by
  induction cs generalizing groups start with
  | nil => rfl
  | cons c cs ih =>
    by_cases hopen : c = '\x7b'
    · have htrim : trim (start ++ blanks).reverse = trim start.reverse := by
        rw [List.reverse_append, trim_append_of_allBlank]
        rwa [allBlank, List.all_reverse]
      subst hopen
      cases hgroup : isGroup (trim start.reverse) with
      | true => rw [blocksFrom_between_group hgroup, blocksFrom_between_group (htrim ▸ hgroup)]
      | false =>
        rw [blocksFrom_between_body hgroup, blocksFrom_between_body (htrim ▸ hgroup), htrim]
    · by_cases hclose : c = '\x7d'
      · subst hclose
        cases groups with
        | zero => rw [blocksFrom_between_stray, blocksFrom_between_stray]
        | succ groups => rw [blocksFrom_between_close, blocksFrom_between_close]
      · by_cases hend : c = ';'
        · subst hend
          rw [blocksFrom_between_semicolon, blocksFrom_between_semicolon]
        · rw [blocksFrom_between_cons hopen hclose hend, blocksFrom_between_cons hopen hclose hend]
          exact ih groups (c :: start)

/-! ### Two stylesheets -/

/-- The braces of the stylesheet balance without its comments. -/
def Balances (css : List Char) : Prop :=
  IsBalanced 0 (withoutComments css)

instance (css : List Char) : Decidable (Balances css) :=
  inferInstanceAs (Decidable (IsBalanced 0 (withoutComments css)))

/-- The stylesheet closes its comments and its braces, and at its end no selector is begun. -/
structure StandsAlone (css : List Char) : Prop where
  comments : ClosesComments css
  braces : Balances css
  last : EndsItem (trimEnd (withoutComments css))

theorem isPlain_of_allBlank (hblanks : allBlank blanks = true) : Item.IsPlain blanks := by
  intro c hc
  have hblank := List.all_eq_true.mp hblanks c hc
  refine ⟨?_, ?_, ?_⟩ <;>
  · rintro rfl
    exact absurd hblank (by decide)

/-- A plain text at its end does not matter to the braces of a text. -/
theorem isBalanced_of_append {depth : Nat} {tail : List Char} (htail : Item.IsPlain tail)
    (h : IsBalanced depth (front ++ tail)) : IsBalanced depth front := by
  have hnone {c : Char} (hc : c = '\x7b' ∨ c = '\x7d') : tail.count c = 0 := by
    refine List.count_eq_zero.mpr fun hmem => ?_
    obtain ⟨hopen, hclose, -⟩ := htail c hmem
    exact hc.elim hopen hclose
  have htotal := h.total
  rw [List.count_append, List.count_append, hnone (.inl rfl), hnone (.inr rfl)] at htotal
  exact ⟨fun part hpart => h.front part (hpart.trans (List.prefix_append _ _)), htotal⟩

/-- The rules of a text that ends with an item come before those of what follows. -/
theorem blocks_append (hlast : EndsItem front) (hbalanced : IsBalanced 0 front)
    (rest : List Char) : blocks (front ++ rest) =
      (blocks front).bind fun found => (blocks rest).map (found ++ ·) :=
  blocksFrom_append hlast hbalanced (fun _ => Place.isFresh_between) rest

theorem blocks_append_plain {tail : List Char} (htail : Item.IsPlain tail)
    (hlast : EndsItem front) (hbalanced : IsBalanced 0 front) :
    blocks (front ++ tail) = blocks front := by
  have hnone : blocks tail = some [] := by
    have hend := blocksFrom_between_append htail 0 [] []
    rw [List.append_nil] at hend
    rw [blocks, hend]
    rfl
  rw [blocks_append hlast hbalanced, hnone]
  simp

theorem blocks_blank_append (hblanks : allBlank blanks = true) (rest : List Char) :
    blocks (blanks ++ rest) = blocks rest := by
  have hreverse : allBlank blanks.reverse = true := by rwa [allBlank, List.all_reverse]
  have hskip := blocksFrom_between_append_blanks hreverse 0 [] rest
  rw [blocks, blocksFrom_between_append (isPlain_of_allBlank hblanks), List.append_nil]
  exact hskip

/-- The blocks of a text that stands alone come before those of the next line. -/
theorem blocks_append_line {cs : List Char} (hbalanced : IsBalanced 0 cs)
    (hlast : EndsItem (trimEnd cs)) (rest : List Char) :
    blocks (cs ++ '\n' :: rest) =
      (blocks cs).bind fun found => (blocks rest).map (found ++ ·) := by
  obtain ⟨blanks, hblanks, hcs⟩ := exists_trimEnd_append cs
  have hline : allBlank (blanks ++ ['\n']) = true := by
    rw [allBlank, List.all_append, Bool.and_eq_true]
    exact ⟨hblanks, rfl⟩
  generalize trimEnd cs = front at hlast hcs
  subst hcs
  have hplain := isPlain_of_allBlank hblanks
  have hfront := isBalanced_of_append hplain hbalanced
  have hsplit : front ++ blanks ++ '\n' :: rest = front ++ ((blanks ++ ['\n']) ++ rest) := by simp
  rw [hsplit, blocks_append hlast hfront, blocks_blank_append hline,
    blocks_append_plain hplain hlast hfront]

theorem sectionRules_append (found others : List (List Char × List Char)) :
    sectionRules (found ++ others) = sectionRules found ++ sectionRules others := by
  rw [sectionRules, List.filter_append, List.map_append, sectionRules, sectionRules]

theorem exists_blocks_of_balances {css : List Char} (h : Balances css) :
    ∃ found, blocks (withoutComments css) = some found :=
  Option.isSome_iff_exists.mp (isSome_blocksFrom_iff.mpr h)

theorem ClosesComments.withoutComments_line {css : List Char} (h : ClosesComments css)
    (other : List Char) :
    withoutComments (css ++ '\n' :: other) =
      withoutComments css ++ '\n' :: withoutComments other := by
  have hhead : ('\n' :: other).head? ≠ some '*' := by simp
  have hline : readComment ('\n' :: other) = none := rfl
  rw [h.withoutComments_append hhead, withoutComments_cons hline]

variable {css other : List Char}

/-- The braces of a stylesheet that stands alone and of one on the next line balance together. -/
theorem StandsAlone.balances_line (h : StandsAlone css) (hother : Balances other) :
    Balances (css ++ '\n' :: other) := by
  obtain ⟨found, hfound⟩ := exists_blocks_of_balances h.braces
  obtain ⟨others, hothers⟩ := exists_blocks_of_balances hother
  have hboth := blocks_append_line h.braces h.last (withoutComments other)
  rw [hfound, hothers] at hboth
  rw [Balances, h.comments.withoutComments_line]
  exact isSome_blocksFrom_iff.mp (Option.isSome_iff_exists.mpr ⟨_, hboth⟩)

/-- The rules of a stylesheet that stands alone come before those of one on the next line. -/
theorem StandsAlone.rules_line (h : StandsAlone css) (hother : Balances other) :
    rules (css ++ '\n' :: other) = rules css ++ rules other := by
  obtain ⟨found, hfound⟩ := exists_blocks_of_balances h.braces
  obtain ⟨others, hothers⟩ := exists_blocks_of_balances hother
  rw [rules_eq, rules_eq, rules_eq, h.comments.withoutComments_line,
    blocks_append_line h.braces h.last, hfound, hothers]
  exact sectionRules_append found others

/-- Stylesheets of which all but the last stand alone are read on their own. -/
theorem rules_joinWith {sheets : List (List Char)} (hbalances : ∀ css ∈ sheets, Balances css)
    (halone : ∀ css ∈ sheets.dropLast, StandsAlone css) :
    Balances (joinWith ['\n'] sheets) ∧
      rules (joinWith ['\n'] sheets) = sheets.flatMap rules := by
  induction sheets with
  | nil => exact ⟨by decide, by decide⟩
  | cons css sheets ih =>
    obtain ⟨hcss, hrest⟩ := List.forall_mem_cons.mp hbalances
    cases sheets with
    | nil => exact ⟨hcss, by simp [joinWith]⟩
    | cons next sheets =>
      rw [List.dropLast_cons_cons] at halone
      obtain ⟨hfirst, hothers⟩ := List.forall_mem_cons.mp halone
      obtain ⟨hjoined, hrules⟩ := ih hrest hothers
      have hline : joinWith ['\n'] (css :: next :: sheets) =
          css ++ '\n' :: joinWith ['\n'] (next :: sheets) := by
        simp [joinWith]
      rw [hline, List.flatMap_cons, ← hrules]
      exact ⟨hfirst.balances_line hjoined, hfirst.rules_line hjoined⟩

/-! ### What a stylesheet leaves open -/

/-- A rule for sections. -/
def redSection : List Char := (Item.rule ".section".toList "background:red".toList).chars

/-- Stylesheets that tell what another one leaves open: a rule for sections, alone, behind the end
of a comment, and behind a comment. -/
def probes : List (List Char) :=
  [redSection, commentEnd ++ redSection, commentStart ++ (commentEnd ++ redSection)]

theorem balances_of_mem_probes : ∀ probe ∈ probes, Balances probe := by
  decide

theorem rules_redSection :
    rules redSection = [⟨".section", ⟨some "red", none, none⟩⟩] := by
  decide

theorem infix_append_cons {mark back : List Char} {c : Char} (hc : c ∉ mark)
    (h : mark <:+: front ++ c :: back) : mark <:+: front ∨ mark <:+: back := by
  obtain ⟨before, behind, hsplit⟩ := h
  rw [List.append_assoc] at hsplit
  rcases List.append_eq_append_iff.mp hsplit with ⟨more, rfl, hmore⟩ | ⟨more, rfl, hmore⟩
  · rcases List.append_eq_append_iff.mp hmore with ⟨left, rfl, -⟩ | ⟨left, rfl, hleft⟩
    · exact .inl ⟨before, left, List.append_assoc _ _ _⟩
    · cases left with
      | nil => exact .inl ⟨before, [], by simp⟩
      | cons d left =>
        obtain ⟨rfl, -⟩ := List.cons.inj hleft
        exact absurd (List.mem_append_right more List.mem_cons_self) hc
  · cases more with
    | nil =>
      cases mark with
      | nil => exact .inl List.nil_infix
      | cons d mark =>
        obtain ⟨rfl, -⟩ := List.cons.inj hmore
        exact absurd List.mem_cons_self hc
    | cons d more =>
      obtain ⟨rfl, rfl⟩ := List.cons.inj hmore
      exact .inr ⟨more, behind, List.append_assoc _ _ _⟩

/-- Where a comment is left open, everything up to the next end of a comment is swallowed. -/
theorem withoutComments_open {inside text : List Char} (hfront : ClosesComments front)
    (hinside : ¬ commentEnd <:+: inside) (htext : ¬ commentEnd <:+: text ++ ['*'])
    (rest : List Char) :
    withoutComments (front ++ (commentStart ++ inside) ++ '\n' :: (text ++ (commentEnd ++ rest))) =
      withoutComments front ++ withoutComments rest := by
  have hinner : ¬ commentEnd <:+: inside ++ '\n' :: text ++ ['*'] := by
    intro hinfix
    rw [List.append_assoc, List.cons_append] at hinfix
    rcases infix_append_cons (by decide) hinfix with hinfix | hinfix
    · exact hinside hinfix
    · exact htext hinfix
  have hcomment : IsComment (commentStart ++ (inside ++ '\n' :: text ++ commentEnd)) :=
    ⟨_, hinner, rfl⟩
  have hchars : front ++ (commentStart ++ inside) ++ '\n' :: (text ++ (commentEnd ++ rest)) =
      front ++ (commentStart ++ (inside ++ '\n' :: text ++ commentEnd) ++ rest) := by
    simp
  rw [hchars, hfront.withoutComments_append (by simp [commentStart]),
    hcomment.withoutComments_append]

/-- A stylesheet in front of the rules of all probes closes its comments. -/
theorem closesComments_of_probes (h : ∀ probe ∈ probes,
    rules (css ++ '\n' :: probe) = rules css ++ rules probe) : ClosesComments css := by
  rcases closesComments_or css with hcloses | ⟨front, inside, hfront, hinside, rfl⟩
  · exact hcloses
  · -- both probes end the open comment, and only one of them has a comment of its own
    have hsame : rules (front ++ (commentStart ++ inside) ++ '\n' :: (commentEnd ++ redSection)) =
        rules (front ++ (commentStart ++ inside) ++
          '\n' :: (commentStart ++ (commentEnd ++ redSection))) := by
      have hstar : ¬ commentEnd <:+: [] ++ ['*'] := by decide
      have hend := withoutComments_open hfront hinside hstar redSection
      rw [List.nil_append] at hend
      rw [rules_eq, rules_eq, hend, withoutComments_open hfront hinside (by decide)]
    have hend : rules (commentEnd ++ redSection) =
        [⟨"*/.section", ⟨some "red", none, none⟩⟩] := by
      decide
    have hcomment : rules (commentStart ++ (commentEnd ++ redSection)) =
        [⟨".section", ⟨some "red", none, none⟩⟩] := by
      decide
    rw [h _ (by simp [probes]), h _ (by simp [probes]), List.append_cancel_left_eq, hend,
      hcomment] at hsame
    exact absurd hsame (by decide)

/-- A text whose braces balance with a balanced text behind it is balanced itself. -/
theorem isBalanced_of_append_isBalanced {back : List Char} (hback : IsBalanced 0 back)
    (h : IsBalanced 0 (front ++ back)) : IsBalanced 0 front := by
  have htotal := h.total
  have hrest := hback.total
  rw [List.count_append, List.count_append] at htotal
  exact ⟨fun part hpart => h.front part (hpart.trans (List.prefix_append _ _)), by omega⟩

/-- The braces of a stylesheet in front of the rules of all probes balance. -/
theorem balances_of_probes (hcloses : ClosesComments css) (h : ∀ probe ∈ probes,
    rules (css ++ '\n' :: probe) = rules css ++ rules probe) : Balances css := by
  by_contra hopen
  have hnone {cs : List Char} (hcs : ¬ Balances cs) : rules cs = [] := by
    have hblocks : blocks (withoutComments cs) = none := by
      rw [← Option.not_isSome_iff_eq_none]
      exact fun hsome => hcs (isSome_blocksFrom_iff.mp hsome)
    rw [rules_eq, hblocks]
    rfl
  have hboth : ¬ Balances (css ++ '\n' :: redSection) := by
    intro hbalanced
    rw [Balances, hcloses.withoutComments_line] at hbalanced
    have hline : IsBalanced 0 ('\n' :: withoutComments redSection) := by decide
    exact hopen (isBalanced_of_append_isBalanced hline hbalanced)
  have hrules := h redSection List.mem_cons_self
  rw [hnone hboth, hnone hopen, rules_redSection] at hrules
  cases hrules

/-- A text without closing braces and semicolons stands behind the last of them. -/
theorem exists_append_of_endsItem (cs : List Char) :
    ∃ front tail, EndsItem front ∧ (∀ c ∈ tail, c ≠ '\x7d' ∧ c ≠ ';') ∧ cs = front ++ tail := by
  induction cs using List.reverseRecOn with
  | nil =>
    have hnone : EndsItem [] := by
      intro d hd
      cases hd
    exact ⟨[], [], hnone, List.forall_mem_nil _, rfl⟩
  | append_singleton cs c ih =>
    by_cases hc : c = '\x7d' ∨ c = ';'
    · refine ⟨cs ++ [c], [], fun d hd => ?_, List.forall_mem_nil _, (List.append_nil _).symm⟩
      rw [List.getLast?_concat, Option.mem_def, Option.some.injEq] at hd
      exact hd ▸ hc
    · obtain ⟨front, tail, hfront, htail, rfl⟩ := ih
      refine ⟨front, tail ++ [c], hfront, ?_, List.append_assoc _ _ _⟩
      rw [List.forall_mem_append, List.forall_mem_singleton]
      exact ⟨htail, not_or.mp hc⟩

/-- In a balanced text that one is plain. -/
theorem exists_endsItem_append {cs : List Char} (h : IsBalanced 0 cs) :
    ∃ front tail, EndsItem front ∧ Item.IsPlain tail ∧ cs = front ++ tail := by
  obtain ⟨front, tail, hfront, htail, rfl⟩ := exists_append_of_endsItem cs
  have hclose : tail.count '\x7d' = 0 :=
    List.count_eq_zero.mpr fun hmem => (htail _ hmem).1 rfl
  have hopen : tail.count '\x7b' = 0 := by
    have hbound := h.front front (List.prefix_append _ _)
    have htotal := h.total
    rw [List.count_append, List.count_append] at htotal
    omega
  refine ⟨front, tail, hfront, fun c hc => ⟨?_, htail c hc⟩, rfl⟩
  rintro rfl
  exact List.count_eq_zero.mp hopen hc

/-- What plain text stands in front of a plain body, the rule there has it as its selector. -/
theorem exists_blocks_of_isPlain {prelude body : List Char} (hprelude : Item.IsPlain prelude)
    (hbody : Item.IsPlain body) :
    ∃ found, blocks (prelude ++ '\x7b' :: (body ++ ['\x7d'])) = some found ∧
      ∀ rule ∈ found, rule.1 = trim prelude := by
  have hopen : '\x7b' ∉ body := fun hmem => (hbody _ hmem).1 rfl
  have hclose : '\x7d' ∉ body := fun hmem => (hbody _ hmem).2.1 rfl
  have hwalk {item : Item} (hitem : item.IsProper) : blocks item.chars = some item.rules := by
    have hitems : Item.AreProper [item] := ⟨hitem, trivial⟩
    have hblocks := blocks_charsAll hitems (List.forall_mem_nil _)
    rwa [List.append_nil, Item.charsAll, Item.charsAll, List.append_nil, Item.rulesAll,
      Item.rulesAll, List.append_nil] at hblocks
  by_cases hgroup : Item.BeginsGroup prelude
  · have hitem : (Item.group prelude [] body).IsProper := ⟨hprelude, hgroup, trivial, hbody⟩
    exact ⟨_, hwalk hitem, List.forall_mem_nil _⟩
  · by_cases hsign : (trim prelude).head? = some '@'
    · have hitem : (Item.block prelude body).IsProper :=
        ⟨hprelude, hsign, hgroup, isBalanced_of_not_mem hopen hclose⟩
      exact ⟨_, hwalk hitem, List.forall_mem_nil _⟩
    · have hitem : (Item.rule prelude body).IsProper := ⟨hprelude, hsign, hopen, hclose⟩
      exact ⟨_, hwalk hitem, List.forall_mem_singleton.mpr rfl⟩

/-- A text on the line before a selector becomes a part of it unless it is blank. -/
theorem allBlank_of_trim_line {tail selector : List Char} (hselector : IsTrimmed selector)
    (h : trim (tail ++ '\n' :: selector) = selector) : allBlank tail = true := by
  have hnone {blanks : List Char} :
      blanks.countP (!isBlank ·) = 0 ↔ allBlank blanks = true := by
    simp [List.countP_eq_zero, allBlank]
  obtain ⟨before, after, hbefore, hafter, hsplit⟩ := (trim_eq_iff hselector).mp h
  have hcount := congrArg (List.countP (!isBlank ·)) hsplit
  rw [List.countP_append, List.countP_append, List.countP_append, hnone.mpr hbefore,
    hnone.mpr hafter, List.countP_cons_of_neg (by decide)] at hcount
  exact hnone.mp (by omega)

/-- What stands behind the last item is blank if the rule on the next line keeps its selector. -/
theorem allBlank_of_mem_sectionRules {tail : List Char} {others : List (List Char × List Char)}
    (hplain : Item.IsPlain tail) (hothers : blocks (tail ++ '\n' :: redSection) = some others)
    (hmem : (⟨".section", ⟨some "red", none, none⟩⟩ : StyleRule) ∈ sectionRules others) :
    allBlank tail = true := by
  have hline : Item.IsPlain ('\n' :: ".section".toList) := by decide
  have hprelude : Item.IsPlain (tail ++ '\n' :: ".section".toList) :=
    List.forall_mem_append.mpr ⟨hplain, hline⟩
  have hbody : Item.IsPlain "background:red".toList := by decide
  obtain ⟨found, hfound, hselector⟩ := exists_blocks_of_isPlain hprelude hbody
  have hchars : tail ++ '\n' :: redSection = (tail ++ '\n' :: ".section".toList) ++
      '\x7b' :: ("background:red".toList ++ ['\x7d']) := by
    rw [redSection, Item.chars]
    simp only [List.append_assoc, List.cons_append]
  rw [hchars, hfound] at hothers
  obtain rfl := Option.some.inj hothers
  obtain ⟨rule, hrule, heq⟩ := List.mem_map.mp hmem
  have hname : String.ofList rule.1 = ".section" := congrArg StyleRule.selector heq
  have hrule' : rule.1 = ".section".toList := by rw [← hname, String.toList_ofList]
  have htrimmed : IsTrimmed ".section".toList := by decide
  refine allBlank_of_trim_line htrimmed ?_
  rw [← hselector rule (List.mem_of_mem_filter hrule), hrule']

/-- A stylesheet in front of the rules of all probes begins no selector at its end. -/
theorem endsItem_of_probes (hcloses : ClosesComments css) (hbalances : Balances css)
    (h : ∀ probe ∈ probes, rules (css ++ '\n' :: probe) = rules css ++ rules probe) :
    EndsItem (trimEnd (withoutComments css)) := by
  obtain ⟨front, tail, hlast, hplain, hcss⟩ := exists_endsItem_append hbalances
  have hfront : IsBalanced 0 front := isBalanced_of_append hplain (hcss ▸ hbalances)
  have hsome : (blocks front).isSome = true := isSome_blocksFrom_iff.mpr hfront
  obtain ⟨found, hfound⟩ := Option.isSome_iff_exists.mp hsome
  have hown : rules css = sectionRules found := by
    rw [rules_eq, hcss, blocks_append_plain hplain hlast hfront, hfound]
    rfl
  -- the probe is one rule of a section, which must come behind those of the style sheet
  have hred : withoutComments redSection = redSection := by decide
  have hboth : rules (css ++ '\n' :: redSection) =
      sectionRules (((blocks (tail ++ '\n' :: redSection)).map (found ++ ·)).getD []) := by
    rw [rules_eq, hcloses.withoutComments_line, hred, hcss, List.append_assoc,
      blocks_append hlast hfront, hfound, Option.bind_some]
  have hrules := h redSection List.mem_cons_self
  rw [hboth, hown, rules_redSection] at hrules
  have hblank : allBlank tail = true := by
    cases hothers : blocks (tail ++ '\n' :: redSection) with
    | none =>
      rw [hothers] at hrules
      simp [sectionRules] at hrules
    | some others =>
      rw [hothers, Option.map_some, Option.getD_some, sectionRules_append,
        List.append_cancel_left_eq] at hrules
      exact allBlank_of_mem_sectionRules hplain hothers (hrules ▸ List.mem_cons_self)
  have hend : ∀ c ∈ front.getLast?, isBlank c = false := by
    intro c hc
    rcases hlast c hc with rfl | rfl <;> decide
  rwa [hcss, trimEnd_append_of_allBlank hblank, trimEnd_eq_self hend]

/-- A stylesheet stands alone exactly when the rules of the probes come after its own. -/
theorem standsAlone_iff : StandsAlone css ↔ ∀ probe ∈ probes,
    rules (css ++ '\n' :: probe) = rules css ++ rules probe := by
  constructor
  · exact fun h probe hprobe => h.rules_line (balances_of_mem_probes probe hprobe)
  · intro h
    have hcloses := closesComments_of_probes h
    have hbalances := balances_of_probes hcloses h
    exact ⟨hcloses, hbalances, endsItem_of_probes hcloses hbalances h⟩

instance (css : List Char) : Decidable (StandsAlone css) :=
  decidable_of_iff _ standsAlone_iff.symm

end Stylesheet

end PageMarkup
