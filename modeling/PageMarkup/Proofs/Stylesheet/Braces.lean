import Mathlib.Tactic.Common
import PageMarkup.Stylesheet

/-!
# Braces

The braces of a text balance when nothing at its beginning closes more than it opens and everything
that is opened is closed.  A walk through a stylesheet ends with its rules exactly when they do: the
groups and braces that it is inside of are those that have been opened and not closed.
-/

namespace PageMarkup

namespace Stylesheet

open Text

/-! ### Balanced texts -/

/-- The braces of the text balance behind a text that leaves some braces open. -/
structure IsBalanced (depth : Nat) (cs : List Char) : Prop where
  front : ∀ front, front <+: cs → front.count '\x7d' ≤ depth + front.count '\x7b'
  total : cs.count '\x7d' = depth + cs.count '\x7b'

variable {depth : Nat} {c : Char} {cs : List Char}

theorem isBalanced_nil : IsBalanced depth [] ↔ depth = 0 := by
  constructor
  · intro h
    exact h.total.symm
  · rintro rfl
    refine ⟨fun front hfront => ?_, rfl⟩
    rw [List.prefix_nil.mp hfront]
    exact Nat.le_refl _

/-- A beginning of a text is empty or has its first character. -/
theorem forall_prefix_cons {P : List Char → Prop} (hnil : P []) :
    (∀ front, front <+: c :: cs → P front) ↔ ∀ front, front <+: cs → P (c :: front) := by
  constructor
  · intro h front hfront
    exact h (c :: front) (List.cons_prefix_cons.mpr ⟨rfl, hfront⟩)
  · intro h front hfront
    rcases List.prefix_cons_iff.mp hfront with rfl | ⟨rest, rfl, hrest⟩
    · exact hnil
    · exact h rest hrest

theorem isBalanced_iff : IsBalanced depth cs ↔
    (∀ front, front <+: cs → front.count '\x7d' ≤ depth + front.count '\x7b') ∧
      cs.count '\x7d' = depth + cs.count '\x7b' :=
  ⟨fun h => ⟨h.front, h.total⟩, fun h => ⟨h.1, h.2⟩⟩

/-- An opening brace leaves one more open. -/
theorem isBalanced_open : IsBalanced depth ('\x7b' :: cs) ↔ IsBalanced (depth + 1) cs := by
  have hopen (ds : List Char) :
      depth + ('\x7b' :: ds).count '\x7b' = depth + 1 + ds.count '\x7b' := by
    rw [List.count_cons_self]
    omega
  have hclose (ds : List Char) : ('\x7b' :: ds).count '\x7d' = ds.count '\x7d' :=
    List.count_cons_of_ne (by decide)
  rw [isBalanced_iff, isBalanced_iff, forall_prefix_cons (Nat.zero_le _)]
  simp only [hopen, hclose]

/-- A closing brace leaves one less open. -/
theorem isBalanced_close : IsBalanced (depth + 1) ('\x7d' :: cs) ↔ IsBalanced depth cs := by
  have hopen (ds : List Char) : ('\x7d' :: ds).count '\x7b' = ds.count '\x7b' :=
    List.count_cons_of_ne (by decide)
  have hclose (ds : List Char) : ('\x7d' :: ds).count '\x7d' = ds.count '\x7d' + 1 :=
    List.count_cons_self
  have hmove (n : Nat) : depth + 1 + n = depth + n + 1 := by omega
  rw [isBalanced_iff, isBalanced_iff, forall_prefix_cons (Nat.zero_le _)]
  simp only [hopen, hclose, hmove, Nat.add_le_add_iff_right, Nat.add_right_cancel_iff]

/-- Where no brace is open, none can be closed. -/
theorem not_isBalanced_close : ¬ IsBalanced 0 ('\x7d' :: cs) := by
  intro h
  have hfirst := h.front ['\x7d'] (List.cons_prefix_cons.mpr ⟨rfl, List.nil_prefix⟩)
  exact absurd hfirst (by decide)

/-- Every other character leaves as many open. -/
theorem isBalanced_cons_of_ne (hopen : c ≠ '\x7b') (hclose : c ≠ '\x7d') :
    IsBalanced depth (c :: cs) ↔ IsBalanced depth cs := by
  have hopens (ds : List Char) : (c :: ds).count '\x7b' = ds.count '\x7b' :=
    List.count_cons_of_ne hopen
  have hcloses (ds : List Char) : (c :: ds).count '\x7d' = ds.count '\x7d' :=
    List.count_cons_of_ne hclose
  rw [isBalanced_iff, isBalanced_iff, forall_prefix_cons (Nat.zero_le _)]
  simp only [hopens, hcloses]

/-- A text without braces is balanced. -/
theorem isBalanced_of_not_mem (hopen : '\x7b' ∉ cs) (hclose : '\x7d' ∉ cs) : IsBalanced 0 cs := by
  refine ⟨fun front hfront => ?_, ?_⟩
  · rw [List.count_eq_zero.mpr fun hmem => hclose (hfront.subset hmem)]
    exact Nat.zero_le _
  · rw [List.count_eq_zero.mpr hopen, List.count_eq_zero.mpr hclose]

/-! ### Steps of a walk -/

theorem blocksFrom_between_cons (hopen : c ≠ '\x7b') (hclose : c ≠ '\x7d') (hend : c ≠ ';')
    (groups : Nat) (start cs : List Char) :
    blocksFrom groups (.between start) (c :: cs) =
      blocksFrom groups (.between (c :: start)) cs :=
  (if_neg hopen).trans ((if_neg hclose).trans (if_neg hend))

theorem blocksFrom_between_semicolon (groups : Nat) (start cs : List Char) :
    blocksFrom groups (.between start) (';' :: cs) = blocksFrom groups (.between []) cs := rfl

/-- An opening brace opens a group. -/
theorem blocksFrom_between_group {start : List Char} (h : isGroup (trim start.reverse) = true)
    (groups : Nat) (cs : List Char) : blocksFrom groups (.between start) ('\x7b' :: cs) =
      blocksFrom (groups + 1) (.between []) cs :=
  if_pos h

/-- An opening brace opens any other block. -/
theorem blocksFrom_between_body {start : List Char} (h : isGroup (trim start.reverse) = false)
    (groups : Nat) (cs : List Char) : blocksFrom groups (.between start) ('\x7b' :: cs) =
      blocksFrom groups (.body (trim start.reverse) 0 []) cs :=
  if_neg (Bool.eq_false_iff.mp h)

/-- A closing brace closes the innermost group. -/
theorem blocksFrom_between_close (groups : Nat) (start cs : List Char) :
    blocksFrom (groups + 1) (.between start) ('\x7d' :: cs) =
      blocksFrom groups (.between []) cs := rfl

theorem blocksFrom_between_stray (start cs : List Char) :
    blocksFrom 0 (.between start) ('\x7d' :: cs) = none := rfl

theorem blocksFrom_body_cons (hopen : c ≠ '\x7b') (hclose : c ≠ '\x7d') (groups : Nat)
    (selector : List Char) (depth : Nat) (start cs : List Char) :
    blocksFrom groups (.body selector depth start) (c :: cs) =
      blocksFrom groups (.body selector depth (c :: start)) cs :=
  (if_neg hopen).trans (if_neg hclose)

theorem blocksFrom_body_open (groups : Nat) (selector : List Char) (depth : Nat)
    (start cs : List Char) : blocksFrom groups (.body selector depth start) ('\x7b' :: cs) =
      blocksFrom groups (.body selector (depth + 1) ('\x7b' :: start)) cs := rfl

theorem blocksFrom_body_close (groups : Nat) (selector : List Char) (depth : Nat)
    (start cs : List Char) :
    blocksFrom groups (.body selector (depth + 1) start) ('\x7d' :: cs) =
      blocksFrom groups (.body selector depth ('\x7d' :: start)) cs := rfl

/-- The closing brace of a block tells its rule, unless the block is none. -/
theorem blocksFrom_body_last (groups : Nat) (selector start cs : List Char) :
    blocksFrom groups (.body selector 0 start) ('\x7d' :: cs) =
      (blocksFrom groups (.between []) cs).map fun rest =>
        if isAtRule selector then rest else (selector, start.reverse) :: rest := rfl

/-! ### What a step does -/

/-- How many braces are open inside the innermost group. -/
def Place.braces : Place → Nat
  | between _ => 0
  | body _ depth _ => depth + 1

/-- No selector is begun at this place. -/
def Place.IsFresh (place : Place) : Prop :=
  ∀ start, place = between start → start = []

theorem Place.isFresh_between : (between []).IsFresh :=
  fun _ h => (between.inj h).symm

theorem Place.isFresh_body {selector start : List Char} {depth : Nat} :
    (body selector depth start).IsFresh := by
  intro start' h
  cases h

/-- A character takes the walk to another place, tells the rules that it completes, and leaves as
many braces open as the walk is inside of then; behind an item no selector is begun. -/
structure IsStep (groups : Nat) (place : Place) (c : Char) (groups' : Nat) (place' : Place)
    (told : List (List Char × List Char)) : Prop where
  walk : ∀ cs, blocksFrom groups place (c :: cs) = (blocksFrom groups' place' cs).map (told ++ ·)
  braces : ∀ cs, IsBalanced (groups + place.braces) (c :: cs) ↔
    IsBalanced (groups' + place'.braces) cs
  fresh : c = '\x7d' ∨ c = ';' → place'.IsFresh

/-- A step that tells no rule. -/
theorem isStep_nil {groups groups' : Nat} {place place' : Place}
    (hwalk : ∀ cs, blocksFrom groups place (c :: cs) = blocksFrom groups' place' cs)
    (hbraces : ∀ cs, IsBalanced (groups + place.braces) (c :: cs) ↔
      IsBalanced (groups' + place'.braces) cs)
    (hfresh : c = '\x7d' ∨ c = ';' → place'.IsFresh) :
    IsStep groups place c groups' place' [] :=
  ⟨fun cs => by simp [hwalk], hbraces, hfresh⟩

theorem exists_isStep_open (groups : Nat) (place : Place) :
    ∃ groups' place' told, IsStep groups place '\x7b' groups' place' told := by
  cases place with
  | between start =>
    cases hgroup : isGroup (trim start.reverse) with
    | true =>
      exact ⟨_, _, _, isStep_nil (blocksFrom_between_group hgroup groups)
        (fun _ => isBalanced_open) fun _ => Place.isFresh_between⟩
    | false =>
      exact ⟨_, _, _, isStep_nil (blocksFrom_between_body hgroup groups)
        (fun _ => isBalanced_open) fun _ => Place.isFresh_body⟩
  | body selector depth start =>
    exact ⟨_, _, _, isStep_nil (blocksFrom_body_open groups selector depth start)
      (fun _ => isBalanced_open) fun _ => Place.isFresh_body⟩

theorem exists_isStep_body_close (groups : Nat) (selector : List Char) (depth : Nat)
    (start : List Char) : ∃ groups' place' told,
      IsStep groups (.body selector depth start) '\x7d' groups' place' told := by
  cases depth with
  | zero =>
    cases hrule : isAtRule selector with
    | true =>
      refine ⟨groups, .between [], [], isStep_nil (fun cs => ?_) (fun _ => isBalanced_close)
        fun _ => Place.isFresh_between⟩
      rw [blocksFrom_body_last, hrule]
      simp
    | false =>
      refine ⟨groups, .between [], [(selector, start.reverse)], fun cs => ?_,
        fun _ => isBalanced_close, fun _ => Place.isFresh_between⟩
      rw [blocksFrom_body_last, hrule]
      rfl
  | succ depth =>
    exact ⟨_, _, _, isStep_nil (blocksFrom_body_close groups selector depth start)
      (fun _ => isBalanced_close) fun _ => Place.isFresh_body⟩

theorem exists_isStep_of_ne (groups : Nat) (place : Place) (hopen : c ≠ '\x7b')
    (hclose : c ≠ '\x7d') : ∃ groups' place' told, IsStep groups place c groups' place' told := by
  cases place with
  | between start =>
    by_cases hend : c = ';'
    · subst hend
      exact ⟨_, _, _, isStep_nil (blocksFrom_between_semicolon groups start)
        (fun _ => isBalanced_cons_of_ne hopen hclose) fun _ => Place.isFresh_between⟩
    · have hitem : ¬ (c = '\x7d' ∨ c = ';') := not_or.mpr ⟨hclose, hend⟩
      exact ⟨_, _, _, isStep_nil (blocksFrom_between_cons hopen hclose hend groups start)
        (fun _ => isBalanced_cons_of_ne hopen hclose) fun h => absurd h hitem⟩
  | body selector depth start =>
    exact ⟨_, _, _, isStep_nil (blocksFrom_body_cons hopen hclose groups selector depth start)
      (fun _ => isBalanced_cons_of_ne hopen hclose) fun _ => Place.isFresh_body⟩

/-- Only a closing brace that nothing has opened does not take the walk further. -/
theorem exists_isStep_or (groups : Nat) (place : Place) (c : Char) :
    (∃ groups' place' told, IsStep groups place c groups' place' told) ∨
      (groups = 0 ∧ c = '\x7d' ∧ ∃ start, place = .between start) := by
  by_cases hopen : c = '\x7b'
  · subst hopen
    exact .inl (exists_isStep_open groups place)
  · by_cases hclose : c = '\x7d'
    · subst hclose
      cases place with
      | between start =>
        cases groups with
        | zero => exact .inr ⟨rfl, rfl, start, rfl⟩
        | succ groups =>
          exact .inl ⟨_, _, _, isStep_nil (blocksFrom_between_close groups start)
            (fun _ => isBalanced_close) fun _ => Place.isFresh_between⟩
      | body selector depth start =>
        exact .inl (exists_isStep_body_close groups selector depth start)
    · exact .inl (exists_isStep_of_ne groups place hopen hclose)

/-! ### When a walk has an answer -/

/-- The walk has an answer exactly when what it has opened is closed by what follows. -/
theorem isSome_blocksFrom_iff {groups : Nat} {place : Place} :
    (blocksFrom groups place cs).isSome = true ↔ IsBalanced (groups + place.braces) cs := by
  induction cs generalizing groups place with
  | nil =>
    rw [isBalanced_nil]
    cases place with
    | between start =>
      rw [blocksFrom]
      cases groups <;> simp [Place.braces]
    | body selector depth start =>
      rw [blocksFrom]
      simp [Place.braces]
  | cons c cs ih =>
    rcases exists_isStep_or groups place c with
      ⟨groups', place', told, hstep⟩ | ⟨rfl, rfl, start, rfl⟩
    · rw [hstep.walk, hstep.braces, Option.isSome_map]
      exact ih
    · rw [blocksFrom_between_stray]
      simp [Place.braces, not_isBalanced_close]

instance : Decidable (IsBalanced depth cs) :=
  decidable_of_iff _ (isSome_blocksFrom_iff : (blocksFrom depth (.between []) cs).isSome = true ↔ _)

/-- A stylesheet has no rules to tell exactly when its braces do not balance: some beginning of it
closes more than it opens, or the braces of either kind are not as many. -/
theorem blocks_eq_none_iff : blocks cs = none ↔
    (∃ front, front <+: cs ∧ front.count '\x7b' < front.count '\x7d') ∨
      cs.count '\x7b' ≠ cs.count '\x7d' := by
  have hsome : (blocks cs).isSome = true ↔ IsBalanced 0 cs := isSome_blocksFrom_iff
  rw [← Option.not_isSome_iff_eq_none, hsome, isBalanced_iff]
  simp only [Nat.zero_add, not_and_or, not_forall, Nat.not_le, exists_prop, Ne, eq_comm]

/-! ### Passing text -/

variable {text rest : List Char}

/-- A text without braces and semicolons belongs to the next selector. -/
theorem blocksFrom_between_append (htext : ∀ c ∈ text, c ≠ '\x7b' ∧ c ≠ '\x7d' ∧ c ≠ ';')
    (groups : Nat) (start rest : List Char) :
    blocksFrom groups (.between start) (text ++ rest) =
      blocksFrom groups (.between (text.reverse ++ start)) rest := by
  induction text generalizing start with
  | nil => rfl
  | cons c text ih =>
    obtain ⟨⟨hopen, hclose, hend⟩, htext⟩ := List.forall_mem_cons.mp htext
    rw [List.cons_append, blocksFrom_between_cons hopen hclose hend, ih htext, List.reverse_cons,
      List.append_assoc]
    rfl

/-- A text whose braces balance belongs to the body that it stands in. -/
theorem blocksFrom_body_append (htext : IsBalanced depth text) (groups : Nat)
    (selector : List Char) (outer : Nat) (start rest : List Char) :
    blocksFrom groups (.body selector (outer + depth) start) (text ++ rest) =
      blocksFrom groups (.body selector outer (text.reverse ++ start)) rest := by
  induction text generalizing depth start with
  | nil =>
    obtain rfl := isBalanced_nil.mp htext
    rfl
  | cons c text ih =>
    have hmore : text.reverse ++ c :: start = (c :: text).reverse ++ start := by simp
    rw [List.cons_append]
    by_cases hopen : c = '\x7b'
    · subst hopen
      rw [blocksFrom_body_open, ← hmore]
      exact ih (isBalanced_open.mp htext) _
    · by_cases hclose : c = '\x7d'
      · subst hclose
        cases depth with
        | zero => exact absurd htext not_isBalanced_close
        | succ depth =>
          rw [← Nat.add_assoc, blocksFrom_body_close, ← hmore]
          exact ih (isBalanced_close.mp htext) _
      · rw [blocksFrom_body_cons hopen hclose, ← hmore]
        exact ih ((isBalanced_cons_of_ne hopen hclose).mp htext) _

end Stylesheet

end PageMarkup
