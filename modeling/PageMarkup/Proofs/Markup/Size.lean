import Mathlib.Tactic.Common
import PageMarkup.Markup.Reader
import PageMarkup.Proofs.Markup.Shape
import PageMarkup.Proofs.Markup.Stack

/-!
# How much is read

A text is cut into no more parts than it has characters, and every element of the forest that it
spells was opened by a part of its own.  So a forest has no more elements than its text has
characters.
-/

namespace PageMarkup

open Text

/-! ### Parts of a text -/

namespace Text

variable {α : Type}

theorem length_scanFrom_le (read : Reader α) (skip : Nat) (cs : List Char) :
    (scanFrom read skip cs).length ≤ cs.length := by
  induction cs generalizing skip with
  | nil => simp [scanFrom]
  | cons c cs ih =>
    cases skip with
    | succ skip => exact (ih skip).trans (Nat.le_succ _)
    | zero =>
      rw [scanFrom]
      split
      · exact Nat.succ_le_succ (ih 0)
      · exact Nat.succ_le_succ (ih _)

/-- A text has no more parts than characters. -/
theorem length_scan_le (read : Reader α) (cs : List Char) : (scan read cs).length ≤ cs.length :=
  length_scanFrom_le read 0 cs

/-- A character takes at least one byte. -/
theorem length_le_size (cs : List Char) : cs.length ≤ size cs := by
  induction cs with
  | nil => exact Nat.le_refl 0
  | cons c cs ih =>
    have hc := Char.utf8Size_pos c
    rw [List.length_cons, size]
    omega

end Text

namespace Markup

/-! ### Tokens -/

/-- The token opens an element. -/
def Token.isOpening : Token → Bool
  | opening _ => true
  | _ => false

@[simp] theorem Token.countP_ofRun (run : List Char) : (ofRun run).countP isOpening = 0 := by
  rw [ofRun]
  split <;> rfl

/-- A text has no more opening tags than parts. -/
theorem Token.countP_ofPieces_le (pieces : List (Piece TagToken)) (run : List Char) :
    (ofPieces run pieces).countP isOpening ≤ pieces.length := by
  induction pieces generalizing run with
  | nil => simp [ofPieces]
  | cons piece pieces ih =>
    cases piece with
    | char c => exact (ih (c :: run)).trans (Nat.le_succ _)
    | found token source =>
      rw [ofPieces, List.countP_append, countP_ofRun, Nat.zero_add, List.countP_cons]
      refine Nat.add_le_add (ih []) ?_
      cases token.closing <;> simp [isOpening]

/-! ### Elements -/

/-- The number of elements in some items. -/
def size (items : List Markup) : Nat :=
  (tagsAll items).length

@[simp] theorem size_nil : size [] = 0 := rfl

@[simp] theorem size_append (items others : List Markup) :
    size (items ++ others) = size items + size others := by
  simp [size]

theorem size_cons (item : Markup) (items : List Markup) :
    size (item :: items) = size [item] + size items :=
  size_append [item] items

@[simp] theorem size_text (content : String) : size [text content] = 0 := rfl

@[simp] theorem size_element (tag : Tag) (children : List Markup) :
    size [element tag children] = size children + 1 := by
  rw [size, tagsAll_element, List.length_cons, size]

@[simp] theorem size_reverse (items : List Markup) : size items.reverse = size items := by
  induction items with
  | nil => rfl
  | cons item items ih =>
    rw [List.reverse_cons, size_append, ih, size_cons item items, Nat.add_comm]

/-- An item and what is inside it are no larger than the forest. -/
theorem isHereditary_size (bound : Nat) :
    Forest.IsHereditary fun forest => size forest ≤ bound where
  head {item items} h := by
    rw [size_cons] at h
    omega
  tail {item items} h := by
    rw [size_cons] at h
    omega
  inside h := by
    rw [size_element] at h
    omega

/-! ### Building a forest -/

/-- The number of elements that are open or inside open ones. -/
def OpenElement.sizes : List OpenElement → Nat
  | [] => 0
  | top :: pending => size top.held + 1 + sizes pending

namespace Growth

/-- The number of elements so far. -/
def size (growth : Growth) : Nat :=
  OpenElement.sizes growth.pending + Markup.size growth.roots

@[simp] theorem size_add (item : Markup) (growth : Growth) :
    (growth.add item).size = growth.size + Markup.size [item] := by
  obtain ⟨pending, roots⟩ := growth
  cases pending with
  | nil =>
    simp only [add, size, size_cons item roots]
    omega
  | cons top rest =>
    simp only [add, size, OpenElement.sizes, size_cons item top.held]
    omega

@[simp] theorem size_push (tag : Tag) (growth : Growth) :
    (growth.push tag).size = growth.size + 1 := by
  simp only [push, size, OpenElement.sizes, size_nil]
  omega

/-- Closing elements moves them and loses none. -/
theorem size_closeThrough (last : Tag → Bool) (roots items : List Markup)
    (pending : List OpenElement) :
    (closeThrough last roots items pending).size =
      OpenElement.sizes pending + Markup.size items + Markup.size roots := by
  induction pending generalizing items with
  | nil => simp [closeThrough, size, OpenElement.sizes]
  | cons top rest ih =>
    have hitem : Markup.size [.element top.tag (items ++ top.held).reverse] =
        Markup.size items + Markup.size top.held + 1 := by
      rw [size_element, size_reverse, size_append]
    simp only [closeThrough]
    split
    · rw [size_add, hitem]
      simp only [size, OpenElement.sizes]
      omega
    · rw [ih, hitem]
      simp only [OpenElement.sizes]
      omega

@[simp] theorem size_close (name : String) (growth : Growth) :
    (growth.close name).size = growth.size := by
  simp only [close]
  split
  · rw [size_closeThrough, size_nil, Nat.add_zero, size]
  · rfl

/-- Only opening tags add elements. -/
theorem size_extend_le (tokens : List Token) (growth : Growth) :
    (growth.extend tokens).size ≤ growth.size + tokens.countP Token.isOpening := by
  induction tokens generalizing growth with
  | nil => exact Nat.le_refl _
  | cons token rest ih =>
    cases token with
    | text run =>
      have hrest := ih (growth.add (.text run))
      rwa [size_add, size_text, Nat.add_zero] at hrest
    | opening tag =>
      have hcount : (Token.opening tag :: rest).countP Token.isOpening =
          rest.countP Token.isOpening + 1 := List.countP_cons_of_pos rfl
      rw [extend, hcount]
      split
      · have hrest := ih (growth.push tag)
        rw [size_push] at hrest
        omega
      · have hrest := ih (growth.add (.element tag []))
        rw [size_add, size_element, size_nil] at hrest
        omega
    | closing name =>
      have hrest := ih (growth.close name)
      rwa [size_close] at hrest

/-- Closing everything loses no element. -/
theorem size_finish (growth : Growth) : Markup.size growth.finish = growth.size := by
  have hclosed := size_closeThrough (fun _ => false) growth.roots [] growth.pending
  rw [finish, size_reverse]
  rw [size, pending_closeThrough_false] at hclosed
  simpa [OpenElement.sizes, size] using hclosed

end Growth

end Markup

/-- A forest has no more elements than its text has characters. -/
theorem Forest.size_read_le (cs : List Char) : Markup.size (read cs) ≤ cs.length := by
  have hgrown := Markup.Growth.size_extend_le (Markup.tokens cs) .empty
  have htokens := Markup.Token.countP_ofPieces_le (scan Markup.readTag cs) []
  have hparts := length_scan_le Markup.readTag cs
  rw [read, Markup.Growth.size_finish]
  have hempty : Markup.Growth.empty.size = 0 := rfl
  rw [Markup.tokens] at hgrown ⊢
  omega

end PageMarkup
