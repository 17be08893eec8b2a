import Mathlib.Data.List.Forall2
import Mathlib.Data.List.Induction
import PageMarkup.Journal

/-!
# What is left of long data

The data of an entry may be of any size.  The journal first cuts each text in it that is long, and
then, if the data is still long altogether, keeps the beginning of its printed form as one text.  A
cut keeps the longest beginning that fits and says how many bytes are gone.  So whatever is done to
a journal, the data that it holds is bounded, and tells what it leaves out.
-/

namespace PageMarkup

open Text

namespace Clip

/-! ### The beginning that is kept -/

/-- The longest beginning of a text that takes at most `limit` bytes. -/
structure IsLongest (limit : Nat) (kept cs : List Char) : Prop where
  begins : kept <+: cs
  fits : size kept ≤ limit
  longest : ∀ other, other <+: cs → size other ≤ limit → other <+: kept

theorem isLongest_fit (limit : Nat) (cs : List Char) : IsLongest limit (fit limit cs) cs := by
  induction cs generalizing limit with
  | nil => exact ⟨List.prefix_refl [], Nat.zero_le limit, fun other hother _ => hother⟩
  | cons c cs ih =>
    rw [fit]
    split
    · rename_i hfits
      have hrest := ih (limit - c.utf8Size)
      refine ⟨List.cons_prefix_cons.mpr ⟨rfl, hrest.begins⟩, ?_, fun other hother hsize => ?_⟩
      · have := hrest.fits
        rw [size_cons]
        omega
      · cases other with
        | nil => exact List.nil_prefix
        | cons d other =>
          obtain ⟨rfl, htail⟩ := List.cons_prefix_cons.mp hother
          rw [size_cons] at hsize
          exact List.cons_prefix_cons.mpr ⟨rfl, hrest.longest other htail (by omega)⟩
    · rename_i hlong
      refine ⟨List.nil_prefix, Nat.zero_le limit, fun other hother hsize => ?_⟩
      cases other with
      | nil => exact List.nil_prefix
      | cons d other =>
        obtain ⟨rfl, -⟩ := List.cons_prefix_cons.mp hother
        rw [size_cons] at hsize
        omega

/-- A text of which only the beginning `kept` is left, with a note of how many bytes are gone. -/
def noted (kept : List Char) (gone : Nat) : String :=
  String.ofList kept ++ "…[truncated " ++ toString gone ++ " bytes]"

/-- What becomes of a text: one that fits stays, and of a longer one the longest beginning that
fits is kept with a note of how many bytes are gone. -/
inductive Cuts (limit : Nat) (s : String) : String → Prop
  | stays (h : size s.toList ≤ limit) : Cuts limit s s
  | cut {kept gone : List Char} (h : limit < size s.toList) (hs : s.toList = kept ++ gone)
      (hkept : IsLongest limit kept s.toList) : Cuts limit s (noted kept (size gone))

/-- A text that does not fit is cut behind the longest beginning that does. -/
theorem exists_text_eq {limit : Nat} {s : String} (h : limit < size s.toList) :
    ∃ kept gone, s.toList = kept ++ gone ∧ IsLongest limit kept s.toList ∧
      text limit s = noted kept (size gone) := by
  have hkept := isLongest_fit limit s.toList
  obtain ⟨gone, hgone⟩ := hkept.begins
  refine ⟨fit limit s.toList, gone, hgone.symm, hkept, ?_⟩
  have hsize : size s.toList - size (fit limit s.toList) = size gone := by
    have := congrArg size hgone
    rw [size_append] at this
    omega
  rw [text, if_neg (Nat.not_le.mpr h)]
  dsimp only
  rw [hsize, noted]

theorem cuts_text (limit : Nat) (s : String) : Cuts limit s (text limit s) := by
  rcases Nat.lt_or_ge limit (size s.toList) with h | h
  · obtain ⟨kept, gone, hs, hkept, htext⟩ := exists_text_eq h
    rw [htext]
    exact .cut h hs hkept
  · rw [text, if_pos h]
    exact .stays h

/-! ### Every text of a value -/

mutual

/-- What becomes of a value: its texts are cut at any depth, and all else stays. -/
inductive CutsTexts (limit : Nat) : Json → Json → Prop
  | text {s cut : String} (h : Cuts limit s cut) : CutsTexts limit (.text s) (.text cut)
  | array {items cuts : List Json} (h : CutsItems limit items cuts) :
      CutsTexts limit (.array items) (.array cuts)
  | object {fields cuts : List (String × Json)} (h : CutsFields limit fields cuts) :
      CutsTexts limit (.object fields) (.object cuts)
  | null : CutsTexts limit .null .null
  | bool (value : Bool) : CutsTexts limit (.bool value) (.bool value)
  | int (value : Int) : CutsTexts limit (.int value) (.int value)
  | float (value : Binary64) : CutsTexts limit (.float value) (.float value)

/-- What becomes of the items of an array, one by one. -/
inductive CutsItems (limit : Nat) : List Json → List Json → Prop
  | nil : CutsItems limit [] []
  | cons {item cut : Json} {items cuts : List Json} (h : CutsTexts limit item cut)
      (hrest : CutsItems limit items cuts) : CutsItems limit (item :: items) (cut :: cuts)

/-- What becomes of the fields of an object, one by one; their names stay. -/
inductive CutsFields (limit : Nat) : List (String × Json) → List (String × Json) → Prop
  | nil : CutsFields limit [] []
  | cons {name : String} {value cut : Json} {fields cuts : List (String × Json)}
      (h : CutsTexts limit value cut) (hrest : CutsFields limit fields cuts) :
      CutsFields limit ((name, value) :: fields) ((name, cut) :: cuts)

end

mutual

theorem cutsTexts_texts (limit : Nat) : (value : Json) → CutsTexts limit value (texts limit value)
  | .text s => .text (cuts_text limit s)
  | .array items => .array (cutsItems_itemTexts limit items)
  | .object fields => .object (cutsFields_fieldTexts limit fields)
  | .null => .null
  | .bool value => .bool value
  | .int value => .int value
  | .float value => .float value

theorem cutsItems_itemTexts (limit : Nat) :
    (items : List Json) → CutsItems limit items (itemTexts limit items)
  | [] => .nil
  | item :: items => .cons (cutsTexts_texts limit item) (cutsItems_itemTexts limit items)

theorem cutsFields_fieldTexts (limit : Nat) :
    (fields : List (String × Json)) → CutsFields limit fields (fieldTexts limit fields)
  | [] => .nil
  | (_, value) :: fields => .cons (cutsTexts_texts limit value) (cutsFields_fieldTexts limit fields)

end

/-! ### All of the data -/

/-- What is stored of some data: the data with its texts cut, if that is printed in four times the
limit, and otherwise one text with the longest beginning of the printed form that fits. -/
inductive Stores (limit : Nat) (data : Json) : Json → Prop
  | whole {cut : Json} (hcut : CutsTexts limit data cut)
      (h : size (Json.compact cut) ≤ 4 * limit) : Stores limit data cut
  | beginning {cut : Json} {kept gone : List Char} (hcut : CutsTexts limit data cut)
      (h : 4 * limit < size (Json.compact cut)) (hprinted : Json.compact cut = kept ++ gone)
      (hkept : IsLongest limit kept (Json.compact cut)) :
      Stores limit data (.text (noted kept (size gone)))

theorem stores_data (limit : Nat) (value : Json) : Stores limit value (data limit value) := by
  have hcut := cutsTexts_texts limit value
  rw [data]
  split
  · rename_i h
    have hlimit : limit < size (String.ofList (Json.compact (texts limit value))).toList := by
      rw [String.toList_ofList]
      omega
    obtain ⟨kept, gone, hprinted, hkept, htext⟩ := exists_text_eq hlimit
    rw [String.toList_ofList] at hprinted hkept
    rw [htext]
    exact .beginning hcut (by omega) hprinted hkept
  · exact .whole hcut (by omega)

end Clip

/-! ### What a journal holds -/

namespace Journal

/-- What is done to a journal. -/
inductive Step where
  | push (phase : Phase) (message : String)
  | pushWith (phase : Phase) (message : String) (data : Json)
  | reset

namespace Step

/-- The journal after the step. -/
def apply (journal : Journal) : Step → Journal
  | push phase message => ((Traced.note phase message).runOn journal).2
  | pushWith phase message data => ((Traced.noteWith phase message data).runOn journal).2
  | reset => journal.reset

/-- The step begins a new run. -/
def isReset : Step → Bool
  | reset => true
  | _ => false

/-- The entry that the step leaves in a journal. -/
inductive Leaves (limit : Nat) : Step → Entry → Prop
  | push (phase : Phase) (message : String) :
      Leaves limit (push phase message) ⟨phase, message, none⟩
  | pushWith (phase : Phase) (message : String) {data stored : Json}
      (h : Clip.Stores limit data stored) :
      Leaves limit (pushWith phase message data) ⟨phase, message, some stored⟩

end Step

/-- The journal after some steps. -/
def after (journal : Journal) (steps : List Step) : Journal :=
  steps.foldl Step.apply journal

/-- The steps behind the last one that begins a new run. -/
def sinceReset (steps : List Step) : List Step :=
  (steps.reverse.takeWhile fun step => !step.isReset).reverse

theorem sinceReset_concat (steps : List Step) (step : Step) :
    sinceReset (steps ++ [step]) = if step.isReset then [] else sinceReset steps ++ [step] := by
  cases step <;> simp [sinceReset, Step.isReset]

/-- The limit of a journal never changes. -/
theorem limit_apply (journal : Journal) (step : Step) :
    (step.apply journal).limit = journal.limit := by
  cases step <;> rfl

/-- A step leaves its entry behind those that are there, unless it begins a new run. -/
theorem forall₂_apply (journal : Journal) {steps : List Step} (step : Step)
    (h : List.Forall₂ (Step.Leaves journal.limit) steps journal.entries) :
    List.Forall₂ (Step.Leaves journal.limit) (if step.isReset then [] else steps ++ [step])
      (step.apply journal).entries := by
  cases step with
  | push phase message => exact List.rel_append h (.cons (.push phase message) .nil)
  | pushWith phase message data =>
    exact List.rel_append h (.cons (.pushWith phase message (Clip.stores_data _ data)) .nil)
  | reset => exact .nil

/-- Whatever is done to a journal, it holds one entry for each thing that was said since the last
run began, in order, and of the data of each what is to be stored. -/
theorem entries_after (limit : Nat) (steps : List Step) :
    ((start limit).after steps).limit = limit ∧
      List.Forall₂ (Step.Leaves limit) (sinceReset steps) ((start limit).after steps).entries := by
  induction steps using List.reverseRecOn with
  | nil => exact ⟨rfl, .nil⟩
  | append_singleton steps step ih =>
    obtain ⟨hlimit, hentries⟩ := ih
    have hafter : (start limit).after (steps ++ [step]) =
        step.apply ((start limit).after steps) := by
      rw [after, List.foldl_append]
      rfl
    rw [hafter, limit_apply, sinceReset_concat]
    refine ⟨hlimit, ?_⟩
    have hstep := forall₂_apply ((start limit).after steps) step (by rwa [hlimit])
    rwa [hlimit] at hstep

end Journal

end PageMarkup
