import Mathlib.Data.List.Basic
import PageMarkup.Entity
import PageMarkup.Proofs.Text.Borders

/-!
# Character references in texts

The name of a character is made of letters and digits, so no reference holds a blank.  What two
texts with runs of spaces of different length stand for differs in these spaces at most, and where
no reference is cut, a text stands for what its parts stand for, one after another.
-/

namespace PageMarkup

open Text

namespace Entity

/-! ### What a reference holds -/

/-- The code of an ASCII letter or an ASCII digit. -/
def isNameCode (n : Nat) : Bool :=
  (48 ≤ n && n ≤ 57) || (65 ≤ n && n ≤ 90) || (97 ≤ n && n ≤ 122)

/-- A character outside ASCII begins with a byte that is no letter and no digit. -/
theorem isNameCode_of_bytes {c : Char}
    (h : ∀ byte ∈ String.utf8EncodeChar c, isNameCode byte.toNat = true) :
    isNameCode c.toNat = true := by
  have hval : c.toNat = c.val.toNat := rfl
  rw [hval]
  unfold String.utf8EncodeChar at h
  dsimp only at h
  split_ifs at h with hone htwo hthree
  all_goals
    have hfirst := h _ List.mem_cons_self
    simp only [isNameCode, UInt8.toNat_ofNat', Bool.or_eq_true, Bool.and_eq_true,
      decide_eq_true_eq] at hfirst ⊢
    omega

/-- The bytes of a text are those of its characters. -/
theorem mem_bytes_of_mem {s : String} {c : Char} {byte : UInt8} (h : c ∈ s.toList)
    (hbyte : byte ∈ String.utf8EncodeChar c) : byte ∈ s.toByteArray.data.toList := by
  rw [← String.ofList_toList (s := s), String.toByteArray_ofList, List.utf8Encode,
    List.data_toByteArray]
  exact List.mem_flatMap.mpr ⟨c, h, hbyte⟩

theorem names_bytes :
    names.all (fun entry => entry.1.toByteArray.data.toList.all (isNameCode ·.toNat)) = true := by
  -- in two halves, since the evaluation of each keeps the bytes of all its names
  rw [← List.take_append_drop 1000 names, List.all_append, Bool.and_eq_true]
  exact ⟨by decide +kernel, by decide +kernel⟩

/-- The names of characters are made of ASCII letters and digits. -/
theorem isNameCode_of_ofName {name : List Char} {c : Char} (h : ofName name = some c) :
    ∀ d ∈ name, isNameCode d.toNat = true := by
  unfold ofName at h
  split at h
  · exact List.all_eq_true.mp rfl
  · exact List.all_eq_true.mp rfl
  · exact List.all_eq_true.mp rfl
  · exact List.all_eq_true.mp rfl
  · exact List.all_eq_true.mp rfl
  · obtain ⟨code, hcode, -⟩ := Option.map_eq_some_iff.mp h
    obtain ⟨front, back, hnames, -⟩ := List.lookup_eq_some_iff.mp hcode
    have hmem : (String.ofList name, code) ∈ names := by simp [hnames]
    have hbytes := List.all_eq_true.mp (List.all_eq_true.mp names_bytes _ hmem)
    intro d hd
    refine isNameCode_of_bytes fun byte hbyte => hbytes byte (mem_bytes_of_mem ?_ hbyte)
    simpa using hd

/-- A number goes on with one more digit. -/
def digitStep (base : Nat) (value : Option Nat) (c : Char) : Option Nat := do
  let digit ← hexDigit? c
  if digit < base then some ((← value) * base + digit) else none

theorem foldl_digitStep_none (base : Nat) (cs : List Char) :
    cs.foldl (digitStep base) none = none := by
  induction cs with
  | nil => rfl
  | cons c cs ih =>
    have hstep : digitStep base none c = none := by
      unfold digitStep
      cases hexDigit? c with
      | none => rfl
      | some digit => simp
    rw [List.foldl_cons, hstep, ih]

/-- Digits are ASCII letters and digits. -/
theorem isNameCode_of_hexDigit? {c : Char} {digit : Nat} (h : hexDigit? c = some digit) :
    isNameCode c.toNat = true := by
  have hbounds : (48 ≤ c.toNat ∧ c.toNat ≤ 57) ∨ (97 ≤ c.toNat ∧ c.toNat ≤ 102) ∨
      (65 ≤ c.toNat ∧ c.toNat ≤ 70) := by
    unfold hexDigit? at h
    split_ifs at h with hdigit hsmall hcapital
    · simp only [Bool.and_eq_true, decide_eq_true_eq] at hdigit
      exact .inl hdigit
    · simp only [Bool.and_eq_true, decide_eq_true_eq] at hsmall
      exact .inr (.inl hsmall)
    · simp only [Bool.and_eq_true, decide_eq_true_eq] at hcapital
      exact .inr (.inr hcapital)
  simp only [isNameCode, Bool.or_eq_true, Bool.and_eq_true, decide_eq_true_eq]
  omega

theorem isNameCode_of_foldl {base n : Nat} {cs : List Char} {start : Option Nat}
    (h : cs.foldl (digitStep base) start = some n) : ∀ d ∈ cs, isNameCode d.toNat = true := by
  induction cs generalizing start with
  | nil => simp
  | cons c cs ih =>
    rw [List.forall_mem_cons]
    refine ⟨?_, ih h⟩
    cases hdigit : hexDigit? c with
    | some digit => exact isNameCode_of_hexDigit? hdigit
    | none =>
      have hstep : digitStep base start c = none := by
        rw [digitStep, hdigit]
        rfl
      rw [List.foldl_cons, hstep, foldl_digitStep_none] at h
      cases h

theorem isNameCode_of_ofCode {base : Nat} {cs : List Char} {c : Char}
    (h : ofBody.ofCode (digits? base cs) = some c) : ∀ d ∈ cs, isNameCode d.toNat = true := by
  obtain ⟨n, hn, -⟩ := Option.map_eq_some_iff.mp h
  have hdigits := Option.eq_some_of_filter_eq_some hn
  unfold digits? at hdigits
  split_ifs at hdigits
  exact isNameCode_of_foldl hdigits

/-- The character may stand in a reference. -/
def isReferenceChar (c : Char) : Bool :=
  isNameCode c.toNat || c == '#' || c == '&' || c == ';'

theorem isReferenceChar_of_isNameCode {cs : List Char}
    (h : ∀ d ∈ cs, isNameCode d.toNat = true) : ∀ d ∈ cs, isReferenceChar d = true := by
  intro d hd
  rw [isReferenceChar, h d hd]
  rfl

/-- What a reference holds may stand in one. -/
theorem isReferenceChar_of_ofBody {body : List Char} {c : Char} (h : ofBody body = some c) :
    ∀ d ∈ body, isReferenceChar d = true := by
  have hhash : isReferenceChar '#' = true := by decide
  unfold ofBody at h
  split at h
  · exact List.forall_mem_cons.mpr ⟨hhash, List.forall_mem_cons.mpr ⟨by decide,
      isReferenceChar_of_isNameCode (isNameCode_of_ofCode h)⟩⟩
  · exact List.forall_mem_cons.mpr ⟨hhash, List.forall_mem_cons.mpr ⟨by decide,
      isReferenceChar_of_isNameCode (isNameCode_of_ofCode h)⟩⟩
  · exact List.forall_mem_cons.mpr ⟨hhash,
      isReferenceChar_of_isNameCode (isNameCode_of_ofCode h)⟩
  · exact isReferenceChar_of_isNameCode (isNameCode_of_ofName h)

/-- Neither a blank nor a plus stands in a reference. -/
theorem isReferenceChar_eq_false {c : Char} (h : isBlank c = true ∨ c = '+') :
    isReferenceChar c = false := by
  rcases h with h | rfl
  · have hcode (d : Char) (hd : c = d) : c.toNat = d.toNat := congrArg Char.toNat hd
    rw [← Bool.not_eq_true]
    intro hchar
    simp only [isReferenceChar, isNameCode, isBlank, Bool.or_eq_true, Bool.and_eq_true,
      decide_eq_true_eq, beq_iff_eq] at h hchar
    have hvalue : c.toNat ≠ 35 ∧ c.toNat ≠ 38 ∧ c.toNat ≠ 59 := by omega
    rcases hchar with ((hname | hhash) | hamp) | hsemi
    · omega
    · exact hvalue.1 (hcode _ hhash)
    · exact hvalue.2.1 (hcode _ hamp)
    · exact hvalue.2.2 (hcode _ hsemi)
  · decide

/-! ### Where a reference ends -/

/-- A reference holds what stands before the first semicolon. -/
theorem body?_eq_some_iff {cs body : List Char} :
    body? cs = some body ↔ ';' ∉ body ∧ '&' ∉ body ∧ ∃ rest, cs = body ++ ';' :: rest := by
  induction cs generalizing body with
  | nil => simp [body?]
  | cons c cs ih =>
    rw [body?]
    -- a semicolon ends the body, and behind an ampersand there is none
    split_ifs with hend hamp
    · subst hend
      constructor
      · rintro ⟨⟩
        exact ⟨by simp, by simp, cs, rfl⟩
      · rintro ⟨hbody, -, rest, hrest⟩
        cases body with
        | nil => rfl
        | cons d body =>
          obtain ⟨rfl, -⟩ := List.cons.inj hrest
          exact absurd List.mem_cons_self hbody
    · subst hamp
      constructor
      · intro h
        cases h
      · rintro ⟨-, hbody, rest, hrest⟩
        cases body with
        | nil => simp at hrest
        | cons d body =>
          obtain ⟨rfl, -⟩ := List.cons.inj hrest
          exact absurd List.mem_cons_self hbody
    · rw [Option.map_eq_some_iff]
      constructor
      · rintro ⟨body, hbody, rfl⟩
        obtain ⟨hsemi, hampersand, rest, rfl⟩ := ih.mp hbody
        exact ⟨by simpa [Ne.symm hend] using hsemi,
          by simpa [Ne.symm hamp] using hampersand, rest, rfl⟩
      · rintro ⟨hsemi, hampersand, rest, hrest⟩
        cases body with
        | nil => exact absurd (List.cons.inj hrest).1 hend
        | cons d body =>
          obtain ⟨rfl, rfl⟩ := List.cons.inj hrest
          rw [List.mem_cons, not_or] at hsemi hampersand
          exact ⟨body, ih.mpr ⟨hsemi.2, hampersand.2, rest, rfl⟩, rfl⟩

/-- A reference, with its marks. -/
def IsReference (body : List Char) (c : Char) : Prop :=
  ';' ∉ body ∧ '&' ∉ body ∧ ofBody body = some c

/-- A reference stands between an ampersand and the first semicolon. -/
theorem reference?_eq_some_iff {cs rest : List Char} {c : Char} :
    reference? cs = some (c, rest) ↔ ∃ body, cs = '&' :: (body ++ ';' :: rest) ∧
      IsReference body c := by
  constructor
  · intro h
    unfold reference? at h
    split at h
    · rename_i tail
      simp only [Option.bind_eq_bind, Option.bind_eq_some_iff, Option.some.injEq,
        Prod.mk.injEq] at h
      obtain ⟨body, hbody, d, hd, rfl, rfl⟩ := h
      obtain ⟨hsemi, hampersand, rest, rfl⟩ := body?_eq_some_iff.mp hbody
      exact ⟨body, by simp, hsemi, hampersand, hd⟩
    · cases h
  · rintro ⟨body, rfl, hsemi, hampersand, hbody⟩
    have hread : body? (body ++ ';' :: rest) = some body :=
      body?_eq_some_iff.mpr ⟨hsemi, hampersand, rest, rfl⟩
    simp [reference?, hread, hbody]

theorem progresses_reference? : Progresses reference? := by
  intro cs c rest h
  obtain ⟨body, rfl, -⟩ := reference?_eq_some_iff.mp h
  exact ⟨'&' :: (body ++ [';']), by simp, by simp⟩

theorem isDecided_reference? : IsDecided reference? := by
  intro part rest c other h
  obtain ⟨body, hpart, hbody⟩ := reference?_eq_some_iff.mp h
  have hsource : part = '&' :: (body ++ [';']) :=
    List.append_cancel_right (hpart.trans (by simp) : part ++ rest = '&' :: (body ++ [';']) ++ rest)
  exact reference?_eq_some_iff.mpr ⟨body, by simp [hsource], hbody⟩

/-- A character that may not stand in a reference stands in none. -/
theorem isFree_of_isReferenceChar {d : Char} (hd : isReferenceChar d = false) :
    IsFree (IsRecognized reference?) d := by
  rintro mark ⟨c, hmark⟩ hmem
  obtain ⟨body, rfl, hbody⟩ := reference?_eq_some_iff.mp hmark
  have hchars : ∀ e ∈ '&' :: (body ++ [';']), isReferenceChar e = true := by
    refine List.forall_mem_cons.mpr ⟨by decide, List.forall_mem_append.mpr ⟨?_, ?_⟩⟩
    · exact isReferenceChar_of_ofBody hbody.2.2
    · exact List.forall_mem_singleton.mpr (by decide)
  exact absurd (hchars d hmem) (by simp [hd])

/-! ### Decoding -/

/-- What two texts stand for differs in a run of spaces at most, if the texts do. -/
theorem spaced_decode {cs ds : List Char} (h : Spaced (fun _ => True) cs ds) :
    Spaced (fun _ => True) (decode cs) (decode ds) := by
  refine Aligned.replaced (fun c => [c]) ?_
  refine aligned_scan isInherited_true progresses_reference? (fun _ => rfl) ?_ h
  intro c front n m back _
  have hspace (k : Nat) : reference? (c :: front ++ (List.replicate (k + 1) ' ' ++ back)) =
      (reference? (c :: front)).map fun (d, rest) =>
        (d, rest ++ (List.replicate (k + 1) ' ' ++ back)) := by
    refine CutsNo.read_append isDecided_reference? progresses_reference? ?_
      (List.cons_ne_nil c front)
    have hfree : isReferenceChar ' ' = false := by decide
    exact cutsNo_of_head? (isFree_of_isReferenceChar hfree) (by simp [List.replicate_succ])
  have hleft := hspace n
  have hright := hspace m
  cases hread : reference? (c :: front) with
  | none =>
    rw [hread] at hleft hright
    exact .none hleft hright
  | some read =>
    obtain ⟨d, rest⟩ := read
    rw [hread] at hleft hright
    exact .some hleft hright (spaced_run rest n m back)

end Entity

end PageMarkup
