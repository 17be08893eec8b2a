import PageMarkup.Text.Basic

/-!
# Scanning

A scan goes through a text from the left.  Where a reader recognizes something it takes that part
and goes on behind it; where it does not, one character is passed.  So the parts found do not
overlap, each begins as far left as possible, and together with the passed characters they make up
the text.
-/

namespace PageMarkup

universe u v

variable {α : Type u} {β : Type v}

/-- A part of a scanned text. -/
inductive Piece (α : Type u) where
  /-- A character at which nothing was recognized. -/
  | char (c : Char)
  /-- What was recognized, and the part of the text that spells it. -/
  | found (value : α) (source : List Char)
  deriving Repr

namespace Piece

/-- The part of the text. -/
def source : Piece α → List Char
  | char c => [c]
  | found _ source => source

/-- What was recognized. -/
def value? : Piece α → Option α
  | char _ => none
  | found value _ => some value

end Piece

namespace Text

/-- A reader gives what it recognizes at the start of a text, and what follows it. -/
abbrev Reader (α : Type u) := List Char → Option (α × List Char)

/-- Scan a text of which the first `skip` characters belong to a part that has been read. -/
def scanFrom (read : Reader α) : (skip : Nat) → List Char → List (Piece α)
  | _, [] => []
  | skip + 1, _ :: cs => scanFrom read skip cs
  | 0, c :: cs =>
    match read (c :: cs) with
    | none => .char c :: scanFrom read 0 cs
    | some (value, rest) =>
      let more := cs.length - rest.length
      .found value (c :: cs.take more) :: scanFrom read more cs

/-- The parts of a text. -/
def scan (read : Reader α) (cs : List Char) : List (Piece α) :=
  scanFrom read 0 cs

/-- Read one part after another as long as something is recognized; the first `skip` characters
belong to a part that has been read. -/
def readManyFrom (read : Reader α) : (skip : Nat) → List Char → List α × List Char
  | _, [] => ([], [])
  | skip + 1, _ :: cs => readManyFrom read skip cs
  | 0, c :: cs =>
    match read (c :: cs) with
    | none => ([], c :: cs)
    | some (value, rest) =>
      let (values, rest) := readManyFrom read (cs.length - rest.length) cs
      (value :: values, rest)

/-- The parts that stand one after another at the start of a text, and what follows them. -/
def readMany (read : Reader α) (cs : List Char) : List α × List Char :=
  readManyFrom read 0 cs

/-- Everything that is recognized in a text, from the left. -/
def findAll (read : Reader α) (cs : List Char) : List α :=
  (scan read cs).filterMap Piece.value?

/-- What is recognized first in a text. -/
def findFirst? (read : Reader α) : List Char → Option α
  | [] => none
  | c :: cs =>
    match read (c :: cs) with
    | some (value, _) => some value
    | none => findFirst? read cs

/-- Everything that is recognized in a text with the offset at which it begins. -/
def findAllAt (read : Reader α) (cs : List Char) : List (Nat × α) :=
  place 0 (scan read cs)
where
  /-- Number the parts found by the size of what stands before them. -/
  place (offset : Nat) : List (Piece α) → List (Nat × α)
    | [] => []
    | .char c :: pieces => place (offset + c.utf8Size) pieces
    | .found value source :: pieces =>
      (offset, value) :: place (offset + Text.size source) pieces

/-- The text with each recognized part replaced by a text made from it. -/
def replaceFound (read : Reader α) (replacement : α → List Char → List Char)
    (cs : List Char) : List Char :=
  (scan read cs).flatMap fun
    | .char c => [c]
    | .found value source => replacement value source

theorem flatMap_source_scanFrom (read : Reader α) (skip : Nat) (cs : List Char) :
    (scanFrom read skip cs).flatMap Piece.source = cs.drop skip := by
  induction cs generalizing skip with
  | nil => simp [scanFrom]
  | cons c cs ih =>
    cases skip with
    | succ skip => simpa [scanFrom] using ih skip
    | zero =>
      rw [scanFrom]
      split
      · simp [Piece.source, ih]
      · simp [Piece.source, ih]

/-- The parts of a text make up the text. -/
@[simp] theorem flatMap_source_scan (read : Reader α) (cs : List Char) :
    (scan read cs).flatMap Piece.source = cs := by
  simp [scan, flatMap_source_scanFrom]

end Text

end PageMarkup
