import PageMarkup.Json.Printer

/-!
# The journal of a run

Every step of a conversion leaves an entry: a phase, a message, and perhaps data.  Long texts in
the data are cut at a limit, and data that is still too long altogether is replaced by the
beginning of its text.  A cut keeps the longest beginning of at most `limit` bytes that ends
between characters, and says how many bytes are gone.
-/

namespace PageMarkup

/-- What an entry is about. -/
inductive Phase where
  | init
  | source
  | parse
  | block
  | style
  | filter
  | warn
  | error
  | success
  deriving DecidableEq, Repr, Inhabited

/-- How loud an entry is for those who watch the process. -/
inductive Level where
  | error
  | warn
  | info
  | debug
  deriving DecidableEq, Repr, Inhabited

namespace Phase

/-- The name of a phase. -/
def name : Phase → String
  | init => "INIT"
  | source => "SOURCE"
  | parse => "PARSE"
  | block => "BLOCK"
  | style => "STYLE"
  | filter => "FILTER"
  | warn => "WARN"
  | error => "ERROR"
  | success => "SUCCESS"

/-- All phases. -/
def all : List Phase :=
  [init, source, parse, block, style, filter, warn, error, success]

/-- The phase with this name. -/
def ofName? (name : String) : Option Phase :=
  all.find? (·.name == name)

/-- The level of the entries of a phase. -/
def level : Phase → Level
  | error => .error
  | warn | filter => .warn
  | init | success => .info
  | source | parse | block | style => .debug

end Phase

/-- The name of a level. -/
def Level.name : Level → String
  | error => "ERROR"
  | warn => "WARN"
  | info => "INFO"
  | debug => "DEBUG"

/-! ### Cutting long texts -/

namespace Clip

/-- The longest beginning of a text that takes at most `limit` bytes. -/
def fit (limit : Nat) : List Char → List Char
  | [] => []
  | c :: cs => if c.utf8Size ≤ limit then c :: fit (limit - c.utf8Size) cs else []

/-- A text cut at `limit` bytes, with a note of how many bytes are gone. -/
def text (limit : Nat) (s : String) : String :=
  let cs := s.toList
  if Text.size cs ≤ limit then s
  else
    let kept := fit limit cs
    String.ofList kept ++ "…[truncated " ++ toString (Text.size cs - Text.size kept) ++ " bytes]"

mutual

/-- A value with each of its texts cut; names are kept. -/
def texts (limit : Nat) : Json → Json
  | .text s => .text (text limit s)
  | .array items => .array (itemTexts limit items)
  | .object fields => .object (fieldTexts limit fields)
  | value => value

/-- The items of an array with their texts cut. -/
def itemTexts (limit : Nat) : List Json → List Json
  | [] => []
  | item :: items => texts limit item :: itemTexts limit items

/-- The fields of an object with their texts cut. -/
def fieldTexts (limit : Nat) : List (String × Json) → List (String × Json)
  | [] => []
  | (name, value) :: fields => (name, texts limit value) :: fieldTexts limit fields

end

/-- Data with its texts cut; data of more than four times the limit becomes the beginning of its
text. -/
def data (limit : Nat) (value : Json) : Json :=
  let value := texts limit value
  let printed := Json.compact value
  if limit * 4 < Text.size printed then .text (text limit (String.ofList printed)) else value

end Clip

/-! ### Entries -/

/-- One entry of a journal. -/
structure Entry where
  phase : Phase
  message : String
  data : Option Json
  deriving Repr, Inhabited

/-- The text of an entry for those who watch the process. -/
def Entry.line (entry : Entry) : String :=
  entry.phase.name ++ " " ++ entry.message

/-- An entry as JSON. -/
def Entry.toJson (entry : Entry) : Json :=
  Json.ofFields <|
    [("phase", .text entry.phase.name), ("message", .text entry.message)]
      ++ (entry.data.map fun data => ("data", data)).toList

/-- The entries of a run, in order. -/
structure Journal where
  limit : Nat
  /-- The number of runs before this one. -/
  run : Nat
  entries : List Entry
  deriving Repr, Inhabited

namespace Journal

/-- The limit where none is given. -/
def defaultLimit : Nat := 512

/-- A journal without entries. -/
def start (limit : Nat) : Journal := ⟨limit, 0, []⟩

/-- Add an entry. -/
def push (journal : Journal) (entry : Entry) : Journal :=
  { journal with entries := journal.entries ++ [entry] }

/-- Begin a new run, with no entry. -/
def reset (journal : Journal) : Journal :=
  { journal with run := journal.run + 1, entries := [] }

/-- The number of entries of a phase. -/
def count (journal : Journal) (phase : Phase) : Nat :=
  journal.entries.countP (·.phase == phase)

/-- Some entry reports an error. -/
def hasErrors (journal : Journal) : Bool :=
  0 < journal.count .error

end Journal

/-! ### Computations that leave entries -/

/-- A computation that gives a result and adds entries to a journal whose limit it is told. -/
def Traced (α : Type) := (limit : Nat) → α × List Entry

namespace Traced

instance : Monad Traced where
  pure a := fun _ => (a, [])
  bind x f := fun limit =>
    let (a, before) := x limit
    let (b, after) := f a limit
    (b, before ++ after)

instance {α : Type} [Inhabited α] : Inhabited (Traced α) := ⟨pure default⟩

/-- The result. -/
def result {α : Type} (limit : Nat) (x : Traced α) : α := (x limit).1

/-- The entries added. -/
def entries {α : Type} (limit : Nat) (x : Traced α) : List Entry := (x limit).2

@[simp] theorem result_pure {α : Type} (limit : Nat) (a : α) :
    (pure a : Traced α).result limit = a := rfl

@[simp] theorem entries_pure {α : Type} (limit : Nat) (a : α) :
    (pure a : Traced α).entries limit = [] := rfl

@[simp] theorem result_bind {α β : Type} (limit : Nat) (x : Traced α) (f : α → Traced β) :
    (x >>= f).result limit = (f (x.result limit)).result limit := rfl

@[simp] theorem entries_bind {α β : Type} (limit : Nat) (x : Traced α) (f : α → Traced β) :
    (x >>= f).entries limit = x.entries limit ++ (f (x.result limit)).entries limit := rfl

/-- Leave an entry. -/
def note (phase : Phase) (message : String) : Traced Unit := fun _ =>
  ((), [⟨phase, message, none⟩])

/-- Leave an entry with data. -/
def noteWith (phase : Phase) (message : String) (data : Json) : Traced Unit := fun limit =>
  ((), [⟨phase, message, some (Clip.data limit data)⟩])

/-- A text cut at the journal's limit. -/
def clipped (s : String) : Traced String := fun limit =>
  (Clip.text limit s, [])

/-- Run a computation on a journal. -/
def runOn {α : Type} (x : Traced α) (journal : Journal) : α × Journal :=
  let (a, added) := x journal.limit
  (a, { journal with entries := journal.entries ++ added })

end Traced

end PageMarkup
