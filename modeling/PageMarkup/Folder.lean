import PageMarkup.Dict
import PageMarkup.Text.Basic

/-!
# Folders of files

A folder holds what can be found below a root: a path, written with slashes, leads to a file or to
another folder.  A file cannot be written through another file or in the place of a folder, nor
under a name that is too long; whatever folders its path needs are made.
-/

namespace PageMarkup

/-- What a path leads to. -/
inductive Item where
  | folder
  /-- A file of text. -/
  | text (content : String)
  /-- A file whose bytes are no text. -/
  | binary
  deriving DecidableEq, Repr, Inhabited

/-- The file that holds some bytes. -/
def Item.ofBytes (bytes : ByteArray) : Item :=
  match String.fromUTF8? bytes with
  | some content => text content
  | none => binary

/-- The names of folders, from the root, and last the name of what is in them. -/
abbrev Path := List String

namespace Path

/-- The names that a text with slashes spells; empty names are dropped. -/
def ofText (text : String) : Path :=
  ((Text.splitWhere (· == '/') text.toList).filter (!·.isEmpty)).map String.ofList

/-- The path that a text means in a folder, where a text that begins with a slash starts from the
root.  A single point stays where it is, and two points lead one folder up. -/
def resolve (here : Path) (text : String) : Path :=
  let start := if text.startsWith "/" then [] else here
  (ofText text).foldl (fun path name =>
    if name = "." then path else if name = ".." then path.dropLast else path ++ [name]) start

/-- A path with slashes between its names. -/
def text (path : Path) : String :=
  "/".intercalate path

/-- The folders that a path goes through, the outermost first. -/
def above : Path → List Path
  | [] | [_] => []
  | name :: names => [name] :: (above names).map (name :: ·)

/-- The number of bytes that a name can have. -/
def greatestName : Nat := 255

/-- The number of bytes that a path can have. -/
def greatestSize : Nat := 4095

/-- No name is too long, nor the whole. -/
def fits (path : Path) : Bool :=
  path.all (·.utf8ByteSize ≤ greatestName) && path.text.utf8ByteSize ≤ greatestSize

end Path

/-- What is below a root, in the order of the paths. -/
abbrev Folder := List (String × Item)

namespace Folder

/-- What a path leads to; without names it leads to the root. -/
def find? (path : Path) (folder : Folder) : Option Item :=
  if path.isEmpty then some .folder else Dict.get? path.text folder

/-- Some folder that a path goes through is a file. -/
def isBlocked (path : Path) (folder : Folder) : Bool :=
  path.above.any fun outer =>
    match folder.find? outer with
    | none | some .folder => false
    | some _ => true

/-- Put something at a path, with the folders that it needs. -/
def place (path : Path) (item : Item) (folder : Folder) : Folder :=
  Dict.insert path.text item
    (path.above.foldl (fun outer names => Dict.insert names.text .folder outer) folder)

/-- Write a file of text; none where that cannot be done. -/
def write? (path : Path) (content : String) (folder : Folder) : Option Folder :=
  if !path.fits || folder.isBlocked path || folder.find? path = some .folder then none
  else some (folder.place path (.text content))

/-- The text of the file at a path. -/
def text? (path : Path) (folder : Folder) : Option String :=
  match folder.find? path with
  | some (.text content) => some content
  | _ => none

/-- The paths of the files. -/
def files (folder : Folder) : List String :=
  (folder.filter fun entry => entry.2 ≠ .folder).map Prod.fst

/-- The texts that differ from those of a folder before, with their paths. -/
def changes (before after : Folder) : List (String × String) :=
  after.filterMap fun (path, item) =>
    match item with
    | .text content =>
      if Dict.get? path before = some (.text content) then none else some (path, content)
    | _ => none

/-- What was put at a path is there. -/
@[simp] theorem find?_place_self {path : Path} (hpath : path ≠ []) (item : Item)
    (folder : Folder) : (folder.place path item).find? path = some item := by
  simp [find?, place, hpath]

end Folder

end PageMarkup
