import PageMarkup.Document.Json
import PageMarkup.Folder

/-!
# Stored documents

Documents are kept by page id.  A folder keeps each in a file that is named for the id.  An id may
group pages in folders, but since it consists of letters, digits, hyphens, underscores and slashes,
it never leads out of the root.
-/

namespace PageMarkup

/-- Why a document was not loaded or not saved. -/
inductive StoreError where
  /-- No document was stored. -/
  | notFound (id : String)
  /-- The id names no file. -/
  | invalidId (id : String)
  /-- The file cannot be read or written. -/
  | inaccessible
  /-- The file at a path does not hold a document. -/
  | corrupt (path : String)
  deriving DecidableEq, Repr, Inhabited

/-- The text of an error, as far as the store words it. -/
def StoreError.message : StoreError → String
  | notFound id => "No stored document for page '" ++ id ++ "'"
  | invalidId id => "Invalid page id: '" ++ id ++ "'"
  | inaccessible => "IO error: "
  | corrupt path => "Stored document " ++ path ++ " is not valid JSON: "

/-- A place where documents are kept, in each of its states. -/
structure Store (κ : Type) where
  load : String → κ → Except StoreError Document
  save : String → Document → κ → Except StoreError κ

/-! ### Files of documents -/

namespace PageId

/-- The characters of an id. -/
def isLegal (c : Char) : Bool :=
  c.isAlphanum || c == '-' || c == '_' || c == '/'

/-- An id that names a file. -/
def isValid (id : String) : Bool :=
  !id.isEmpty && id.toList.head? != some '/' && id.toList.all isLegal

/-- The path of the file that an id names. -/
def path (id : String) : Except StoreError Path :=
  if isValid id then .ok (Path.ofText (id ++ ".json")) else .error (.invalidId id)

end PageId

/-- The folder that documents are kept in. -/
structure Shelf where
  /-- Where the folder is. -/
  root : Path := []
  /-- How its path is written. -/
  label : String := ""
  deriving DecidableEq, Repr, Inhabited

namespace Shelf

/-- How the path of a file in the folder is written. -/
def labelOf (shelf : Shelf) (path : Path) : String :=
  if shelf.label.isEmpty || shelf.label.endsWith "/" then shelf.label ++ path.text
  else shelf.label ++ "/" ++ path.text

/-- The document with an id. -/
def load (shelf : Shelf) (id : String) (folder : Folder) : Except StoreError Document := do
  let path ← PageId.path id
  match folder.find? (shelf.root ++ path) with
  | none => throw (.notFound id)
  | some .folder | some .binary => throw .inaccessible
  | some (.text content) =>
    match Document.read? content with
    | some doc => return doc
    | none => throw (.corrupt (shelf.labelOf path))

/-- Keep a document under an id. -/
def save (shelf : Shelf) (id : String) (doc : Document) (folder : Folder) :
    Except StoreError Folder := do
  match folder.write? (shelf.root ++ (← PageId.path id)) doc.print with
  | some folder => return folder
  | none => throw .inaccessible

/-- The store of the documents in a folder. -/
def documents (shelf : Shelf) : Store Folder := ⟨shelf.load, shelf.save⟩

end Shelf

end PageMarkup
