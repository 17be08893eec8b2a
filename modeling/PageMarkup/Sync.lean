import PageMarkup.Compile
import PageMarkup.Import
import PageMarkup.Source
import PageMarkup.Store

/-!
# Pages to a site and back

An export publishes the markup of a stored document.  An import stores the document that the content
of a remote page names.  Either starts the journal afresh, and changes nothing that is stored unless
it succeeds.
-/

namespace PageMarkup

open Text

namespace Sync

/-- Why a page did not get to its other side. -/
inductive Error where
  | source (error : Exhausted)
  | store (error : StoreError)
  | publish (error : PublishError)
  deriving DecidableEq, Repr, Inhabited

/-- The text of an error. -/
def Error.message : Error → String
  | source error => error.message
  | store error => error.message
  | publish error => error.message

/-- What an export has done. -/
structure Exported where
  published : Published
  markupBytes : Nat
  deriving DecidableEq, Repr, Inhabited

/-- What an import has done. -/
structure Imported where
  strategy : Strategy
  isMarkup : Bool
  nodeCount : Nat
  deriving DecidableEq, Repr, Inhabited

variable {σ κ : Type}

/-- Publish the document that is stored under an id. -/
def exportPage (site : Site σ) (store : Store κ) (docs : κ) (id : String) (remoteId : Option Nat)
    (title : String) : StateT σ Traced (Except Error Exported) := do
  match store.load id docs with
  | .error e =>
    Traced.note .error ("Cannot load page " ++ id ++ ": " ++ e.message)
    return .error (.store e)
  | .ok doc =>
    let markup ← doc.compile
    match ← modifyGet (site.publish remoteId title markup) with
    | .error e =>
      Traced.note .error ("Publishing page " ++ id ++ " failed: " ++ e.message)
      return .error (.publish e)
    | .ok published =>
      let bytes := size markup.toList
      Traced.noteWith .success
        ("Published page " ++ id ++ " as " ++ published.type.name ++ " " ++ toString published.id) <|
        Json.ofFields [("id", .int published.id), ("post_type", .text published.type.name),
          ("bytes", .int bytes)]
      return .ok ⟨published, bytes⟩

/-- Store under an id what a remote page holds; with what was done come the documents as they are
then stored. -/
def importPage (site : Site σ) (store : Store κ) (docs : κ) (page : RemotePage) (id : String) :
    StateT σ Traced (Except Error (Imported × κ)) := do
  match ← Source.resolve site page with
  | .error e => return .error (.source e)
  | .ok source =>
    let doc ← Import.pageAs source.isMarkup source.content
    match store.save id doc docs with
    | .error e =>
      Traced.note .error ("Cannot save page " ++ id ++ ": " ++ e.message)
      return .error (.store e)
    | .ok docs => return .ok (⟨source.strategy, source.isMarkup, doc.nodes.length⟩, docs)

/-! ### Runs -/

/-- One page to be moved. -/
inductive Task where
  | exporting (id : String) (remoteId : Option Nat) (title : String)
  | importing (page : RemotePage) (id : String)
  deriving DecidableEq, Repr, Inhabited

/-- What a task has done. -/
inductive Outcome where
  | exported (outcome : Exported)
  | imported (outcome : Imported)
  deriving DecidableEq, Repr, Inhabited

/-- What tasks change. -/
structure State (σ κ : Type) where
  site : σ
  docs : κ
  journal : Journal

/-- Run a task, with a journal of its own. -/
def Task.run (site : Site σ) (store : Store κ) (task : Task) (state : State σ κ) :
    Except Error Outcome × State σ κ :=
  let journal := state.journal.reset
  match task with
  | .exporting id remoteId title =>
    let ((answer, remote), journal) :=
      ((exportPage site store state.docs id remoteId title).run state.site).runOn journal
    (answer.map .exported, ⟨remote, state.docs, journal⟩)
  | .importing page id =>
    let ((answer, remote), journal) :=
      ((importPage site store state.docs page id).run state.site).runOn journal
    match answer with
    | .error e => (.error e, ⟨remote, state.docs, journal⟩)
    | .ok (imported, docs) => (.ok (.imported imported), ⟨remote, docs, journal⟩)

end Sync

end PageMarkup
