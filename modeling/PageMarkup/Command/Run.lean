import PageMarkup.Command.Help
import PageMarkup.Config
import PageMarkup.HttpSite
import PageMarkup.Sync

/-!
# Running commands

A command works on files, on the variables of the environment and on a connection.  It prints something
and may report a journal; where it fails, it says why.
-/

namespace PageMarkup

namespace Command

/-- Where a command runs. -/
structure Surroundings where
  files : Folder
  /-- The folder that paths start from. -/
  here : Path
  environment : Environment
  deriving Repr, Inhabited

namespace Surroundings

/-- What is found at a path; a path that ends in a slash leads to a folder or nowhere. -/
def item? (place : Surroundings) (path : String) : Option Item :=
  match place.files.find? (Path.resolve place.here path) with
  | some .folder => some .folder
  | some item => if path.endsWith "/" then none else some item
  | none => none

end Surroundings

/-- What a command leaves. -/
structure Outcome where
  /-- Zero if the command succeeds. -/
  code : Nat
  output : String := ""
  /-- The journal, where it is reported. -/
  report : Option (List Entry) := none
  problem : Option String := none
  files : Folder
  deriving Repr, Inhabited

/-- A command that has succeeded without a change to any file. -/
def Outcome.printed (place : Surroundings) (output : String) (report : Option (List Entry) := none) :
    Outcome :=
  { code := 0, output, report, files := place.files }

/-- A command that has failed. -/
def Outcome.failed (place : Surroundings) (problem : String)
    (report : Option (List Entry) := none) : Outcome :=
  { code := 1, problem := some problem, report, files := place.files }

/-! ### Files -/

/-- Print the markup of a document file. -/
def compileFile (place : Surroundings) (file : String) (withJournal : Bool) : Outcome :=
  let source := match place.item? file with
    | some (.text content) => some (Document.read? content)
    | some .binary => some none
    | some .folder | none => none
  match source with
  | none => .failed place ("Failed to read " ++ file ++ ": ")
  | some none => .failed place (file ++ " is not a block document: ")
  | some (some doc) =>
    let (markup, entries) := doc.compile Journal.defaultLimit
    .printed place (markup ++ "\n") (if withJournal then some entries else none)

/-- Print the background rules of a stylesheet. -/
def printStyles (place : Surroundings) (file : String) : Outcome :=
  match place.item? file with
  | some (.text css) =>
    let rules := (Stylesheet.rules css.toList).map fun rule => Json.object rule.fields
    .printed place ((Json.array rules).pretty ++ "\n")
  | _ => .failed place ("Failed to read " ++ file ++ ": ")

/-! ### Sites -/

/-- The configuration, from a file that was named or from the usual place. -/
def configuration (place : Surroundings) (path : Option String) : Except String Config :=
  let path := path.getD (Config.defaultPath place.environment)
  match Config.load place.environment path (place.item? path) with
  | .error e => .error e.message
  | .ok none => .error ("No config file found; create one at " ++ path)
  | .ok (some config) => .ok config

/-- The site that a configuration describes. -/
def siteOf (place : Surroundings) (config : Config) : Except String HttpSite :=
  match config.site.credentials? place.environment with
  | .error e => .error e.message
  | .ok credentials => .ok (HttpSite.ofAddress config.site.baseUrl credentials)

/-- What is printed after a task. -/
def taskOutput (task : Sync.Task) (outcome : Sync.Outcome) : String :=
  match task, outcome with
  | .exporting id _ _, .exported done =>
    "Published " ++ id ++ " as " ++ done.published.type.name ++ " " ++ toString done.published.id
      ++ " (" ++ toString done.markupBytes ++ " bytes)\n"
  | _, _ => ""

variable {σ : Type}

/-- Move a page between the store and the site of the configuration. -/
def move (place : Surroundings) (connection : Http.Connection σ) (path : Option String)
    (task : Sync.Task) (state : σ) : Outcome × σ :=
  match (do
    let config ← configuration place path
    return (config, ← siteOf place config) : Except String (Config × HttpSite)) with
  | .error problem => (.failed place problem, state)
  | .ok (config, site) =>
    let shelf : Shelf := ⟨Path.resolve place.here config.storePath, config.storePath⟩
    match task.run (site.through connection) shelf.documents
        ⟨state, place.files, .start config.payloadLimit⟩ with
    | (.ok outcome, after) =>
      ({ code := 0, output := taskOutput task outcome, files := after.docs }, after.site)
    | (.error e, after) =>
      (.failed place e.message (some after.journal.entries), after.site)

/-! ### What a command looks at -/

/-- The file that a command reads first. -/
def firstFile? (environment : Environment) : Request → Option String
  | .run _ (.compile file _) | .run _ (.styles file) => some file
  | .run config _ => some (config.getD (Config.defaultPath environment))
  | _ => none

/-- The file of the document that a command moves, where there is a configuration. -/
def documentFile? (place : Surroundings) : Request → Option Path
  | .run config (.importPage id _ _ saveAs) => fileOf config (saveAs.getD (toString id))
  | .run config (.publishPage id _ _) => fileOf config id
  | _ => none
where
  /-- The file of the document with an id. -/
  fileOf (path : Option String) (id : String) : Option Path :=
    match configuration place path, PageId.path id with
    | .ok config, .ok file => some (Path.resolve place.here config.storePath ++ file)
    | _, _ => none

/-! ### All together -/

/-- Do what a command says. -/
def run (place : Surroundings) (connection : Http.Connection σ) (config : Option String)
    (state : σ) : Command → Outcome × σ
  | .compile file withJournal => (compileFile place file withJournal, state)
  | .styles file => (printStyles place file, state)
  | .importPage id url isPost saveAs =>
    let page : RemotePage := ⟨id, if isPost then .post else .page, url⟩
    move place connection config (.importing page (saveAs.getD (toString id))) state
  | .publishPage id title remoteId =>
    move place connection config (.exporting id remoteId title) state

/-- Answer the arguments of the command line. -/
def answer (place : Surroundings) (connection : Http.Connection σ) (arguments : List String)
    (state : σ) : Outcome × σ :=
  match read arguments with
  | .run config command => run place connection config state command
  | .help (some verb) => (.printed place (Help.ofVerb verb), state)
  | .help none => (.printed place Help.overview, state)
  | .helpOnHelp => (.printed place Help.onHelp, state)
  | .version => (.printed place (versionLine ++ "\n"), state)
  | .misuse => ({ code := 2, files := place.files }, state)

end Command

end PageMarkup
