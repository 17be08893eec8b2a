import PageMarkup.Text.Basic

/-!
# The command line

The program does one of four things, each a verb with an argument and options.  Options begin with two
hyphens and may stand anywhere after the verb; the option that names the configuration file may also
stand before it.  Arguments are read from the left, and the first that does not fit ends the reading,
as does a question for help.
-/

namespace PageMarkup

open Text

/-- What the program is asked to do. -/
inductive Command where
  /-- Print the markup of a document file, and perhaps the journal. -/
  | compile (file : String) (withJournal : Bool)
  /-- Print the background rules of a stylesheet. -/
  | styles (file : String)
  /-- Store what a remote page holds. -/
  | importPage (id : Nat) (url : Option String) (isPost : Bool) (saveAs : Option String)
  /-- Publish a stored page. -/
  | publishPage (id : String) (title : String) (remoteId : Option Nat)
  deriving DecidableEq, Repr, Inhabited

namespace Command

/-! ### The grammar -/

/-- Which texts an argument can be. -/
inductive Shape where
  | anything
  /-- A path, which is not empty. -/
  | path
  /-- A whole number of 64 bits. -/
  | number
  deriving DecidableEq, Repr, Inhabited

/-- The number that a text spells in decimal digits, perhaps after a plus sign. -/
def number? (text : String) : Option Nat :=
  let digits := match text.toList with
    | '+' :: digits => digits
    | digits => digits
  let value := digits.foldl (fun value c => value * 10 + (c.toNat - '0'.toNat)) 0
  if !digits.isEmpty && digits.all isAsciiDigit && value < UInt64.size then some value else none

/-- The text has the shape. -/
def Shape.fits : Shape → String → Bool
  | anything, _ => true
  | path, text => !text.isEmpty
  | number, text => (number? text).isSome

/-- A value that an argument gives. -/
structure Parameter where
  /-- What stands for the value in the help. -/
  placeholder : String
  shape : Shape
  deriving DecidableEq, Repr, Inhabited

/-- An option. -/
structure Flag where
  name : String
  /-- The value that the option takes, if it takes one. -/
  parameter : Option Parameter := none
  isRequired : Bool := false
  about : String := ""
  deriving DecidableEq, Repr, Inhabited

/-- The option that names the configuration file. -/
def configFlag : Flag where
  name := "config"
  parameter := some ⟨"CONFIG", .path⟩
  about := "Config file to use instead of ~/.config/pagebridge/config.toml"

/-- The word that names a command. -/
inductive Verb where
  | compile
  | styles
  | importPage
  | publishPage
  deriving DecidableEq, Repr, Inhabited

namespace Verb

/-- All verbs. -/
def all : List Verb := [compile, styles, importPage, publishPage]

/-- The name of a verb. -/
def name : Verb → String
  | compile => "compile"
  | styles => "styles"
  | importPage => "import"
  | publishPage => "publish"

/-- The verb with a name. -/
def ofName? (name : String) : Option Verb :=
  all.find? (·.name == name)

/-- What a verb does. -/
def about : Verb → String
  | compile => "Compile a stored document JSON file and print the markup"
  | styles => "Print the background rules found in a stylesheet as JSON"
  | importPage => "Fetch a remote page and save it to the local store"
  | publishPage => "Compile a stored page and publish it to the remote site"

/-- The argument of a verb. -/
def argument : Verb → Parameter
  | compile => ⟨"DOCUMENT", .path⟩
  | styles => ⟨"STYLESHEET", .path⟩
  | importPage => ⟨"PAGE_ID", .number⟩
  | publishPage => ⟨"PAGE_ID", .anything⟩

/-- The options of a verb. -/
def flags : Verb → List Flag
  | compile => [{ name := "log", about := "Print the diagnostics report to stderr" }]
  | styles => []
  | importPage => [
    { name := "url", parameter := some ⟨"URL", .anything⟩
      about := "Public URL of the page, for the scrape fallback" },
    { name := "post", about := "The page is a post rather than a page" },
    { name := "save-as", parameter := some ⟨"SAVE_AS", .anything⟩
      about := "Local id to store under; defaults to the remote id" }]
  | publishPage => [
    { name := "title", parameter := some ⟨"TITLE", .anything⟩, isRequired := true },
    { name := "remote-id", parameter := some ⟨"REMOTE_ID", .number⟩
      about := "Remote page to update; a new page is created when absent" }]

end Verb

/-! ### Reading -/

/-- What reading the arguments leads to. -/
inductive Request where
  /-- Do something, perhaps with another configuration file. -/
  | run (config : Option String) (command : Command)
  /-- Print help about a verb or about all. -/
  | help (verb : Option Verb)
  /-- Print help about asking for help. -/
  | helpOnHelp
  /-- Print the version. -/
  | version
  /-- The arguments do not fit. -/
  | misuse
  deriving DecidableEq, Repr, Inhabited

/-- The arguments read so far. -/
structure Given where
  /-- The options with their values, if they take one. -/
  flags : List (String × Option String) := []
  argument : Option String := none
  deriving DecidableEq, Repr, Inhabited

/-- How an argument begins. -/
inductive Start where
  /-- The two hyphens after which nothing is an option. -/
  | divider
  /-- An option, with the value that follows an equals sign. -/
  | flag (name : String) (value : Option String)
  /-- An option of one letter, or several of them. -/
  | letters (letters : List Char)
  | plain
  deriving DecidableEq, Repr, Inhabited

/-- How an argument begins; a single hyphen is no option. -/
def Start.of (argument : String) : Start :=
  match argument.toList with
  | ['-', '-'] => .divider
  | '-' :: '-' :: cs =>
    match splitAt? ['='] cs with
    | some (name, value) => .flag (String.ofList name) (some (String.ofList value))
    | none => .flag (String.ofList cs) none
  | '-' :: c :: cs => .letters (c :: cs)
  | _ => .plain

/-- Take an option with its value, which follows an equals sign or is the next argument.  An option
counts once, and a value that is an argument of its own does not look like an option. -/
def take? (flags : List Flag) (name : String) (value : Option String) (rest : List String)
    (given : Given) : Option (Given × List String) := do
  let flag ← flags.find? (·.name == name)
  if (given.flags.lookup name).isSome then none
  match flag.parameter, value, rest with
  | none, none, _ => some ({ given with flags := given.flags ++ [(name, none)] }, rest)
  | none, some _, _ => none
  | some parameter, some value, _ => takeValue parameter value rest
  | some _, none, [] => none
  | some parameter, none, value :: rest =>
    if Start.of value = .plain then takeValue parameter value rest else none
where
  takeValue (parameter : Parameter) (value : String) (rest : List String) :
      Option (Given × List String) :=
    if parameter.shape.fits value then
      some ({ given with flags := given.flags ++ [(name, some value)] }, rest)
    else none

/-- Take the argument of a verb, of which there is one. -/
def takeArgument? (verb : Verb) (argument : String) (given : Given) : Option Given :=
  if given.argument.isNone && verb.argument.shape.fits argument then
    some { given with argument := some argument }
  else none

/-- Read arguments none of which is an option. -/
def readPlain (verb : Verb) : List String → Given → Option Given
  | [], given => some given
  | argument :: rest, given => do readPlain verb rest (← takeArgument? verb argument given)

/-- Read the arguments after a verb, at most `most`; none where they ask for help. -/
def readVerb (verb : Verb) : (most : Nat) → List String → Given → Except Request Given
  | _, [], given => .ok given
  | 0, _, _ => .error .misuse
  | most + 1, argument :: rest, given =>
    match Start.of argument with
    | .divider => ((readPlain verb rest given).map .ok).getD (.error .misuse)
    | .letters ('h' :: _) => .error (.help (some verb))
    | .letters _ => .error .misuse
    | .flag "help" none => .error (.help (some verb))
    | .flag name value =>
      match take? (configFlag :: verb.flags) name value rest given with
      | some (given, rest) => readVerb verb most rest given
      | none => .error .misuse
    | .plain =>
      match takeArgument? verb argument given with
      | some given => readVerb verb most rest given
      | none => .error .misuse

/-- The value of an option. -/
def Given.value? (given : Given) (name : String) : Option String :=
  (given.flags.lookup name).bind id

/-- The option was given. -/
def Given.has (given : Given) (name : String) : Bool :=
  (given.flags.lookup name).isSome

/-- The command that the arguments after a verb give; none where something required is missing. -/
def ofGiven? (verb : Verb) (given : Given) : Option Command := do
  let argument ← given.argument
  match verb with
  | .compile => some (.compile argument (given.has "log"))
  | .styles => some (.styles argument)
  | .importPage =>
    some (.importPage (← number? argument) (given.value? "url") (given.has "post")
      (given.value? "save-as"))
  | .publishPage =>
    some (.publishPage argument (← given.value? "title") ((given.value? "remote-id").bind number?))

/-- What is asked for after the word `help`. -/
def readHelp : List String → Request
  | [] => .help none
  | ["help"] => .helpOnHelp
  | [name] =>
    match Verb.ofName? name with
    | some verb => .help (some verb)
    | none => .misuse
  | _ => .misuse

/-- Read a verb and what follows it.  A configuration file named after the verb counts before one
named in front of it. -/
def readNamed (config : Option String) (name : String) (rest : List String) : Request :=
  if name = "help" then readHelp rest
  else
    match Verb.ofName? name with
    | none => .misuse
    | some verb =>
      match readVerb verb rest.length rest {} with
      | .error request => request
      | .ok given =>
        match ofGiven? verb given with
        | some command => .run ((given.value? "config").or config) command
        | none => .misuse

/-- Read the arguments up to the verb, at most `most`, and then the others. -/
def readFrom : (most : Nat) → List String → Given → Request
  | _, [], _ => .misuse
  | 0, _, _ => .misuse
  | most + 1, argument :: rest, given =>
    match Start.of argument with
    | .letters ('h' :: _) | .flag "help" none => .help none
    | .letters ('V' :: _) | .flag "version" none => .version
    | .flag name value =>
      match take? [configFlag] name value rest given with
      | some (given, rest) => readFrom most rest given
      | none => .misuse
    | .plain => readNamed (given.value? "config") argument rest
    | _ => .misuse

/-- What the arguments ask for. -/
def read (arguments : List String) : Request :=
  readFrom arguments.length arguments {}

end Command

end PageMarkup
