import PageMarkup.Command

/-!
# Help on the command line

Help says what a command does, shows how it is written, and lists its arguments and options in two
columns.
-/

namespace PageMarkup

namespace Command

/-- The name under which the program is called. -/
def programName : String := "pagebridge"

/-- The program and its version. -/
def versionLine : String := programName ++ " 0.1.0"

namespace Help

/-- An entry in two columns. -/
structure Row where
  left : String
  right : String
  deriving DecidableEq, Repr, Inhabited

/-- Rows under a heading, with the right column two places behind the longest entry on the left. -/
def rows (heading : String) (rows : List Row) : String :=
  let width := (rows.map fun row => row.left.length).foldl max 0
  heading ++ ":\n" ++ String.join (rows.map fun row =>
    "  " ++ row.left ++ String.ofList (List.replicate (width + 2 - row.left.length) ' ') ++ row.right
      ++ "\n")

/-- A placeholder as it stands for a value. -/
def shown (placeholder : String) : String :=
  "<" ++ placeholder ++ ">"

/-- An option with what it takes. -/
def usage (flag : Flag) : String :=
  "--" ++ flag.name ++
    match flag.parameter with
    | some parameter => " " ++ shown parameter.placeholder
    | none => ""

/-- The row of an option. -/
def flagRow (flag : Flag) : Row := ⟨"    " ++ usage flag, flag.about⟩

/-- The row of the option that asks for help. -/
def helpRow : Row := ⟨"-h, --help", "Print help"⟩

/-- The options of a verb, in the order in which help lists them: an option that comes first, and
the one for the configuration, stand at the front in the order of their names. -/
def ordered : List Flag → List Flag
  | [] => [configFlag]
  | flag :: flags =>
    if flag.name < configFlag.name then flag :: configFlag :: flags else configFlag :: flag :: flags

/-- Help about a verb. -/
def ofVerb (verb : Verb) : String :=
  let required := verb.flags.filter (·.isRequired)
  let argument := shown verb.argument.placeholder
  verb.about ++ "\n\nUsage: " ++ programName ++ " " ++ verb.name ++ " [OPTIONS] "
    ++ String.join (required.map fun flag => usage flag ++ " ") ++ argument ++ "\n\n"
    ++ rows "Arguments" [⟨argument, ""⟩] ++ "\n"
    ++ rows "Options" ((ordered verb.flags).map flagRow ++ [helpRow])

/-- The row of the word `help`. -/
def helpVerbRow : Row := ⟨"help", "Print this message or the help of the given subcommand(s)"⟩

/-- Help about the program. -/
def overview : String :=
  "Move pages between a block editor and theme shortcode markup\n\nUsage: " ++ programName
    ++ " [OPTIONS] <COMMAND>\n\n"
    ++ rows "Commands" ((Verb.all.map fun verb => ⟨verb.name, verb.about⟩) ++ [helpVerbRow]) ++ "\n"
    ++ rows "Options" [flagRow configFlag, helpRow, ⟨"-V, --version", "Print version"⟩]

/-- Help about the word `help`. -/
def onHelp : String :=
  helpVerbRow.right ++ "\n\nUsage: " ++ programName ++ " help [COMMAND]...\n\n"
    ++ rows "Arguments" [⟨"[COMMAND]...", "Print help for the subcommand(s)"⟩]

end Help

end Command

end PageMarkup
