import PageMarkup.Expansion
import PageMarkup.Folder
import PageMarkup.Toml.Reader

/-!
# Configuration

A TOML file says where documents are stored, how much of long data the journal keeps, and which
site pages are published to.  The password is not in the file; the file names a variable of the
environment that holds it.
-/

namespace PageMarkup

/-- How to reach the site. -/
structure SiteConfig where
  baseUrl : String
  username : Option String := none
  /-- The variable that holds the password. -/
  passwordVariable : Option String := none
  /-- The number of seconds to wait for an answer. -/
  timeout : Nat := 20
  deriving DecidableEq, Repr, Inhabited

/-- The content of a configuration file. -/
structure Config where
  storePath : String
  /-- The limit of the journal. -/
  payloadLimit : Nat := 512
  site : SiteConfig
  deriving DecidableEq, Repr, Inhabited

/-- Why there is no usable configuration. -/
inductive ConfigError where
  /-- The file at a path cannot be read as text. -/
  | unreadable (path : String)
  /-- The file at a path does not hold a configuration. -/
  | malformed (path : String)
  /-- The variable for the password is missing or empty. -/
  | missingPassword (name : String)
  deriving DecidableEq, Repr, Inhabited

/-- The text of an error, as far as the configuration words it. -/
def ConfigError.message : ConfigError → String
  | unreadable path => "Failed to read config file at " ++ path ++ ": "
  | malformed path => "Failed to parse config file at " ++ path ++ ": "
  | missingPassword name =>
    "Environment variable " ++ name ++ " holding the application password is not set"

namespace Toml

/-- The text of a field. -/
def text? : Toml → Option String
  | text value => some value
  | _ => none

/-- The value of a field, if it is a number of 64 bits without a sign. -/
def unsigned64? : Toml → Option Nat
  | integer (.ofNat n) => if n < 2 ^ 64 then some n else none
  | _ => none

/-- The value that `read` finds in a field that may be missing; none where it finds none. -/
def optional? {α : Type} (read : Toml → Option α) : Option Toml → Option (Option α)
  | none => some none
  | some value => (read value).map some

end Toml

namespace SiteConfig

/-- The field names, in the order in which the fields are written. -/
def fieldNames : List String :=
  ["base_url", "username", "app_password_env", "timeout_secs"]

/-- The site that some values describe, given in the order of the field names. -/
def ofValues? : List (Option Toml) → Option SiteConfig
  | baseUrl :: username :: passwordVariable :: timeout :: _ => do
    return {
      baseUrl := ← (← baseUrl).text?
      username := ← Toml.optional? Toml.text? username
      passwordVariable := ← Toml.optional? Toml.text? passwordVariable
      timeout := (← Toml.optional? Toml.unsigned64? timeout).getD 20 }
  | _ => none

/-- The site that a value describes: a table, or an array with the fields in order, of which the last
may be missing.  Other fields of a table are only looked at for numbers out of reach, and further
items of an array not at all. -/
def ofToml? : Toml → Option SiteConfig
  | .table _ fields =>
    if Toml.fieldsInReach fields then ofValues? (fieldNames.map (Dict.get? · fields)) else none
  | .array items => ofValues? (items.map some ++ List.replicate fieldNames.length none)
  | _ => none

/-- The name and the password to log in with, if the file names both. -/
def credentials? (environment : Environment) (site : SiteConfig) :
    Except ConfigError (Option (String × String)) :=
  match site.username, site.passwordVariable with
  | some username, some name =>
    match environment.lookup name with
    | some password =>
      if password.isEmpty then .error (.missingPassword name) else .ok (some (username, password))
    | none => .error (.missingPassword name)
  | _, _ => .ok none

end SiteConfig

namespace Config

/-- The configuration that a table describes.  Its other fields are only looked at for numbers out of
reach. -/
def ofToml? (fields : Toml.Fields) : Option Config := do
  if !Toml.fieldsInReach (Dict.erase "site" fields) then none
  return {
    storePath := ← (← Dict.get? "store_path" fields).text?
    payloadLimit := (← Toml.optional? Toml.unsigned64? (Dict.get? "log_payload_limit" fields)).getD 512
    site := ← SiteConfig.ofToml? (← Dict.get? "site" fields) }

/-- The configuration that a text spells, with its path as it is meant. -/
def read? (environment : Environment) (source : String) : Option Config := do
  let config ← ofToml? (← Toml.read? source)
  some { config with storePath := Expansion.expand environment config.storePath }

/-- The configuration in what is found at a path; without a file there is none. -/
def load (environment : Environment) (path : String) :
    Option Item → Except ConfigError (Option Config)
  | none => .ok none
  | some .folder | some .binary => .error (.unreadable path)
  | some (.text source) =>
    match read? environment source with
    | some config => .ok (some config)
    | none => .error (.malformed path)

/-- A field on a line of its own. -/
def fieldLine (name : String) (value : List Char) : List Char :=
  name.toList ++ " = ".toList ++ value ++ ['\n']

/-- The text of a configuration. -/
def print (config : Config) : String :=
  String.ofList <|
    fieldLine "store_path" (Toml.string config.storePath)
    ++ fieldLine "log_payload_limit" (Nat.toDigits 10 config.payloadLimit)
    ++ "\n[site]\n".toList
    ++ fieldLine "base_url" (Toml.string config.site.baseUrl)
    ++ optionalLine "username" config.site.username
    ++ optionalLine "app_password_env" config.site.passwordVariable
    ++ fieldLine "timeout_secs" (Nat.toDigits 10 config.site.timeout)
where
  /-- A field that may be missing. -/
  optionalLine (name : String) : Option String → List Char
    | none => []
    | some value => fieldLine name (Toml.string value)

/-- The variables of the environment that a configuration file refers to. -/
def mentioned (source : String) : List String :=
  match (Toml.read? source).bind ofToml? with
  | none => []
  | some config =>
    Expansion.names config.storePath.toList ++ config.site.passwordVariable.toList

/-- Where the configuration is looked for if no place is given. -/
def defaultPath (environment : Environment) : String :=
  String.ofList (Expansion.tilde environment "~/.config/pagebridge".toList) ++ "/config.toml"

end Config

end PageMarkup
