import PageMarkup.Text.Alphanumeric
import PageMarkup.Text.Scan

/-!
# Paths that refer to their surroundings

A path may begin with a tilde for the home folder and may refer to variables of the environment as
`$NAME`, as a name in braces, or as a name in braces with a default.  A doubled dollar sign is a dollar
sign.  Where a variable is missing and has no default the whole path stays as it is written.
-/

namespace PageMarkup

/-- The variables of an environment with their values. -/
abbrev Environment := List (String × String)

namespace Expansion

open Text

/-- What a dollar sign begins. -/
inductive Reference where
  /-- A text that refers to nothing. -/
  | plain (text : List Char)
  /-- A variable, with a default or none. -/
  | variable (name : List Char) (default : Option (List Char))
  deriving DecidableEq, Repr, Inhabited

/-- What stands in braces: a name, and a default after `:-`; without a name there is no default. -/
def bracedOf (inside : List Char) : Reference :=
  match splitAt? [':', '-'] inside with
  | some (name, default) =>
    if name.isEmpty then .variable inside none else .variable name (some default)
  | none => .variable inside none

/-- A character of the name of a variable. -/
def isNameChar (c : Char) : Bool :=
  isAlphanumeric c || c == '_'

/-- What a dollar sign begins. -/
def readReference : Reader Reference
  | '$' :: '\x7b' :: cs =>
    match splitAt? ['\x7d'] cs with
    | some (inside, rest) => some (bracedOf inside, rest)
    | none => some (.plain ['$', '\x7b'], cs)
  | '$' :: '$' :: cs => some (.plain ['$'], cs)
  | '$' :: cs =>
    let (name, rest) := spanWhile isNameChar cs
    if name.isEmpty then some (.plain ['$'], cs) else some (.variable name none, rest)
  | _ => none

/-- The text that a part of a path stands for, which is its default where a variable is missing that
has one; none where it has none.  A variable with an empty value is not missing. -/
def partValue? (environment : Environment) : Piece Reference → Option (List Char)
  | .char c => some [c]
  | .found (.plain text) _ => some text
  | .found (.variable name default) _ =>
    ((environment.lookup (String.ofList name)).map String.toList).or default

/-- A path with its variables replaced; none where one is missing. -/
def variables? (environment : Environment) (path : List Char) : Option (List Char) :=
  ((scan readReference path).mapM (partValue? environment)).map List.flatten

/-- The names of the variables in a path. -/
def names (path : List Char) : List String :=
  (findAll readReference path).filterMap fun reference =>
    match reference with
    | .plain _ => none
    | .variable name _ => some (String.ofList name)

/-- A path with the home folder in place of a tilde. -/
def tilde (environment : Environment) (path : List Char) : List Char :=
  match path, environment.lookup "HOME" with
  | ['~'], some home => home.toList
  | '~' :: '/' :: rest, some home => home.toList ++ '/' :: rest
  | _, _ => path

/-- A path as it is meant.  A tilde counts only where the path was written with one. -/
def expand (environment : Environment) (path : String) : String :=
  let written := path.toList
  match variables? environment written with
  | none => path
  | some meant =>
    String.ofList (if written.head? = some '~' then tilde environment meant else meant)

end Expansion

end PageMarkup
