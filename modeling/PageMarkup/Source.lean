import PageMarkup.Journal
import PageMarkup.Markup.Reader
import PageMarkup.Site

/-!
# The content of a remote page

The strategies of a site are tried in order, and the first answer that is not blank is the content
of the page.  The journal has an entry for each attempt.
-/

namespace PageMarkup

open Text

/-- Content of a remote page, with the strategy that brought it. -/
structure Source where
  content : String
  strategy : Strategy
  deriving DecidableEq, Repr, Inhabited

/-- No strategy brought the content of a page. -/
structure Exhausted where
  page : Nat
  deriving DecidableEq, Repr, Inhabited

/-- The text of the error. -/
def Exhausted.message (error : Exhausted) : String :=
  "cannot sync page " ++ toString error.page ++ ": no acquisition strategy returned content"

namespace Source

/-- The content is markup of the theme. -/
def isMarkup (source : Source) : Bool :=
  Markup.isSpokenIn source.content.toList

/-- An answer counts as content only if it is not blank. -/
def accept (answer : Except Failure String) : Except Failure String :=
  match answer with
  | .ok content =>
    if allBlank content.toList then .error (.malformed "empty content") else .ok content
  | .error failure => .error failure

/-- The entry of an attempt. -/
def noteAttempt (strategy : Strategy) : Except Failure String → Traced Unit
  | .ok content =>
    let bytes := size content.toList
    Traced.noteWith .source (strategy.name ++ " returned " ++ toString bytes ++ " bytes") <|
      Json.ofFields [("strategy", .text strategy.name), ("ok", .bool true), ("bytes", .int bytes)]
  | .error failure =>
    Traced.noteWith .source (strategy.name ++ " failed: " ++ failure.message) <|
      Json.ofFields [("strategy", .text strategy.name), ("ok", .bool false),
        ("error", .text failure.message)]

/-- The content that the first of some strategies brings. -/
def first? {σ : Type} (site : Site σ) (page : RemotePage) :
    List Strategy → StateT σ Traced (Option Source)
  | [] => return none
  | strategy :: strategies => do
    let answer ← modifyGet (site.fetch strategy page)
    noteAttempt strategy (accept answer)
    match accept answer with
    | .ok content => return some ⟨content, strategy⟩
    | .error _ => first? site page strategies

/-- The content of a page. -/
def resolve {σ : Type} (site : Site σ) (page : RemotePage) :
    StateT σ Traced (Except Exhausted Source) := do
  Traced.note .init ("Resolving source for " ++ page.type.name ++ " " ++ toString page.id)
  match ← first? site page Strategy.all with
  | some source =>
    Traced.noteWith .parse
      ("Using " ++ source.strategy.name ++ " source for page " ++ toString page.id
        ++ " (dialect markup: " ++ (if source.isMarkup then "yes" else "no") ++ ")") <|
      Json.ofFields [
        ("strategy", .text source.strategy.name),
        ("bytes", .int (size source.content.toList)),
        ("has_dialect_markup", .bool source.isMarkup)]
    return .ok source
  | none =>
    Traced.note .error ("All acquisition strategies failed for page " ++ toString page.id)
    return .error ⟨page.id⟩

end Source

end PageMarkup
