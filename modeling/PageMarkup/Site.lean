import PageMarkup.Json

/-!
# Remote sites

A site keeps pages under numbers, some as pages proper and some as posts.  The content of a page can
be had in three ways, which are tried in a fixed order; markup can be published as a new page or in
place of an old one.  Both may fail.  A site is given by what it answers, which may depend on what it
was asked before.
-/

namespace PageMarkup

/-! ### Pages -/

/-- The collection that a page belongs to. -/
inductive PostType where
  | page
  | post
  deriving DecidableEq, Repr, Inhabited

namespace PostType

/-- The name of a type. -/
def name : PostType → String
  | page => "page"
  | post => "post"

/-- The type that a JSON value names: its name, or a record whose only field is called so and is
empty. -/
def ofJson? : Json → Option PostType
  | .text "page" | .object [("page", .null)] => some page
  | .text "post" | .object [("post", .null)] => some post
  | _ => none

end PostType

/-- The number that a JSON value gives, if it is one of 64 bits without a sign. -/
def Json.unsigned64? : Json → Option Nat
  | .int (.ofNat n) => if n < 2 ^ 64 then some n else none
  | _ => none

/-- A page of a site. -/
structure RemotePage where
  id : Nat
  type : PostType := .page
  /-- Where visitors see it, if that is known. -/
  url : Option String := none
  deriving DecidableEq, Repr, Inhabited

namespace RemotePage

/-- The page that a JSON value describes.  Its fields stand in an object, or in an array in the order
id, type, address; all but the first may be missing. -/
def ofJson? : Json → Option RemotePage
  | .object fields => do
    ofFields? (← Dict.get? "id" fields) (Dict.get? "kind" fields) (Dict.get? "url" fields)
  | .array [id] => ofFields? id none none
  | .array [id, type] => ofFields? id (some type) none
  | .array [id, type, url] => ofFields? id (some type) (some url)
  | _ => none
where
  ofFields? (id : Json) (type url : Option Json) : Option RemotePage := do
    return {
      id := ← id.unsigned64?
      type := ← (match type with
        | none => some .page
        | some type => PostType.ofJson? type)
      url := ← (match url with
        | none | some .null => some none
        | some (.text url) => some (some url)
        | some _ => none) }

end RemotePage

/-! ### Failures -/

/-- Why a request to a site had no useful answer. -/
inductive Failure where
  /-- No answer came in time. -/
  | timeout (url : String)
  /-- The answer has a status that is no success. -/
  | status (url : String) (code : Nat)
  /-- The site could not be reached. -/
  | network (reason : String)
  /-- The answer does not have the expected form. -/
  | malformed (reason : String)
  /-- The site does not offer this. -/
  | unsupported (what : String)
  deriving DecidableEq, Repr, Inhabited

/-- The text of a failure. -/
def Failure.message : Failure → String
  | timeout url => "request to " ++ url ++ " timed out"
  | status url code => url ++ " answered HTTP " ++ toString code
  | network reason => "network error: " ++ reason
  | malformed reason => "unexpected response: " ++ reason
  | unsupported what => what ++ " is not available on this site"

/-- Why markup was not published. -/
inductive PublishError where
  /-- The request failed. -/
  | failed (failure : Failure)
  /-- The site refuses the page. -/
  | rejected (status : Nat) (reason : String)
  deriving DecidableEq, Repr, Inhabited

/-- The text of an error. -/
def PublishError.message : PublishError → String
  | failed failure => failure.message
  | rejected status reason =>
    "remote rejected the page (HTTP " ++ toString status ++ "): " ++ reason

/-! ### Sites -/

/-- A way to get at the content of a page. -/
inductive Strategy where
  /-- By a remote procedure call. -/
  | rpc
  /-- From the editor's view of the page. -/
  | rest
  /-- From the page as visitors see it. -/
  | scrape
  deriving DecidableEq, Repr, Inhabited

namespace Strategy

/-- All strategies, in the order in which they are tried. -/
def all : List Strategy := [rpc, rest, scrape]

/-- The name of a strategy. -/
def name : Strategy → String
  | rpc => "rpc"
  | rest => "rest"
  | scrape => "scrape"

/-- The strategy yields a rendered page and not the content behind it. -/
def isRendered (strategy : Strategy) : Bool :=
  strategy == scrape

end Strategy

/-- Where a site has put published markup. -/
structure Published where
  id : Nat
  type : PostType
  deriving DecidableEq, Repr, Inhabited

/-- What a site answers, and what becomes of it, in each of its states. -/
structure Site (σ : Type) where
  /-- The content of a page. -/
  fetch : Strategy → RemotePage → σ → Except Failure String × σ
  /-- Publish markup under a title, in place of the page with a number or as a new page. -/
  publish : Option Nat → (title markup : String) → σ → Except PublishError Published × σ

end PageMarkup
