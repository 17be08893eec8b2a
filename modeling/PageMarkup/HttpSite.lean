import PageMarkup.Document.Json
import PageMarkup.Http
import PageMarkup.Site
import PageMarkup.Text.Base64
import PageMarkup.XmlRpc

/-!
# Sites on the web

A site is reached under an address.  Content comes from a remote procedure call, which needs a name
and a password, from the editor's view of the page, or from the page as visitors see it; the site's
editor interface publishes pages.
-/

namespace PageMarkup

open Json (Tree)

/-- Where a site is, and how to log in there. -/
structure HttpSite where
  baseUrl : String
  /-- A name and a password. -/
  credentials : Option (String × String) := none
  deriving DecidableEq, Repr, Inhabited

namespace PostType

/-- The collection that holds the pages of a type. -/
def collection : PostType → String
  | page => "pages"
  | post => "posts"

/-- The type that a tree names. -/
def ofTree? (room : Nat) (tree : Tree) : Option PostType := do
  ofJson? (← tree.value? room)

end PostType

namespace HttpSite

/-! ### Answers -/

/-- What the editor's view says about the content: the content, or nothing. -/
def rawContent? (body : String) : Option (Option String) := do
  let tree ← Tree.read? body.toList
  let [some content] ← tree.slots? ["content"] | none
  match content, ← content.slots? ["raw"] with
  | _, [some (.text raw)] => some (some (← raw))
  | _, [some .null] => some none
  | .object _, [none] => some none
  | _, _ => none

/-- Where an answer says that a page was published. -/
def published? (body : String) : Option Published := do
  let tree ← Tree.read? body.toList
  let [some id, type] ← tree.slots? ["id", "type"] | none
  return {
    id := ← (← id.value? Json.greatestNesting).unsigned64?
    type := ← (match type with
      | none => some .page
      | some type => PostType.ofTree? Json.greatestNesting type) }

/-- Why a page was refused: the message in the answer, or the beginning of the answer. -/
def refusal (body : String) : String :=
  match (Tree.read? body.toList).bind (·.slots? ["message"]) with
  | some [some (.text (some message))] => message
  | _ => String.ofList (body.toList.take 200)

/-! ### Requests -/

/-- The site under an address, which may end in slashes. -/
def ofAddress (address : String) (credentials : Option (String × String) := none) : HttpSite where
  baseUrl := String.ofList (Text.dropEndWhile (· == '/') address.toList)
  credentials

/-- The address of the editor's view of a page, or of a collection. -/
def editorUrl (site : HttpSite) (type : PostType) (id : Option Nat) : String :=
  site.baseUrl ++ "/wp-json/wp/v2/" ++ type.collection ++
    match id with
    | some id => "/" ++ toString id
    | none => ""

/-- The address of a page for visitors. -/
def publicUrl (site : HttpSite) (page : RemotePage) : String :=
  page.url.getD <| site.baseUrl ++
    match page.type with
    | .page => "/?page_id=" ++ toString page.id
    | .post => "/?p=" ++ toString page.id

/-- The request that asks for the content of a page. -/
def fetchRequest (site : HttpSite) (page : RemotePage) : Strategy → Except Failure Http.Request
  | .rpc =>
    match site.credentials with
    | none => .error (.unsupported "XML-RPC without credentials")
    | some (username, password) => .ok {
        method := .post
        address := site.baseUrl ++ "/xmlrpc.php"
        content := some ("text/xml", XmlRpc.postCall username password page.id) }
  | .rest => .ok {
      method := .get
      address := site.editorUrl page.type (some page.id)
      query := some "context=edit" }
  | .scrape => .ok { method := .get, address := site.publicUrl page }

/-- The request that publishes markup. -/
def publishRequest (site : HttpSite) (id : Option Nat) (title markup : String) : Http.Request where
  method := .post
  address := site.editorUrl .page id
  content := some ("application/json",
    (Json.ofFields [("title", .text title), ("content", .text markup)]).print)

/-- What identifies the user in a request. -/
def authorization (site : HttpSite) : Option String :=
  site.credentials.map fun (username, password) =>
    "Basic " ++ Text.base64 (username ++ ":" ++ password)

/-! ### The site -/

/-- The content in the body of an answer. -/
def content (body : String) : Strategy → Except Failure String
  | .rpc =>
    match XmlRpc.postContent body with
    | .ok content => .ok content
    | .error problem => .error (.malformed problem.message)
  | .rest =>
    match rawContent? body with
    | none => .error (.malformed "REST response: ")
    | some none => .error (.malformed "REST response has no content.raw")
    | some (some content) => .ok content
  | .scrape => .ok body

variable {σ : Type}

/-- The status and the body of the answer to a request. -/
def exchange (site : HttpSite) (connection : Http.Connection σ) (request : Http.Request)
    (state : σ) : Except Failure (Nat × String) × σ :=
  let (reply, state) := connection.send { request with authorization := site.authorization } state
  match reply with
  | .answer status body => (.ok (status, body), state)
  | .silence => (.error (.timeout request.address), state)
  | .failure reason => (.error (.network reason), state)

/-- The content of a page; an answer counts only if its status reports success. -/
def fetch (site : HttpSite) (connection : Http.Connection σ) (strategy : Strategy)
    (page : RemotePage) (state : σ) : Except Failure String × σ :=
  match site.fetchRequest page strategy with
  | .error failure => (.error failure, state)
  | .ok request =>
    match site.exchange connection request state with
    | (.error failure, state) => (.error failure, state)
    | (.ok (status, body), state) =>
      if Http.isSuccess status then (content body strategy, state)
      else (.error (.status request.address status), state)

/-- Publish markup under a title. -/
def publish (site : HttpSite) (connection : Http.Connection σ) (id : Option Nat)
    (title markup : String) (state : σ) : Except PublishError Published × σ :=
  match site.exchange connection (site.publishRequest id title markup) state with
  | (.error failure, state) => (.error (.failed failure), state)
  | (.ok (status, body), state) =>
    if Http.isSuccess status then
      match published? body with
      | some published => (.ok published, state)
      | none => (.error (.failed (.malformed "publish response: ")), state)
    else (.error (.rejected status (refusal body)), state)

/-- The site as it answers through a connection. -/
def through (site : HttpSite) (connection : Http.Connection σ) : Site σ :=
  ⟨site.fetch connection, site.publish connection⟩

end HttpSite

end PageMarkup
