import PageMarkup.Http.Url

/-!
# Requests and replies

A connection is given by how it replies to requests, which may depend on the requests before.  It may
get no reply at all.
-/

namespace PageMarkup

namespace Http

/-- What a request asks for. -/
inductive Method where
  | get
  | post
  deriving DecidableEq, Repr, Inhabited

/-- The name of a method. -/
def Method.name : Method → String
  | get => "GET"
  | post => "POST"

/-- How the program introduces itself. -/
def userAgent : String := "pagebridge/0.1.0"

/-- A request. -/
structure Request where
  method : Method
  /-- The address without the query that is added to it. -/
  address : String
  query : Option String := none
  /-- The type of the body, and the body. -/
  content : Option (String × String) := none
  authorization : Option String := none
  deriving DecidableEq, Repr, Inhabited

/-- The address of a request with its query. -/
def Request.url (request : Request) : String :=
  match request.query with
  | none => request.address
  | some query =>
    request.address ++ (if request.address.contains '?' then "&" else "?") ++ query

/-- What comes of a request. -/
inductive Reply where
  | answer (status : Nat) (body : String)
  /-- Nothing came in time. -/
  | silence
  /-- The request was not sent or the connection broke. -/
  | failure (reason : String)
  deriving DecidableEq, Repr, Inhabited

/-- The status reports success. -/
def isSuccess (status : Nat) : Bool :=
  200 ≤ status && status < 300

/-- How the other side of a connection replies in each of its states. -/
structure Connection (σ : Type) where
  send : Request → σ → Reply × σ

/-- Why a request cannot be sent, if it cannot be sent anywhere. -/
def Request.refusal? (request : Request) : Option String :=
  match Url.splitScheme? request.url.toList with
  | none => some "builder error"
  | some _ =>
    match Url.sent? request.url with
    | none => some ("builder error for url (" ++ request.url ++ ")")
    | some _ => none

/-- A connection to nowhere: no request gets out. -/
def Connection.offline (σ : Type) : Connection σ where
  send request state :=
    let url := (Url.sent? request.url).getD request.url
    (.failure (request.refusal?.getD ("error sending request for url (" ++ url ++ ")")), state)

end Http

end PageMarkup
