import PageMarkup.Entity
import PageMarkup.Text.Basic

/-!
# Calls for the content of a post

A remote procedure call is an XML document, and so is its answer.  The answer is searched for the
one member that is of interest; a value may be marked as a string or stand bare.
-/

namespace PageMarkup

namespace XmlRpc

open Text

/-! ### Calls -/

/-- A text between the tags of an element. -/
def element (name : String) (content : List Char) : List Char :=
  ('<' :: name.toList) ++ ('>' :: content) ++ "</".toList ++ name.toList ++ ['>']

/-- A parameter of a call. -/
def parameter (type : String) (content : List Char) : List Char :=
  element "param" (element "value" (element type content))

/-- The call for the content of a post. -/
def postCall (username password : String) (post : Nat) : String :=
  String.ofList <|
    "<?xml version=\"1.0\"?>\n".toList ++
    element "methodCall" (element "methodName" "wp.getPost".toList ++
      element "params" (
        parameter "int" ['1']
        ++ parameter "string" (Entity.encode username.toList)
        ++ parameter "string" (Entity.encode password.toList)
        ++ parameter "int" (Nat.toDigits 10 post)
        ++ parameter "array" (element "data" (element "value"
          (element "string" "post_content".toList)))))

/-! ### Answers -/

/-- What follows the start of a member with a name, up to the blanks in front of its value. -/
def afterName? (name : String) (cs : List Char) : Option (List Char) := do
  let cs ← after? "<name>".toList cs
  let cs ← after? name.toList (trimStart cs)
  let cs ← after? "</name>".toList (trimStart cs)
  let cs ← after? "<value>".toList (trimStart cs)
  some (trimStart cs)

/-- What follows the end of a value. -/
def afterValue? (cs : List Char) : Option (List Char) :=
  after? "</value>".toList (trimStart cs)

/-- The text of a value that is marked as a string: up to the first place where the value ends. -/
def markedText? (cs : List Char) : Option (List Char) := do
  let cs ← after? "<string>".toList cs
  (splitFirst? (fun cs => (after? "</string>".toList cs).bind afterValue?) cs).map Prod.fst

/-- The text of a bare value, which holds no elements. -/
def bareText? (cs : List Char) : Option (List Char) :=
  let (content, rest) := spanWhile (· != '<') cs
  (afterValue? rest).map fun _ => content

/-- The text of a value, whether it is marked as a string or not. -/
def anyText? (cs : List Char) : Option (List Char) :=
  let cs := (after? "<string>".toList cs).getD cs
  (splitFirst? (fun cs => afterValue? ((after? "</string>".toList cs).getD cs)) cs).map Prod.fst

/-- The first value of a member with a name that `read` recognizes. -/
def findMember? (name : String) (read : List Char → Option (List Char)) :
    List Char → Option (List Char)
  | [] => none
  | c :: cs =>
    match (afterName? name (c :: cs)).bind read with
    | some value => some value
    | none => findMember? name read cs

/-- Why an answer has no content. -/
inductive Problem where
  /-- The call failed, for a reason. -/
  | fault (reason : String)
  | noContent
  deriving DecidableEq, Repr, Inhabited

/-- The text of a problem. -/
def Problem.message : Problem → String
  | fault reason => "XML-RPC fault: " ++ reason
  | noContent => "XML-RPC response has no post_content"

/-- The content of the post in an answer. -/
def postContent (answer : String) : Except Problem String :=
  let cs := answer.toList
  if contains "<fault>".toList cs then
    .error (.fault (match findMember? "faultString" anyText? cs with
      | some reason => String.ofList (Entity.decode reason)
      | none => "unknown fault"))
  else
    match findMember? "post_content" (fun cs => (markedText? cs).or (bareText? cs)) cs with
    | some content => .ok (String.ofList (Entity.decode content))
    | none => .error .noContent

end XmlRpc

end PageMarkup
