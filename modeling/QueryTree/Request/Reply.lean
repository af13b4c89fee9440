import QueryTree.Request.Basic
import QueryTree.Schema.Build
import QueryTree.Text.Lossy

/-! # Replies

A schema is built from a reply with a status of success and a whole body. Anything else that comes
back makes the request fail. -/

namespace QueryTree

inductive Reply where
  | whole (status : Nat) (body : String)
  /-- the connection ends inside the body -/
  | cut (status : Nat)
  /-- the connection ends without a status -/
  | dropped

/-- The text of a body. Bytes that spell no character are replaced. -/
def Reply.bodyOfBytes (bytes : List UInt8) : String := Text.lossyText bytes

inductive FetchError where
  | transport (error : TransportError)
  | status (code : Nat) (body : String)
  | schema (error : SchemaError)

def FetchError.message : FetchError → String
  | .transport error => "Network error: " ++ error.message
  | .status code body => "HTTP error " ++ toString code ++ ": " ++ body
  | .schema error => error.message

def isSuccess (status : Nat) : Bool := 200 ≤ status && status < 300

/-- What a reply to a request comes to. -/
def Request.outcome (request : Request) : Reply → Except FetchError Schema
  | .dropped => .error (.transport (.unanswered request.url.toText))
  | .cut status => .error (if isSuccess status then .transport .cutShort else .status status "")
  | .whole status body =>
    if isSuccess status then
      match Schema.ofResponseText body with
      | .ok schema => .ok schema
      | .error error => .error (.schema error)
    else .error (.status status body)

end QueryTree
