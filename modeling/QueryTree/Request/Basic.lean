import QueryTree.Request.Headers
import QueryTree.Text.Base64
import QueryTree.Url.Reader

/-! # Requests

A request posts the introspection query to a URL of the web. Configured headers replace the standard
ones of the same name, and credentials in the URL become a header. -/

namespace QueryTree

/-! ## Why there is no answer -/

inductive TransportError where
  /-- the text spells no URL -/
  | noUrl
  /-- nothing can be sent to the URL -/
  | unfitUrl (url : String)
  | unanswered (url : String)
  /-- the connection ends inside the answer -/
  | cutShort
  deriving DecidableEq

def TransportError.message : TransportError → String
  | .noUrl => "builder error"
  | .unfitUrl url => "builder error for url (" ++ url ++ ")"
  | .unanswered url => "error sending request for url (" ++ url ++ ")"
  | .cutShort => "error decoding response body"

/-! ## Credentials -/

/-- The user name and password that the encoded ones stand for, unless there are none. -/
def Credentials.decoded? (credentials : Credentials) : Option (String × Option String) :=
  let decoded? (part : String) := Url.textOfBytes? (Url.decode part.toList)
  match decoded? credentials.username, credentials.password.bind decoded? with
  | none, _ => none
  | some username, none => if username.isEmpty then none else some (username, none)
  | some username, some password => some (username, some password)

def basicAuthorization (username : String) (password : Option String) : String :=
  let bytes := (username ++ ":" ++ password.getD "").toUTF8.toList
  "Basic " ++ String.ofList (Text.Base64.encode bytes)

/-! ## Requests -/

/-- A request with the URL as it is sent and all headers. -/
structure Request where
  url : Url
  headers : Headers

namespace Request

def userAgent : String := "blockql-sdk/0.1.0"

/-- The headers of a request for which none are configured. -/
def standardHeaders (authorization : Option String) : Headers :=
  .ofList ([("content-type", "application/json"), ("user-agent", userAgent), ("accept", "*/*")] ++
    (authorization.map fun value => ("authorization", value)).toList)

/-- Characters of a host that no request line can hold. -/
def isUnfitInHost (c : Char) : Bool := "\"\x60\x7b\x7d".toList.contains c

def maxUrlLength : Nat := 65534

def fits (url : Url) : Bool :=
  url.isWeb && url.withoutFragment.toText.utf8ByteSize ≤ maxUrlLength &&
    (url.authority.map fun authority =>
      !(authority.host.toText.toList.any isUnfitInHost)).getD false

/-- The request to a URL with configured headers. -/
def ofUrl (text : String) (configured : Headers) : Except TransportError Request :=
  match Url.ofText? text with
  | .error _ => .error .noUrl
  | .ok url =>
    let login := url.credentials.bind Credentials.decoded?
    let target := if login.isSome then url.withoutCredentials else url
    if fits target then
      let authorization := login.map fun (username, password) => basicAuthorization username password
      .ok ⟨target, (standardHeaders authorization).overriddenBy configured⟩
    else .error (.unfitUrl target.toText)

end Request

end QueryTree
