import QueryTree.Url.Reader

/-! # Endpoints

An endpoint is an absolute URL of the web. -/

namespace QueryTree

structure EndpointError where
  url : String
  cause : UrlError

def EndpointError.message (error : EndpointError) : String :=
  "Invalid endpoint URL " ++ error.url ++ ": " ++ error.cause.message

/-- The URL of an endpoint. A URL of another scheme counts as relative. -/
def Url.ofEndpoint (text : String) : Except EndpointError Url :=
  match Url.ofText? text with
  | .error cause => .error ⟨text, cause⟩
  | .ok url => if url.isWeb then .ok url else .error ⟨text, .relative⟩

end QueryTree
