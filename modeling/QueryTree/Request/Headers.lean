import QueryTree.Json.Message
import QueryTree.Json.Reader
import QueryTree.Text.Blank

/-! # Request headers

Headers are written as a JSON object of texts. A blank text stands for no headers. The members are
taken in the order of their keys, and the first one that is not a legal header rejects the whole
text. Names are kept in lower case, and of keys that differ in case alone the last one counts. -/

namespace QueryTree

/-- Values by names in lower case. -/
abbrev Headers := Table String

/-! ## Legal names and values -/

namespace Header

/-- The characters of a token: visible ASCII characters other than delimiters. -/
def isTokenChar (c : Char) : Bool := c.isAlphanum || "!#$%&'*+-.^_\x60|~".toList.contains c

def maxNameLength : Nat := 65535

def isName (name : List Char) : Bool :=
  name ≠ [] && name.length ≤ maxNameLength && name.all isTokenChar

/-- A value holds any characters but controls; a tab may stand in it. -/
def isValueChar (c : Char) : Bool := c == '\t' || (0x20 ≤ c.toNat && c.toNat ≠ 0x7F)

def isValue (value : List Char) : Bool := value.all isValueChar

def foldCase (name : String) : String := String.ofList (name.toList.map Char.toLower)

end Header

/-! ## Headers from JSON -/

inductive HeaderError where
  | notJson (failure : Json.Failure)
  | notObject
  | valueNotText (name : String)
  | badName (name : String)
  | badValue (name : String)

def HeaderError.message : HeaderError → String
  | .notJson failure => "Invalid headers: " ++ failure.message
  | .notObject => "Invalid headers: expected a JSON object"
  | .valueNotText name => "Invalid headers: value of '" ++ name ++ "' is not a string"
  | .badName name => "Invalid headers: '" ++ name ++ "': invalid HTTP header name"
  | .badValue name => "Invalid headers: '" ++ name ++ "': failed to parse header value"

namespace Headers

/-- The value of a legal header. A value of another kind is told before a bad name, and that before
a bad value. -/
def valueOfMember (name : String) : Json → Except HeaderError String
  | .text value =>
    if !Header.isName name.toList then .error (.badName name)
    else if !Header.isValue value.toList then .error (.badValue name)
    else .ok value
  | _ => .error (.valueNotText name)

def putMembers : List (String × Json) → Headers → Except HeaderError Headers
  | [], headers => .ok headers
  | (name, value) :: rest, headers =>
    match valueOfMember name value with
    | .error error => .error error
    | .ok value => putMembers rest (headers.insert (Header.foldCase name) value)

def ofJson (value : Json) : Except HeaderError Headers :=
  match value.sorted with
  | .object members => putMembers members .empty
  | _ => .error .notObject

/-- The headers that a text spells. -/
def ofText (text : String) : Except HeaderError Headers :=
  if text.toList.all Text.isBlank then .ok .empty
  else
    match Json.ofText? text with
    | .error failure => .error (.notJson failure)
    | .ok value => ofJson value

/-- All headers of both, with the values of the second where both have a name. -/
def overriddenBy (headers others : Headers) : Headers :=
  others.entries.foldl (fun merged entry => merged.insert entry.1 entry.2) headers

def insertByName (header : String × String) : List (String × String) → List (String × String)
  | [] => [header]
  | other :: rest =>
    if header.1 < other.1 then header :: other :: rest else other :: insertByName header rest

/-- Names and values in the order of the names. -/
def sorted (headers : Headers) : List (String × String) := headers.entries.foldr insertByName []

end Headers

end QueryTree
