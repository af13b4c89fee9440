import QueryTree.Literal.Render

/-! # Defaults as literals

A schema reports an argument's default as GraphQL text. The defaults of the five built-in scalars
become values; all others stay unset. -/

namespace QueryTree

inductive Scalar where
  | boolean (value : Bool)
  | number (value : Number)
  | text (value : String)

namespace Scalar

def toJson : Scalar → Json
  | .boolean value => .boolean value
  | .number value => .number value
  | .text value => .text value

/-- The text that the whole of a quoted text stands for. -/
def unquoted? : List Char → Option String
  | '"' :: rest =>
    match Reader.readText rest with
    | .ok (value, after) => if after.all Reader.isSpace then some value else none
    | .error _ => none
  | _ => none

/-- The text without a quote at each end, if both are there. -/
def stripQuotes : List Char → List Char
  | '"' :: rest => if rest.getLast? = some '"' then rest.dropLast else '"' :: rest
  | other => other

/-- A default that is no quoted text loses the quotes at its ends and is kept as it is. -/
def textOfDefault? (text : List Char) : Option String :=
  if text = Literal.null then none
  else (unquoted? text).or (some (String.ofList (stripQuotes text)))

/-- The name of a type without wrappers or under one non-null wrapper. -/
def nameOf? : TypeRef → Option String
  | .named _ name => some name
  | .nonNull (.named _ name) => some name
  | _ => none

def ofTrimmed? (name : String) (text : List Char) : Option Scalar :=
  if name = "Boolean" then
    if text = "true".toList then some (.boolean true)
    else if text = "false".toList then some (.boolean false)
    else none
  else if name = "Int" ∨ name = "Float" then (Number.ofText? text).map .number
  else if name = "String" ∨ name = "ID" then (textOfDefault? text).map .text
  else none

/-- The value of an argument's default, for the argument's type. -/
def ofDefault? (type : TypeRef) (text : Option String) : Option Scalar := do
  let text ← text
  let name ← nameOf? type
  ofTrimmed? name (Text.trim text.toList)

end Scalar

end QueryTree
