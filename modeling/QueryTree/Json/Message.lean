import QueryTree.Json.Fault
import QueryTree.Text.Visible

/-! # The wording of faults -/

namespace QueryTree.Json

def Found.message : Found → String
  | .null => "null"
  | .boolean value => "boolean `" ++ (if value then "true" else "false") ++ "`"
  | .number (.whole value fits) => "integer `" ++ Number.toText (.whole value fits) ++ "`"
  | .number (.real value) => "floating point `" ++ Number.toText (.real value) ++ "`"
  | .text value => "string " ++ Text.visiblyQuoted value
  | .array => "sequence"
  | .object => "map"

def choiceList (choices : List String) : String :=
  ", ".intercalate (choices.map fun choice => "`" ++ choice ++ "`")

def countOf (n : Nat) (singular plural : String) : String :=
  toString n ++ " " ++ if n = 1 then singular else plural

def Mismatch.message : Mismatch → String
  | .missing field => "missing field `" ++ field ++ "`"
  | .duplicate field => "duplicate field `" ++ field ++ "`"
  | .wrongKind found wanted => "invalid type: " ++ found.message ++ ", expected " ++ wanted
  | .unknownChoice name choices =>
    "unknown variant `" ++ name ++ "`, expected one of " ++ choiceList choices
  | .tooShort items record fields =>
    "invalid length " ++ toString items ++ ", expected struct " ++ record ++ " with " ++
      countOf fields "element" "elements"
  | .tooLong items => "invalid length " ++ toString items ++ ", expected fewer elements in array"
  | .notOneMember => "invalid value: map, expected map with a single key"

def Cause.message : Cause → String
  | .endOfValue => "EOF while parsing a value"
  | .endOfArray => "EOF while parsing a list"
  | .endOfObject => "EOF while parsing an object"
  | .endOfText => "EOF while parsing a string"
  | .expectedValue => "expected value"
  | .expectedWord => "expected ident"
  | .expectedColon => "expected `:`"
  | .expectedCommaInArray => "expected `,` or `]`"
  | .expectedCommaInObject => "expected `,` or `\x7d`"
  | .trailingComma => "trailing comma"
  | .trailingText => "trailing characters"
  | .keyNotText => "key must be a string"
  | .badNumber => "invalid number"
  | .numberTooLarge => "number out of range"
  | .badEscape => "invalid escape"
  | .halfEscape => "unexpected end of hex escape"
  | .loneSurrogate => "lone leading surrogate in hex escape"
  | .controlCharacter =>
    "control character (\\u0000-\\u001F) found while parsing a string"
  | .nestedTooDeep => "recursion limit exceeded"
  | .mismatch found => found.message

def Failure.message (failure : Failure) : String :=
  failure.cause.message ++ " at line " ++ toString failure.line ++ " column " ++
    toString failure.column

end QueryTree.Json
