import QueryTree.Json.Printer
import QueryTree.Json.Reader
import QueryTree.Literal.Coercion
import QueryTree.Text.Blank
import QueryTree.Text.Name

/-! # Argument values as GraphQL literals

A value is written as its declared type coerces it, and as `null` where it does not fit. -/

namespace QueryTree

-- The core library's power, so that powers mean the same whatever else is imported.
attribute [local instance (high)] instPowNat

/-- The JSON number that the whole text spells. -/
def Number.ofText? (text : List Char) : Option Number :=
  let result := match text with
    | '-' :: rest => Reader.readNumber true rest
    | rest => Reader.readNumber false rest
  match result with
  | .ok (number, rest) => if rest.all Reader.isSpace then some number else none
  | .error _ => none

namespace Literal

open QueryTree.Text

def null : List Char := "null".toList

def boolean (value : Bool) : List Char := if value then "true".toList else "false".toList

/-- Puts a comma and a blank between the texts. -/
def commaSeparated (texts : List (List Char)) : List Char := [',', ' '].intercalate texts

def list (items : List (List Char)) : List Char := '[' :: (commaSeparated items ++ [']'])

def object (members : List (List Char)) : List Char := '\x7b' :: (commaSeparated members ++ ['\x7d'])

/-! ## Without a declared type -/

mutual

/-- An object with a key that is no name is written as `null`. -/
def untyped : Json → List Char
  | .null => null
  | .boolean value => boolean value
  | .number value => value.spell
  | .text value => quoted value.toList
  | .array items => list (untypedItems items)
  | .object members =>
    if members.all fun member => isName member.1.toList then object (untypedMembers members)
    else null

def untypedItems : List Json → List (List Char)
  | [] => []
  | item :: rest => untyped item :: untypedItems rest

def untypedMembers : List (String × Json) → List (List Char)
  | [] => []
  | (key, value) :: rest => (key.toList ++ ':' :: ' ' :: untyped value) :: untypedMembers rest

end

/-! ## With a declared type -/

def asText : Json → List Char
  | .text value => quoted value.toList
  | .number value => quoted value.spell
  | .boolean value => quoted (boolean value)
  | _ => null

/-- The integer of 64 bits that the text spells, with white space around it. -/
def intOfText? (text : List Char) : Option Int :=
  (Decimal.signed? (trim text)).filter fun n => -2 ^ (63 : Nat) ≤ n ∧ n < 2 ^ (63 : Nat)

def asInt : Json → List Char
  | .number (.whole value _) => Decimal.integer value
  | .text value => ((intOfText? value.toList).map Decimal.integer).getD null
  | _ => null

def asFloat : Json → List Char
  | .number value => value.spell
  | .text value => ((Number.ofText? (trim value.toList)).map Number.spell).getD null
  | _ => null

def booleanOfText? (text : List Char) : Option Bool :=
  if trim text = "true".toList then some true
  else if trim text = "false".toList then some false
  else none

def asBoolean : Json → List Char
  | .boolean value => boolean value
  | .text value => ((booleanOfText? value.toList).map boolean).getD null
  | _ => null

/-- The text of an enum value stands without quotes. -/
def asNamed (kind : Option TypeKind) : Json → List Char
  | .text value =>
    if kind = some .enum ∧ isEnumValue value.toList then value.toList else quoted value.toList
  | other => untyped other

/-- A list type takes a value that is no list as its only item, without brackets. -/
def coerced (kind : Option TypeKind) : Coercion → Json → List Char
  | _, .null => null
  | .int, value => asInt value
  | .float, value => asFloat value
  | .text, value => asText value
  | .boolean, value => asBoolean value
  | .named, value => asNamed kind value
  | .list item, .array items => list (items.map fun value => coerced kind item value)
  | .list item, value => coerced kind item value

/-- The literal of a value, or of no value, for a type string and the kind of its base type. -/
def render (value : Option Json) (type : String) (kind : Option TypeKind) : List Char :=
  match value with
  | none => null
  | some value => coerced kind (.ofTypeString type.toList) value

end Literal

end QueryTree
