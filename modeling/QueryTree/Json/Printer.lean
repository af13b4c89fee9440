import QueryTree.Json.Number
import QueryTree.Text.Quoted

/-! # JSON values as text -/

namespace QueryTree.Json

open QueryTree.Text

/-! ## On one line -/

mutual

/-- The value without any white space. -/
def spell : Json → List Char
  | .null => "null".toList
  | .boolean true => "true".toList
  | .boolean false => "false".toList
  | .number value => value.spell
  | .text value => quoted value.toList
  | .array items => '[' :: (spellItems items ++ [']'])
  | .object members => '\x7b' :: (spellMembers members ++ ['\x7d'])

def spellItems : List Json → List Char
  | [] => []
  | [item] => item.spell
  | item :: rest => item.spell ++ ',' :: spellItems rest

def spellMembers : List (String × Json) → List Char
  | [] => []
  | [(key, value)] => quoted key.toList ++ ':' :: value.spell
  | (key, value) :: rest => quoted key.toList ++ ':' :: (value.spell ++ ',' :: spellMembers rest)

end

def toText (value : Json) : String := String.ofList value.spell

/-! ## On several lines -/

/-- A new line with two blanks for each level. -/
def newLine (level : Nat) : List Char := '\n' :: List.replicate (2 * level) ' '

mutual

/-- Each item and member on a line of its own, two blanks deeper than the brackets around it. Empty
brackets stay together. -/
def indent (level : Nat) : Json → List Char
  | .array [] => ['[', ']']
  | .array (item :: rest) =>
    '[' :: (indentItems (level + 1) (item :: rest) ++ newLine level ++ [']'])
  | .object [] => ['\x7b', '\x7d']
  | .object (member :: rest) =>
    '\x7b' :: (indentMembers (level + 1) (member :: rest) ++ newLine level ++ ['\x7d'])
  | .null => "null".toList
  | .boolean true => "true".toList
  | .boolean false => "false".toList
  | .number value => value.spell
  | .text value => quoted value.toList

def indentItems (level : Nat) : List Json → List Char
  | [] => []
  | [item] => newLine level ++ item.indent level
  | item :: rest => newLine level ++ item.indent level ++ ',' :: indentItems level rest

def indentMembers (level : Nat) : List (String × Json) → List Char
  | [] => []
  | [(key, value)] => newLine level ++ quoted key.toList ++ ':' :: ' ' :: value.indent level
  | (key, value) :: rest =>
    newLine level ++ quoted key.toList ++ ':' :: ' ' ::
      (value.indent level ++ ',' :: indentMembers level rest)

end

def toLines (value : Json) : String := String.ofList (value.indent 0)

end QueryTree.Json
