import QueryTree.Table
import QueryTree.Decimal.Binary64

/-! # JSON values

Numbers are the integers of 64 bits, signed or unsigned, and the finite doubles. An object keeps
its members in order; the reader never writes a key twice. -/

namespace QueryTree

-- The core library's power, so that powers mean the same whatever else is imported.
attribute [local instance (high)] instPowNat

inductive Number where
  | whole (value : Int) (fits : -2 ^ (63 : Nat) ≤ value ∧ value < 2 ^ (64 : Nat))
  | real (value : Decimal.Binary64)
  deriving DecidableEq

inductive Json where
  | null
  | boolean (value : Bool)
  | number (value : Number)
  | text (value : String)
  | array (items : List Json)
  | object (members : List (String × Json))

namespace Json

/-- The value under a key of an object. -/
def member? (key : String) : Json → Option Json
  | .object members => Entries.find? key members
  | _ => none

def isNull : Json → Bool
  | .null => true
  | _ => false

/-- A text, or `null` for none. -/
def ofOption (value : Option String) : Json := (value.map Json.text).getD .null

/-! ## Objects in key order -/

/-- Adds a member before the first larger key. -/
def insertSorted (key : String) (value : Json) : List (String × Json) → List (String × Json)
  | [] => [(key, value)]
  | (k, v) :: rest =>
    if key < k then (key, value) :: (k, v) :: rest
    else if key = k then (key, value) :: rest
    else (k, v) :: insertSorted key value rest

mutual

/-- The same value with the members of every object in the order of their keys. -/
def sorted : Json → Json
  | .array items => .array (sortedItems items)
  | .object members => .object (sortedMembers members)
  | .null => .null
  | .boolean value => .boolean value
  | .number value => .number value
  | .text value => .text value

def sortedItems : List Json → List Json
  | [] => []
  | item :: rest => item.sorted :: sortedItems rest

def sortedMembers : List (String × Json) → List (String × Json)
  | [] => []
  | (key, value) :: rest => insertSorted key value.sorted (sortedMembers rest)

end

end Json

end QueryTree
