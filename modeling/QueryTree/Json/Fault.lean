import QueryTree.Json.Number

/-! # What can be wrong with a JSON text or value -/

namespace QueryTree.Json

/-! ## Values of the wrong shape -/

/-- What stood where something else was wanted. -/
inductive Found where
  | null
  | boolean (value : Bool)
  | number (value : Number)
  | text (value : String)
  | array
  | object

inductive Mismatch where
  /-- a record lacks a field that it must have -/
  | missing (field : String)
  /-- a record has a field twice -/
  | duplicate (field : String)
  | wrongKind (found : Found) (wanted : String)
  /-- a name is not among those that may stand here -/
  | unknownChoice (name : String) (choices : List String)
  /-- a record written as an array ends before a field that it must have -/
  | tooShort (items : Nat) (record : String) (fields : Nat)
  /-- a record written as an array goes on after its last field -/
  | tooLong (items : Nat)
  /-- an object that names a choice has no member or several -/
  | notOneMember

def Found.of : Json → Found
  | .null => .null
  | .boolean value => .boolean value
  | .number value => .number value
  | .text value => .text value
  | .array _ => .array
  | .object _ => .object

/-! ## Texts that are not JSON -/

inductive Cause where
  | endOfValue
  | endOfArray
  | endOfObject
  | endOfText
  | expectedValue
  | expectedWord
  | expectedColon
  | expectedCommaInArray
  | expectedCommaInObject
  | trailingComma
  | trailingText
  | keyNotText
  | badNumber
  | numberTooLarge
  | badEscape
  | halfEscape
  | loneSurrogate
  | controlCharacter
  | nestedTooDeep
  | mismatch (mismatch : Mismatch)

/-- A cause with its place: the number of bytes of the text from there to the end. -/
structure Fault where
  cause : Cause
  left : Nat

def byteLength (text : List Char) : Nat := text.foldl (fun n c => n + c.utf8Size) 0

/-- A fault in front of the rest of the text. -/
def Fault.before (cause : Cause) (rest : List Char) : Fault := ⟨cause, byteLength rest⟩

/-- A fault behind the first byte of the rest of the text. -/
def Fault.inside (cause : Cause) (rest : List Char) : Fault := ⟨cause, byteLength rest - 1⟩

/-! ## Places -/

/-- A fault's line, counted from 1, and the number of bytes in front of it on its line. -/
structure Failure where
  cause : Cause
  line : Nat
  column : Nat

/-- Counts lines and columns over the first `count` bytes. -/
def place (line column : Nat) : Nat → List UInt8 → Nat × Nat
  | 0, _ => (line, column)
  | _, [] => (line, column)
  | count + 1, byte :: rest =>
    if byte = 10 then place (line + 1) 0 count rest else place line (column + 1) count rest

def Fault.locate (fault : Fault) (text : String) : Failure :=
  let bytes := text.toUTF8.toList
  let (line, column) := place 1 0 (bytes.length - fault.left) bytes
  ⟨fault.cause, line, column⟩

end QueryTree.Json
