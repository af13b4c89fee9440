import QueryTree.Json.Fault

/-! # The fields of a record

A record is an object with its fields as members, or an array of its fields in the order of their
declaration. Of several faults the one of the first member counts; a field that is not there counts
after all of them. -/

namespace QueryTree.Json

/-! ## Kinds of values -/

def asString : Json → Except Mismatch String
  | .text value => .ok value
  | other => .error (.wrongKind (.of other) "a string")

def asBoolean : Json → Except Mismatch Bool
  | .boolean value => .ok value
  | other => .error (.wrongKind (.of other) "a boolean")

def asUnit : Json → Except Mismatch Unit
  | .null => .ok ()
  | other => .error (.wrongKind (.of other) "unit")

variable {α : Type}

/-- Takes `null` as no value. -/
def asOptional (decode : Json → Except Mismatch α) : Json → Except Mismatch (Option α)
  | .null => .ok none
  | other => (decode other).map some

def asArray (decode : Json → Except Mismatch α) : Json → Except Mismatch (List α)
  | .array items => items.mapM decode
  | other => .error (.wrongKind (.of other) "a sequence")

/-! ## Records -/

structure Fields where
  title : String
  keys : List String
  members : List (String × Json)
  /-- the number of items of a record that is written as an array -/
  items : Option Nat

/-- The members of an object, or the items of an array under the keys of their positions. -/
def membersFor (keys : List String) : Json → List (String × Json)
  | .object members => members
  | .array items => keys.zip items
  | _ => []

def fields (title : String) (keys : List String) (value : Json) : Except Mismatch Fields :=
  match value with
  | .object _ => .ok ⟨title, keys, membersFor keys value, none⟩
  | .array items => .ok ⟨title, keys, membersFor keys value, some items.length⟩
  | other => .error (.wrongKind (.of other) ("struct " ++ title))

namespace Fields

/-- The decoded value of a field, if the field is there. -/
def get (fields : Fields) (key : String) (decode : Json → Except Mismatch α) :
    Except Mismatch (Option α) :=
  match Entries.find? key fields.members with
  | none => .ok none
  | some value => (decode value).map some

/-- The fault of a field's value. -/
def fault? (key : String) : Except Mismatch α → Option (String × Mismatch)
  | .ok _ => none
  | .error mismatch => some (key, mismatch)

/-- Fails with the fault of the first member that has one. -/
def agree (fields : Fields) (faults : List (Option (String × Mismatch))) : Except Mismatch Unit :=
  match fields.members.findSome? fun member => Entries.find? member.1 (faults.filterMap id) with
  | some mismatch => .error mismatch
  | none => .ok ()

/-- The value of a field that the record must have. -/
def require (fields : Fields) (key : String) : Option α → Except Mismatch α
  | some value => .ok value
  | none =>
    match fields.items with
    | none => .error (.missing key)
    | some _ => .error (.tooShort (fields.keys.idxOf key) fields.title fields.keys.length)

/-- Fails if an array goes on after the last field. -/
def close (fields : Fields) : Except Mismatch Unit :=
  match fields.items with
  | none => .ok ()
  | some count => if fields.keys.length < count then .error (.tooLong count) else .ok ()

end Fields

end QueryTree.Json
