import QueryTree.Json.Skip

/-! # Reading records

A record is written as an object with its fields in any order, or as an array of its fields in the
order of their declaration. An object may have members that the record does not know; an array may
end after the last field that the record must have. -/

namespace QueryTree.Reader

open Json (Cause Fault Failure Found Mismatch byteLength)

/-! ## Kinds of values -/

def mismatchBefore (mismatch : Mismatch) (rest : List Char) : Fault :=
  .before (.mismatch mismatch) rest

/-- The fault of a value that is not of the wanted kind. A number, a word or a text is read first. -/
def wrongKind (wanted : String) (c : Char) (rest : List Char) : Fault :=
  let wrong (found : Found) (after : List Char) : Fault :=
    mismatchBefore (.wrongKind found wanted) after
  let word (letters : List Char) (found : Found) : Fault :=
    match readWord letters rest with
    | .error fault => fault
    | .ok after => wrong found after
  let number (negative : Bool) (text : List Char) : Fault :=
    match readNumber negative text with
    | .error fault => fault
    | .ok (value, after) => wrong (.number value) after
  if c = 'n' then word "ull".toList .null
  else if c = 't' then word "rue".toList (.boolean true)
  else if c = 'f' then word "alse".toList (.boolean false)
  else if c = '-' then number true rest
  else if c.isDigit then number false (c :: rest)
  else if c = '"' then
    match readText rest with
    | .error fault => fault
    | .ok (value, after) => wrong (.text value) after
  else if c = '[' then wrong .array (c :: rest)
  else if c = '\x7b' then wrong .object (c :: rest)
  else .inside .expectedValue (c :: rest)

/-- Reads a value that begins with a certain character. -/
def readKind {α : Type} (wanted : String) (read : Char → List Char → Option (Except Fault (α × List Char))) :
    Reader α := fun text =>
  match skipSpace text with
  | [] => .error (.before .endOfValue [])
  | c :: rest =>
    match read c rest with
    | some result => result
    | none => .error (wrongKind wanted c rest)

def readString : Reader String :=
  readKind "a string" fun c rest => if c = '"' then some (readText rest) else none

def readBoolean : Reader Bool :=
  readKind "a boolean" fun c rest =>
    if c = 't' then some do
      let after ← readWord "rue".toList rest
      .ok (true, after)
    else if c = 'f' then some do
      let after ← readWord "alse".toList rest
      .ok (false, after)
    else none

/-- Reads `null` as no value. -/
def readOptional {α : Type} (inner : Reader α) : Reader (Option α) := fun text =>
  match skipSpace text with
  | 'n' :: rest => do
    let after ← readWord "ull".toList rest
    .ok (none, after)
  | rest => do
    let (value, after) ← inner rest
    .ok (some value, after)

/-- Reads an array. Without `item` the nesting is used up. -/
def readArray {α : Type} (fuel : Nat) (item : Option (Reader α)) : Reader (List α) :=
  readKind "a sequence" fun c rest =>
    if c = '[' then
      match item with
      | none => some (.error (.inside .nestedTooDeep (c :: rest)))
      | some item => some do
        let (back, after) ← readItems fuel (pushItem item) [] rest
        .ok (back.reverse, after)
    else none

/-! ## Records -/

/-- A field of a record whose fields are collected in a draft. -/
structure Field (δ : Type) where
  key : String
  required : Bool
  isSet : δ → Bool
  read : δ → Reader δ

variable {δ : Type}

/-- Reads a member after its key. -/
def readMember (fuel : Nat) (fields : List (Field δ)) (draft : δ) (key : String) : Reader δ :=
  fun text =>
    match fields.find? fun field => field.key = key with
    | none => do
      let rest ← readColon text
      let rest ← skipValue fuel rest
      .ok (draft, rest)
    | some field =>
      if field.isSet draft then
        match skipSpace text with
        | '\x7d' :: rest => .error (mismatchBefore (.duplicate key) rest)
        | rest => .error (mismatchBefore (.duplicate key) rest)
      else do
        let rest ← readColon text
        field.read draft rest

/-- The first field that the record must have and the draft has not. -/
def missing? (fields : List (Field δ)) (draft : δ) : Option (Field δ) :=
  fields.find? fun field => field.required && !field.isSet draft

def readRecordMembers (fuel : Nat) (fields : List (Field δ)) (start : δ) : Reader δ := fun text => do
  let (draft, rest) ← readMembers fuel (readMember fuel fields) start text
  match missing? fields draft with
  | some field => .error (mismatchBefore (.missing field.key) rest)
  | none => .ok (draft, rest)

/-- Goes to the next item of an array: the text in front of it, or nothing at the closing bracket. -/
def nextItem (first : Bool) (text : List Char) : Except Fault (Option (List Char)) :=
  match skipSpace text with
  | [] => .error (.before .endOfArray [])
  | c :: rest =>
    if c = ']' then .ok none
    else if first then .ok (some (c :: rest))
    else if c = ',' then
      match skipSpace rest with
      | [] => .error (.before .endOfValue [])
      | d :: after =>
        if d = ']' then .error (.inside .trailingComma (d :: after)) else .ok (some (d :: after))
    else .error (.inside .expectedCommaInArray (c :: rest))

/-- Closes an array whose items have all been read. -/
def closeArray (text : List Char) : Except Fault (List Char) :=
  match skipSpace text with
  | [] => .error (.before .endOfArray [])
  | c :: rest =>
    if c = ']' then .ok rest
    else if c = ',' then
      match skipSpace rest with
      | ']' :: after => .error (.inside .trailingComma (']' :: after))
      | after => .error (.inside .trailingText after)
    else .error (.inside .trailingText (c :: rest))

/-- Reads the fields from number `index` on off the items of an array. -/
def readRecordItems (title : String) (count : Nat) : Nat → List (Field δ) → δ → Reader δ
  | _, [], draft, text => do
    let rest ← closeArray text
    .ok (draft, rest)
  | index, field :: fields, draft, text => do
    match ← nextItem (index == 0) text with
    | some rest =>
      let (draft, rest) ← field.read draft rest
      readRecordItems title count (index + 1) fields draft rest
    | none =>
      let rest ← closeArray text
      match (field :: fields).findIdx? fun field => field.required with
      | some offset => .error (mismatchBefore (.tooShort (index + offset) title count) rest)
      | none => .ok (draft, rest)

/-- Reads a record into a draft. `deeper` tells whether the nesting allows another bracket. -/
def readRecord (fuel : Nat) (title : String) (fields : List (Field δ)) (start : δ) (deeper : Bool) :
    Reader δ :=
  readKind ("struct " ++ title) fun c rest =>
    if c = '[' then
      if deeper then some (readRecordItems title fields.length 0 fields start rest)
      else some (.error (.inside .nestedTooDeep (c :: rest)))
    else if c = '\x7b' then
      if deeper then some (readRecordMembers fuel fields start rest)
      else some (.error (.inside .nestedTooDeep (c :: rest)))
    else none

end QueryTree.Reader
