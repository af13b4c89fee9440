import QueryTree.Json.Printer
import QueryTree.Json.Record
import QueryTree.Selection.Basic

/-! # Selection trees as JSON -/

namespace QueryTree

/-! ## Writing -/

namespace Argument

/-- An argument leaves the kind out if it is not known. -/
def toJson (argument : Argument) : Json :=
  .object ([("name", .text argument.name), ("typeString", .text argument.typeString)] ++
    (argument.baseKind.map fun kind => ("baseKind", Json.text kind.name)).toList ++
    [("value", argument.value.getD .null)])

end Argument

namespace Node

mutual

def toJson : Node → Json
  | ⟨endpointUrl, name, parentTypeName, isObject, arguments, children⟩ =>
    .object [("endpointUrl", .text endpointUrl), ("name", .text name),
      ("parentTypeName", .ofOption parentTypeName), ("isObject", .boolean isObject),
      ("arguments", .array (arguments.map Argument.toJson)),
      ("children", .array (childrenToJson children))]

def childrenToJson : List (Option Node) → List Json
  | [] => []
  | none :: rest => .null :: childrenToJson rest
  | some child :: rest => child.toJson :: childrenToJson rest

end

end Node

/-! ## Reading -/

namespace Reader

open Json (Cause Fault Mismatch)

def unknownKind (name : String) : Mismatch := .unknownChoice name (TypeKind.all.map TypeKind.name)

/-- Reads the rest of a kind's name after its opening quote. -/
def readKindName : Reader TypeKind := fun text => do
  let (name, rest) ← readText text
  match TypeKind.ofName? name with
  | some kind => .ok (kind, rest)
  | none => .error (mismatchBefore (unknownKind name) rest)

def readNull : Reader Unit :=
  readKind "unit" fun c rest =>
    if c = 'n' then some do
      let after ← readWord "ull".toList rest
      .ok ((), after)
    else none

/-- Reads the kind that is the key of an object. -/
def readKindKey : Reader TypeKind := fun text =>
  match skipSpace text with
  | [] => .error (.before .endOfValue [])
  | c :: rest =>
    if c = '"' then readKindName rest
    else if c = '\x7d' then .error (.inside .expectedValue (c :: rest))
    else .error (.inside .keyNotText (c :: rest))

/-- Reads a kind after the opening brace of the object that names it with the value `null`. -/
def readKindObject : Reader TypeKind := fun text => do
  let (kind, rest) ← readKindKey text
  let rest ← readColon rest
  let (_, rest) ← readNull rest
  match skipSpace rest with
  | [] => .error (.before .endOfObject [])
  | c :: after =>
    if c = '\x7d' then .ok (kind, after) else .error (.before .expectedValue (c :: after))

/-- Reads a kind by its name, or by an object with the name as its only key. -/
def readTypeKind (deeper : Bool) : Reader TypeKind := fun text =>
  match skipSpace text with
  | [] => .error (.before .endOfValue [])
  | c :: rest =>
    if c = '"' then readKindName rest
    else if c = '\x7b' then
      if deeper then readKindObject rest else .error (.inside .nestedTooDeep (c :: rest))
    else .error (.inside .expectedValue (c :: rest))

/-- Reads a field's value into a draft. -/
def into {α δ : Type} (reader : Reader α) (store : δ → α → δ) (draft : δ) : Reader δ := fun text => do
  let (value, rest) ← reader text
  .ok (store draft value, rest)

/-! ### Arguments -/

structure ArgumentDraft where
  name : Option String
  typeString : Option String
  baseKind : Option (Option TypeKind)
  value : Option (Option Json)

def ArgumentDraft.finish (draft : ArgumentDraft) : Argument where
  name := draft.name.getD ""
  typeString := draft.typeString.getD ""
  baseKind := draft.baseKind.join
  value := draft.value.join

/-- The fields of an argument inside which brackets may nest `depth` deep. -/
def argumentFields (fuel depth : Nat) : List (Field ArgumentDraft) :=
  [⟨"name", true, fun d => d.name.isSome, into readString fun d v => { d with name := some v }⟩,
    ⟨"typeString", true, fun d => d.typeString.isSome,
      into readString fun d v => { d with typeString := some v }⟩,
    ⟨"baseKind", false, fun d => d.baseKind.isSome,
      into (readOptional (readTypeKind (depth != 0))) fun d v => { d with baseKind := some v }⟩,
    ⟨"value", false, fun d => d.value.isSome,
      into (readOptional (readValue fuel depth)) fun d v => { d with value := some v }⟩]

def readArgument (fuel depth : Nat) : Reader Argument := fun text => do
  let (draft, rest) ← readRecord fuel "SelectionArgument" (argumentFields fuel (depth - 1))
    ⟨none, none, none, none⟩ (depth != 0) text
  .ok (draft.finish, rest)

/-! ### Nodes -/

structure NodeDraft where
  endpointUrl : Option String
  name : Option String
  parentTypeName : Option (Option String)
  isObject : Option Bool
  arguments : Option (List Argument)
  children : Option (List (Option Node))

def NodeDraft.finish (draft : NodeDraft) : Node where
  endpointUrl := draft.endpointUrl.getD ""
  name := draft.name.getD ""
  parentTypeName := draft.parentTypeName.join
  isObject := draft.isObject.getD false
  arguments := draft.arguments.getD []
  children := draft.children.getD []

/-- The fields of a node. `argument` and `child` read what stands in its arrays, unless the nesting is
used up. -/
def nodeFields (fuel : Nat) (argument : Option (Reader Argument))
    (child : Option (Reader (Option Node))) : List (Field NodeDraft) :=
  [⟨"endpointUrl", true, fun d => d.endpointUrl.isSome,
      into readString fun d v => { d with endpointUrl := some v }⟩,
    ⟨"name", true, fun d => d.name.isSome, into readString fun d v => { d with name := some v }⟩,
    ⟨"parentTypeName", false, fun d => d.parentTypeName.isSome,
      into (readOptional readString) fun d v => { d with parentTypeName := some v }⟩,
    ⟨"isObject", false, fun d => d.isObject.isSome,
      into readBoolean fun d v => { d with isObject := some v }⟩,
    ⟨"arguments", false, fun d => d.arguments.isSome,
      into (readArray fuel argument) fun d v => { d with arguments := some v }⟩,
    ⟨"children", false, fun d => d.children.isSome,
      into (readArray fuel child) fun d v => { d with children := some v }⟩]

def readNodeWith (fuel : Nat) (argument : Option (Reader Argument))
    (child : Option (Reader (Option Node))) (deeper : Bool) : Reader Node := fun text => do
  let (draft, rest) ← readRecord fuel "SelectionNode" (nodeFields fuel argument child)
    ⟨none, none, none, none, none, none⟩ deeper text
  .ok (draft.finish, rest)

/-- Reads a node in which brackets nest at most `depth` deep: one level for the node itself, one for
the array that its children stand in. -/
def readNode (fuel : Nat) : (depth : Nat) → Reader Node
  | 0 => readNodeWith fuel none none false
  | 1 => readNodeWith fuel none none true
  | depth + 2 =>
    readNodeWith fuel (some (readArgument fuel depth)) (some (readOptional (readNode fuel depth))) true

end Reader

/-- The tree that a text spells. -/
def Node.ofText? (text : String) : Except Json.Failure Node :=
  Reader.readWholeText (fun fuel => Reader.readNode fuel Reader.maxDepth) text

end QueryTree
