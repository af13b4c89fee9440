import QueryTree.Json.Fields
import QueryTree.TypeRef

/-! # Introspection results

What an endpoint reports, in the shape in which it reports it: types in a list, and type references
as chains of layers. -/

namespace QueryTree

open Json (Mismatch asString asBoolean asUnit asOptional asArray)

/-! ## Kinds and chains -/

/-- A kind is its name, or an object with the name as its only key and the value `null`. -/
def TypeKind.ofJson : Json → Except Mismatch TypeKind
  | .text name => named name
  | .object [(name, value)] => do
    let kind ← named name
    asUnit value
    .ok kind
  | .object _ => .error .notOneMember
  | other => .error (.wrongKind (.of other) "string or map")
where
  named (name : String) : Except Mismatch TypeKind :=
    match TypeKind.ofName? name with
    | some kind => .ok kind
    | none => .error (.unknownChoice name (TypeKind.all.map TypeKind.name))

namespace Chain

/-- A layer of a chain, given what is below it. -/
def layer (value : Json) (below : Except Mismatch (Option Chain)) : Except Mismatch Chain := do
  let fields ← value.fields "RawTypeRef" ["kind", "name", "ofType"]
  let kind := fields.get "kind" TypeKind.ofJson
  let name := fields.get "name" (asOptional asString)
  fields.agree [Json.Fields.fault? "kind" kind, Json.Fields.fault? "name" name,
    Json.Fields.fault? "ofType" below]
  let kind ← fields.require "kind" (← kind)
  let name ← name
  let below ← below
  fields.close
  .ok (make kind name.join below)

mutual

def ofJson : Json → Except Mismatch Chain
  | .object members => layer (.object members) (belowMembers members)
  | .array items => layer (.array items) (belowItems 2 items)
  | .null => layer .null (.ok none)
  | .boolean value => layer (.boolean value) (.ok none)
  | .number value => layer (.number value) (.ok none)
  | .text value => layer (.text value) (.ok none)

def belowMembers : List (String × Json) → Except Mismatch (Option Chain)
  | [] => .ok none
  | (key, value) :: rest =>
    if key = "ofType" then if value.isNull then .ok none else (ofJson value).map some
    else belowMembers rest

/-- What the item at a position spells. -/
def belowItems : Nat → List Json → Except Mismatch (Option Chain)
  | _, [] => .ok none
  | 0, value :: _ => if value.isNull then .ok none else (ofJson value).map some
  | position + 1, _ :: rest => belowItems position rest

end

end Chain

/-! ## Types and their parts -/

structure ListedArgument where
  name : String
  description : Option String
  type : Chain
  defaultValue : Option String

structure ListedField where
  name : String
  description : Option String
  arguments : List ListedArgument
  type : Chain
  isDeprecated : Bool
  deprecationReason : Option String

structure ListedType where
  kind : TypeKind
  name : String
  description : Option String
  fields : Option (List ListedField)
  possibleTypes : Option (List Chain)

structure Listing where
  queryType : Option String
  mutationType : Option String
  types : List ListedType

open Json.Fields (fault?)

def ListedArgument.ofJson (value : Json) : Except Mismatch ListedArgument := do
  let fields ← value.fields "RawInputValue" ["name", "description", "type", "defaultValue"]
  let name := fields.get "name" asString
  let description := fields.get "description" (asOptional asString)
  let type := fields.get "type" Chain.ofJson
  let defaultValue := fields.get "defaultValue" (asOptional asString)
  fields.agree [fault? "name" name, fault? "description" description, fault? "type" type,
    fault? "defaultValue" defaultValue]
  let name ← fields.require "name" (← name)
  let type ← fields.require "type" (← type)
  fields.close
  .ok ⟨name, (← description).join, type, (← defaultValue).join⟩

def ListedField.ofJson (value : Json) : Except Mismatch ListedField := do
  let fields ← value.fields "RawField"
    ["name", "description", "args", "type", "isDeprecated", "deprecationReason"]
  let name := fields.get "name" asString
  let description := fields.get "description" (asOptional asString)
  let arguments := fields.get "args" (asArray ListedArgument.ofJson)
  let type := fields.get "type" Chain.ofJson
  let isDeprecated := fields.get "isDeprecated" asBoolean
  let deprecationReason := fields.get "deprecationReason" (asOptional asString)
  fields.agree [fault? "name" name, fault? "description" description, fault? "args" arguments,
    fault? "type" type, fault? "isDeprecated" isDeprecated,
    fault? "deprecationReason" deprecationReason]
  let name ← fields.require "name" (← name)
  let type ← fields.require "type" (← type)
  fields.close
  .ok ⟨name, (← description).join, (← arguments).getD [], type, (← isDeprecated).getD false,
    (← deprecationReason).join⟩

def ListedType.ofJson (value : Json) : Except Mismatch ListedType := do
  let fields ← value.fields "RawType" ["kind", "name", "description", "fields", "possibleTypes"]
  let kind := fields.get "kind" TypeKind.ofJson
  let name := fields.get "name" asString
  let description := fields.get "description" (asOptional asString)
  let listed := fields.get "fields" (asOptional (asArray ListedField.ofJson))
  let possibleTypes := fields.get "possibleTypes" (asOptional (asArray Chain.ofJson))
  fields.agree [fault? "kind" kind, fault? "name" name, fault? "description" description,
    fault? "fields" listed, fault? "possibleTypes" possibleTypes]
  let kind ← fields.require "kind" (← kind)
  let name ← fields.require "name" (← name)
  fields.close
  .ok ⟨kind, name, (← description).join, (← listed).join, (← possibleTypes).join⟩

/-- The name of a type that is given by its name alone. -/
def Listing.nameOfJson (value : Json) : Except Mismatch String := do
  let fields ← value.fields "RawNamed" ["name"]
  let name := fields.get "name" asString
  fields.agree [fault? "name" name]
  let name ← fields.require "name" (← name)
  fields.close
  .ok name

def Listing.ofJson (value : Json) : Except Mismatch Listing := do
  let fields ← value.fields "RawSchema" ["queryType", "mutationType", "types"]
  let queryType := fields.get "queryType" (asOptional nameOfJson)
  let mutationType := fields.get "mutationType" (asOptional nameOfJson)
  let types := fields.get "types" (asArray ListedType.ofJson)
  fields.agree [fault? "queryType" queryType, fault? "mutationType" mutationType,
    fault? "types" types]
  let types ← fields.require "types" (← types)
  fields.close
  .ok ⟨(← queryType).join, (← mutationType).join, types⟩

/-! ## Whole responses -/

/-- An error that the endpoint reports in place of data. -/
structure ReportedError where
  message : String
  extensions : Option Json
  path : Option (List Json)

/-- The `errors` of a response, and its schema if there is one and it is not `null`. -/
structure Response where
  schema : Option Json
  errors : Option (List ReportedError)

/-- Takes a value as it is. -/
def asPresent (value : Json) : Except Mismatch Json := .ok value

def ReportedError.ofJson (value : Json) : Except Mismatch ReportedError := do
  let fields ← value.fields "GraphQLError" ["message", "extensions", "path"]
  let message := fields.get "message" asString
  let extensions := fields.get "extensions" (asOptional asPresent)
  let path := fields.get "path" (asOptional (asArray asPresent))
  fields.agree [fault? "message" message, fault? "extensions" extensions, fault? "path" path]
  let message ← fields.require "message" (← message)
  fields.close
  .ok ⟨message, (← extensions).join, (← path).join⟩

/-- The schema in the data of a response. -/
def Response.schemaOfData (value : Json) : Except Mismatch (Option Json) := do
  let fields ← value.fields "RawData" ["__schema"]
  let schema := fields.get "__schema" (asOptional asPresent)
  fields.agree [fault? "__schema" schema]
  fields.close
  .ok (← schema).join

def Response.ofJson (value : Json) : Except Mismatch Response := do
  let fields ← value.fields "RawResponse" ["data", "errors"]
  let data := fields.get "data" (asOptional schemaOfData)
  let errors := fields.get "errors" (asOptional (asArray ReportedError.ofJson))
  fields.agree [fault? "data" data, fault? "errors" errors]
  fields.close
  .ok ⟨(← data).join.join, (← errors).join⟩

end QueryTree
