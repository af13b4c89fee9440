import QueryTree.Json.Printer
import QueryTree.Json.Message
import QueryTree.Json.Reader
import QueryTree.Schema.Basic
import QueryTree.Schema.Listing

/-! # Building a schema

Types and fields stand in the order in which they are listed first, and one that is listed again
replaces the earlier one. Every type gets the field that tells its name, and the root type comes
last. -/

namespace QueryTree

inductive SchemaError where
  /-- the endpoint reports errors -/
  | reported (errors : List ReportedError)
  /-- the response holds no schema -/
  | absent
  | mismatch (mismatch : Json.Mismatch)
  | chain (error : ChainError)
  | notJson (failure : Json.Failure)

/-! ## Types -/

namespace ListedArgument

def toDef (listed : ListedArgument) : Except ChainError ArgumentDef := do
  .ok ⟨listed.name, listed.description, ← TypeRef.ofChain listed.type, listed.defaultValue⟩

end ListedArgument

namespace ListedField

def toDef (listed : ListedField) : Except ChainError FieldDef := do
  let arguments ← listed.arguments.mapM ListedArgument.toDef
  .ok ⟨listed.name, listed.description, arguments, ← TypeRef.ofChain listed.type,
    listed.isDeprecated, listed.deprecationReason⟩

end ListedField

/-- The field that tells the name of an object's type. -/
def FieldDef.typename : FieldDef :=
  ⟨typenameField, none, [], .nonNull (.named .scalar "String"), false, none⟩

namespace ListedType

def toDef (listed : ListedType) : Except ChainError TypeDef := do
  let fields ← (listed.fields.getD []).mapM ListedField.toDef
  let possibleTypes ← (listed.possibleTypes.getD []).mapM TypeRef.ofChain
  .ok ⟨listed.name, listed.kind, listed.description,
    (Table.ofList (fields.map fun field => (field.name, field))).insert typenameField .typename,
    possibleTypes⟩

/-- A fragment of the root may be on any object or interface whose name is not reserved. -/
def isFragmentTarget (listed : ListedType) : Bool :=
  (listed.kind == .object || listed.kind == .interface) &&
    !("__".toList.isPrefixOf listed.name.toList)

end ListedType

/-! ## The root -/

def FieldDef.entryPoint (name description typeName : String) : FieldDef :=
  ⟨name, some description, [], .named .object typeName, false, none⟩

namespace Listing

/-- The root's fields: one for each operation that the schema has a type for. -/
def entryPoints (listing : Listing) : List FieldDef :=
  (listing.queryType.map (FieldDef.entryPoint "query" "A GraphQL query.")).toList ++
    (listing.mutationType.map (FieldDef.entryPoint "mutation" "A GraphQL mutation.")).toList

def fragmentTargets (listing : Listing) : List TypeRef :=
  (listing.types.filter ListedType.isFragmentTarget).map fun type => .named type.kind type.name

def root (listing : Listing) : TypeDef :=
  ⟨rootName, .object, none,
    Table.ofList (listing.entryPoints.map fun field => (field.name, field)),
    listing.fragmentTargets⟩

def toSchema (listing : Listing) : Except ChainError Schema := do
  let types ← listing.types.mapM ListedType.toDef
  .ok ⟨listing.queryType, listing.mutationType,
    (Table.ofList (types.map fun type => (type.name, type))).insert rootName listing.root⟩

end Listing

/-! ## Schemas from JSON -/

namespace Schema

/-- The schema that a value under `__schema` spells. -/
def ofJson (value : Json) : Except SchemaError Schema :=
  match Listing.ofJson value with
  | .error mismatch => .error (.mismatch mismatch)
  | .ok listing =>
    match listing.toSchema with
    | .error error => .error (.chain error)
    | .ok schema => .ok schema

/-- The schema of a whole response. Errors win over data, an empty list of them too. -/
def ofResponse (value : Json) : Except SchemaError Schema :=
  match Response.ofJson value with
  | .error mismatch => .error (.mismatch mismatch)
  | .ok response =>
    match response.errors, response.schema with
    | some errors, _ => .error (.reported errors)
    | none, none => .error .absent
    | none, some schema => ofJson schema

/-- Reads a text and looks at its objects in the order of their keys. -/
def ofTextWith (build : Json → Except SchemaError Schema) (text : String) :
    Except SchemaError Schema :=
  match Json.ofText? text with
  | .error failure => .error (.notJson failure)
  | .ok value => build value.sorted

def ofResponseText (text : String) : Except SchemaError Schema := ofTextWith ofResponse text

def ofText (text : String) : Except SchemaError Schema := ofTextWith ofJson text

end Schema

/-! ## Messages -/

def ReportedError.summary (error : ReportedError) : String :=
  let path := error.path.map fun steps => "at " ++ ".".intercalate (steps.map Json.toText)
  let extensions := error.extensions.map fun value => "(" ++ value.toText ++ ")"
  " ".intercalate ([error.message] ++ path.toList ++ extensions.toList)

def SchemaError.message : SchemaError → String
  | .reported [] => "GraphQL errors: empty errors list"
  | .reported errors => "GraphQL errors: " ++ "; ".intercalate (errors.map ReportedError.summary)
  | .absent => "No __schema in response"
  | .mismatch found => "Malformed introspection payload: " ++ found.message
  | .chain error => "Malformed introspection payload: " ++ error.message
  | .notJson failure => "Invalid JSON: " ++ failure.message

end QueryTree
