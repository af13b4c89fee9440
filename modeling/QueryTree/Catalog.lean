import QueryTree.Literal.Default
import QueryTree.Schema.Basic
import QueryTree.Selection.Basic

/-! # Catalogs

The catalog of a type is what can be chosen under an object node of that type: the type's fields in
order, then a fragment for each of its possible types. -/

namespace QueryTree

structure ArgumentEntry where
  name : String
  typeString : String
  baseKind : TypeKind
  nullable : Bool
  literalDefault : Option Scalar

structure FieldEntry where
  name : String
  parentTypeName : String
  hasChildren : Bool
  description : Option String
  isDeprecated : Bool
  arguments : List ArgumentEntry

inductive CatalogEntry where
  | field (entry : FieldEntry)
  | fragment (name : String)

/-! ## Making catalogs -/

def ArgumentDef.entry (argument : ArgumentDef) : ArgumentEntry where
  name := argument.name
  typeString := argument.type.typeString
  baseKind := argument.type.baseKind
  nullable := !argument.type.isNonNull
  literalDefault := Scalar.ofDefault? argument.type argument.defaultValue

def FieldDef.entry (typeName : String) (field : FieldDef) : FieldEntry where
  name := field.name
  parentTypeName := typeName
  hasChildren := field.type.baseKind.hasSelections
  description := field.description
  isDeprecated := field.isDeprecated
  arguments := field.arguments.map ArgumentDef.entry

def TypeDef.catalog (typeName : String) (type : TypeDef) : List CatalogEntry :=
  type.fields.values.map (fun field => .field (field.entry typeName)) ++
    type.possibleTypes.map fun possible => .fragment possible.baseName

/-- The catalog of a type; a type that the schema does not have offers nothing. -/
def Schema.catalog (schema : Schema) (typeName : String) : List CatalogEntry :=
  match schema.type? typeName with
  | none => []
  | some type => type.catalog typeName

/-! ## Entries -/

namespace CatalogEntry

def name : CatalogEntry → String
  | .field entry => entry.name
  | .fragment name => name

def parentTypeName : CatalogEntry → Option String
  | .field entry => some entry.parentTypeName
  | .fragment _ => none

def hasChildren : CatalogEntry → Bool
  | .field entry => entry.hasChildren
  | .fragment _ => true

end CatalogEntry

/-- A fresh argument with its default as its value. -/
def ArgumentEntry.toArgument (entry : ArgumentEntry) : Argument :=
  ⟨entry.name, entry.typeString, some entry.baseKind, entry.literalDefault.map Scalar.toJson⟩

/-- A fresh node for the entry. -/
def CatalogEntry.toNode (url : String) : CatalogEntry → Node
  | .field entry =>
    ⟨url, entry.name, some entry.parentTypeName, entry.hasChildren,
      entry.arguments.map ArgumentEntry.toArgument, []⟩
  | .fragment name => .fragment url name

/-! ## JSON -/

def ArgumentEntry.toJson (entry : ArgumentEntry) : Json :=
  .object [("name", .text entry.name), ("typeString", .text entry.typeString),
    ("baseKind", .text entry.baseKind.name), ("nullable", .boolean entry.nullable),
    ("literalDefault", (entry.literalDefault.map Scalar.toJson).getD .null)]

def CatalogEntry.toJson : CatalogEntry → Json
  | .field entry =>
    .object [("entry", .text "field"), ("name", .text entry.name),
      ("parentTypeName", .text entry.parentTypeName), ("hasChildren", .boolean entry.hasChildren),
      ("description", .ofOption entry.description), ("isDeprecated", .boolean entry.isDeprecated),
      ("arguments", .array (entry.arguments.map ArgumentEntry.toJson))]
  | .fragment name => .object [("entry", .text "fragment"), ("name", .text name)]

end QueryTree
