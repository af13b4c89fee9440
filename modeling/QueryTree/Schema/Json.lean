import QueryTree.Schema.Basic

/-! # Schemas as JSON -/

namespace QueryTree

def ArgumentDef.toJson (argument : ArgumentDef) : Json :=
  .object [("name", .text argument.name), ("description", .ofOption argument.description),
    ("type", argument.type.toJson), ("defaultValue", .ofOption argument.defaultValue)]

def FieldDef.toJson (field : FieldDef) : Json :=
  .object [("name", .text field.name), ("description", .ofOption field.description),
    ("args", .array (field.arguments.map ArgumentDef.toJson)), ("type", field.type.toJson),
    ("isDeprecated", .boolean field.isDeprecated),
    ("deprecationReason", .ofOption field.deprecationReason)]

def TypeDef.toJson (type : TypeDef) : Json :=
  .object [("name", .text type.name), ("kind", .text type.kind.name),
    ("description", .ofOption type.description),
    ("fields", .object (type.fields.entries.map fun entry => (entry.1, entry.2.toJson))),
    ("possibleTypes", .array (type.possibleTypes.map TypeRef.toJson))]

def Schema.toJson (schema : Schema) : Json :=
  .object [("queryType", .ofOption schema.queryType),
    ("mutationType", .ofOption schema.mutationType),
    ("types", .object (schema.types.entries.map fun entry => (entry.1, entry.2.toJson)))]

end QueryTree
