import QueryTree.Table
import QueryTree.TypeRef

/-! # Schemas

A schema holds its types by name, and a type its fields. Besides the types that an endpoint reports
there is a root type, which collects the entry points of the query language. -/

namespace QueryTree

/-- An argument of a field. A default is GraphQL text. -/
structure ArgumentDef where
  name : String
  description : Option String
  type : TypeRef
  defaultValue : Option String
  deriving DecidableEq

structure FieldDef where
  name : String
  description : Option String
  arguments : List ArgumentDef
  type : TypeRef
  isDeprecated : Bool
  deprecationReason : Option String
  deriving DecidableEq

structure TypeDef where
  name : String
  kind : TypeKind
  description : Option String
  fields : Table FieldDef
  possibleTypes : List TypeRef

structure Schema where
  queryType : Option String
  mutationType : Option String
  types : Table TypeDef

/-- The name of the root type, which is no GraphQL name. -/
def rootName : String := "[root]"

/-- The name of the field that every type but the root has. -/
def typenameField : String := "__typename"

namespace TypeDef

def field? (type : TypeDef) (name : String) : Option FieldDef := type.fields.find? name

def hasField (type : TypeDef) (name : String) : Bool := (type.field? name).isSome

/-- A fragment fits under a type if it is on that type or on one of its possible types. -/
def acceptsFragment (type : TypeDef) (name : String) : Bool :=
  type.name == name || type.possibleTypes.any fun possible => possible.baseName == name

/-- The types agree, whatever the order of their fields. -/
def agrees (s t : TypeDef) : Bool :=
  s.name == t.name && s.kind == t.kind && s.description == t.description &&
    Table.sameEntries (fun a b => decide (a = b)) s.fields t.fields &&
    s.possibleTypes == t.possibleTypes

end TypeDef

namespace Schema

def type? (schema : Schema) (name : String) : Option TypeDef := schema.types.find? name

def hasType (schema : Schema) (name : String) : Bool := (schema.type? name).isSome

def root? (schema : Schema) : Option TypeDef := schema.type? rootName

def field? (schema : Schema) (typeName field : String) : Option FieldDef := do
  let type ← schema.type? typeName
  type.field? field

/-- The schema without a type. -/
def removeType (schema : Schema) (name : String) : Schema :=
  { schema with types := schema.types.erase name }

/-- The schemas agree, whatever the order of their types. -/
def agrees (s t : Schema) : Bool :=
  s.queryType == t.queryType && s.mutationType == t.mutationType &&
    Table.sameEntries TypeDef.agrees s.types t.types

end Schema

end QueryTree
