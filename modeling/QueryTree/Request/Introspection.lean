/-! # The introspection query -/

namespace QueryTree.Introspection

/-! ## Layout of a query -/

inductive Entry where
  | line (text : String)
  /-- a selection of one line -/
  | inline (name selection : String)
  | block (name : String) (entries : List Entry)

def indent (depth : Nat) (text : String) : String :=
  String.ofList (List.replicate (2 * depth) ' ') ++ text

mutual

/-- One line for each entry, and two around the entries of a block, which stand deeper. -/
def Entry.lines (depth : Nat) : Entry → List String
  | .line text => [indent depth text]
  | .inline name selection => [indent depth (name ++ " \x7b " ++ selection ++ " \x7d")]
  | .block name entries =>
    [indent depth (name ++ " \x7b")] ++ entryLines (depth + 1) entries ++ [indent depth "\x7d"]

def entryLines (depth : Nat) : List Entry → List String
  | [] => []
  | entry :: rest => entry.lines depth ++ entryLines depth rest

end

/-! ## The query -/

def operationName : String := "IntrospectionQuery"

def operation : Entry :=
  .block ("query " ++ operationName) [
    .block "__schema" [
      .inline "queryType" "name",
      .inline "mutationType" "name",
      .block "types" [.line "...FullType"]]]

def fullType : Entry :=
  .block "fragment FullType on __Type" [
    .line "kind", .line "name", .line "description",
    .block "fields(includeDeprecated: true)" [
      .line "name", .line "description",
      .block "args" [.line "...InputValue"],
      .inline "type" "...TypeRef",
      .line "isDeprecated", .line "deprecationReason"],
    .block "inputFields" [.line "...InputValue"],
    .inline "interfaces" "...TypeRef",
    .block "enumValues(includeDeprecated: true)" [
      .line "name", .line "description", .line "isDeprecated", .line "deprecationReason"],
    .inline "possibleTypes" "...TypeRef"]

def inputValue : Entry :=
  .block "fragment InputValue on __InputValue" [
    .line "name", .line "description", .inline "type" "...TypeRef", .line "defaultValue"]

/-- A type and as many layers below it. -/
def typeLayers : Nat → List Entry
  | 0 => [.line "kind", .line "name"]
  | layers + 1 => [.line "kind", .line "name", .block "ofType" (typeLayers layers)]

def maxLayers : Nat := 7

def typeRef : Entry := .block "fragment TypeRef on __Type" (typeLayers maxLayers)

/-- Asks for the types of the operations and for every type with its fields. An empty line stands in
front of each definition. -/
def query : String :=
  String.join ([operation, fullType, inputValue, typeRef].map fun definition =>
    "\n" ++ "\n".intercalate (definition.lines 0) ++ "\n")

end QueryTree.Introspection
