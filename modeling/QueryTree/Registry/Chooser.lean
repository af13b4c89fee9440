import QueryTree.Catalog
import QueryTree.Registry.Basic
import QueryTree.Validation

/-! # Choosing and attaching nodes

What the registry offers for a selection, and where a node may be attached. As long as there is no
schema for an endpoint, every attachment within that endpoint is allowed. -/

namespace QueryTree

/-- The category of the values that nodes stand for. -/
def selectionTag : String := "gql"

/-- Where a node is attached. -/
inductive Place where
  /-- a container of values of some categories -/
  | container (accepts : List String)
  /-- the query of an instance -/
  | query (id : String)
  | selection (parent : Node)

namespace Registry

def catalog (registry : Registry) (url typeName : String) : List CatalogEntry :=
  ((registry.schema url).map fun schema => schema.catalog typeName).getD []

def roots (registry : Registry) (url : String) : List CatalogEntry := registry.catalog url rootName

/-- The entries for the root of an instance's endpoint. -/
def rootsOfInstance (registry : Registry) (id : String) : List CatalogEntry :=
  ((registry.endpoint? id).map registry.roots).getD []

/-- A schema without a root type allows any node under a query. -/
def canAttach (registry : Registry) (child : Node) : Place → Bool
  | .container accepts => accepts.contains selectionTag
  | .query id =>
    match registry.endpoint? id with
    | none => false
    | some url =>
      url == child.endpointUrl &&
        match (registry.schema url).bind Schema.root? with
        | none => true
        | some root => root.hasField child.name
  | .selection parent =>
    parent.endpointUrl == child.endpointUrl &&
      match registry.schema child.endpointUrl with
      | none => true
      | some schema => schema.canAttach child parent

/-- The issues of a tree, none as long as there is no schema for its endpoint. -/
def validate (registry : Registry) (root : Node) : List TreeIssue :=
  ((registry.schema root.endpointUrl).map fun schema => schema.validate root).getD []

end Registry

end QueryTree
