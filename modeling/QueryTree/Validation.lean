import QueryTree.Selection.Resolve

/-! # Checking selection trees

A tree is checked from its root downwards. A node that stands for nothing is stale; a node that
stands for something may still be out of place under its parent. Each issue names its node by the
labels on the path from the root. -/

namespace QueryTree

/-- The child fits under a parent: it is a fragment that the parent's type accepts, or a field of that
very type. Nothing is said under a parent that stands for nothing or for an unknown type. -/
def Schema.canAttach (schema : Schema) (child parent : Node) : Bool :=
  match parent.resolve schema with
  | .error _ => true
  | .ok found =>
    match schema.type? found.baseType with
    | none => true
    | some type =>
      match child.parentTypeName with
      | none => type.acceptsFragment child.name
      | some owner => owner == found.baseType && type.hasField child.name

inductive IssueKind where
  | stale (reference : StaleReference)
  /-- the node is out of place under the parent with this label -/
  | incompatible (parent : String)
  deriving DecidableEq

structure TreeIssue where
  path : List String
  kind : IssueKind
  deriving DecidableEq

def TreeIssue.message (issue : TreeIssue) : String :=
  " > ".intercalate issue.path ++
    match issue.kind with
    | .stale reference => ": " ++ reference.message
    | .incompatible parent => ": not a valid selection under \"" ++ parent ++ "\""

namespace Node

/-- What is wrong with a node on its own and under its parent. -/
def issue? (schema : Schema) (parent : Option Node) (node : Node) : Option IssueKind :=
  match node.resolve schema with
  | .error reference => some (.stale reference)
  | .ok _ =>
    match parent with
    | none => none
    | some parent =>
      if schema.canAttach node parent then none else some (.incompatible parent.label)

mutual

/-- The issues of a node and of everything below it. `above` holds the labels from the root down to
the parent. -/
def issues (schema : Schema) (parent : Option Node) (above : List String) : Node → List TreeIssue
  | ⟨endpointUrl, name, parentTypeName, isObject, arguments, children⟩ =>
    let node : Node := ⟨endpointUrl, name, parentTypeName, isObject, arguments, children⟩
    let path := above ++ [node.label]
    ((node.issue? schema parent).map fun kind => ⟨path, kind⟩).toList ++
      slotIssues schema node path children

def slotIssues (schema : Schema) (parent : Node) (above : List String) :
    List (Option Node) → List TreeIssue
  | [] => []
  | none :: rest => slotIssues schema parent above rest
  | some child :: rest =>
    child.issues schema (some parent) above ++ slotIssues schema parent above rest

end

end Node

def Schema.validate (schema : Schema) (root : Node) : List TreeIssue := root.issues schema none []

end QueryTree
