import QueryTree.Schema.Basic
import QueryTree.Selection.Basic

/-! # What a node stands for in a schema -/

namespace QueryTree

/-- Why a node stands for nothing in a schema. A shape tells whether something has selections of its
own. -/
inductive StaleReference where
  | missingFragmentType (name : String)
  | missingParentType (name : String)
  | missingField (parent field : String)
  | shapeMismatch (name typeName : String) (nodeIsObject typeIsObject : Bool)
  deriving DecidableEq

def shapeName (isObject : Bool) : String := if isObject then "an object" else "a leaf"

def StaleReference.message : StaleReference → String
  | .missingFragmentType name => "The fragment base type \"" ++ name ++ "\" no longer exists"
  | .missingParentType name => "The parent base type \"" ++ name ++ "\" no longer exists"
  | .missingField parent field =>
    "The field \"" ++ field ++ "\" no longer exists for the type \"" ++ parent ++ "\""
  | .shapeMismatch name typeName nodeIsObject typeIsObject =>
    "Field existence mismatch on \"" ++ name ++ "\": node is " ++ shapeName nodeIsObject ++
      ", schema type \"" ++ typeName ++ "\" is " ++ shapeName typeIsObject

/-- The base type that a node has selections of, and the field unless the node is a fragment. -/
structure Resolution where
  baseType : String
  baseKind : TypeKind
  field : Option FieldDef
  deriving DecidableEq

def Resolution.description (resolution : Resolution) : Option String :=
  resolution.field.bind FieldDef.description

namespace Node

/-- The type or field that the node names, whatever its shape. -/
def target (node : Node) (schema : Schema) : Except StaleReference Resolution :=
  match node.parentTypeName with
  | none =>
    match schema.type? node.name with
    | none => .error (.missingFragmentType node.name)
    | some type => .ok ⟨type.name, type.kind, none⟩
  | some parent =>
    match schema.type? parent with
    | none => .error (.missingParentType parent)
    | some type =>
      match type.field? node.name with
      | none => .error (.missingField parent node.name)
      | some field => .ok ⟨field.type.baseName, field.type.baseKind, some field⟩

/-- What the node names, provided that both have selections of their own or neither has. -/
def resolve (node : Node) (schema : Schema) : Except StaleReference Resolution :=
  match node.target schema with
  | .error stale => .error stale
  | .ok found =>
    if found.baseKind.hasSelections = node.isObject then .ok found
    else .error (.shapeMismatch node.name found.baseType node.isObject found.baseKind.hasSelections)

/-! ## What resolves -/

theorem target_of_fragment {node : Node} (h : node.parentTypeName = none) {schema : Schema}
    {found : Resolution} (htarget : node.target schema = .ok found) :
    ∃ type, schema.type? node.name = some type ∧ found = ⟨type.name, type.kind, none⟩ := by
  unfold target at htarget
  rw [h] at htarget
  simp only at htarget
  split at htarget
  · cases htarget
  · next type htype =>
    cases htarget
    exact ⟨type, htype, rfl⟩

theorem target_of_field {node : Node} {owner : String} (h : node.parentTypeName = some owner)
    {schema : Schema} {found : Resolution} (htarget : node.target schema = .ok found) :
    ∃ type field, schema.type? owner = some type ∧ type.field? node.name = some field ∧
      found = ⟨field.type.baseName, field.type.baseKind, some field⟩ := by
  unfold target at htarget
  rw [h] at htarget
  simp only at htarget
  split at htarget
  · cases htarget
  · next type htype =>
    split at htarget
    · cases htarget
    · next field hfield =>
      cases htarget
      exact ⟨type, field, htype, hfield, rfl⟩

theorem resolve_eq_ok_iff (node : Node) (schema : Schema) (found : Resolution) :
    node.resolve schema = .ok found ↔
      node.target schema = .ok found ∧ found.baseKind.hasSelections = node.isObject := by
  unfold resolve
  cases node.target schema with
  | error stale => simp
  | ok target =>
    simp only [Except.ok.injEq]
    split
    · next hshape =>
      constructor
      · intro h
        rw [Except.ok.injEq] at h
        subst h
        exact ⟨rfl, hshape⟩
      · rintro ⟨rfl, _⟩
        rfl
    · next hshape =>
      simp only [reduceCtorEq, false_iff]
      rintro ⟨rfl, h⟩
      exact hshape h

end Node

end QueryTree
