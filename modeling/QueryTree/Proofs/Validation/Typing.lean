import QueryTree.Proofs.Schema.Names
import QueryTree.Proofs.Validation.Verdicts

/-! # Typing along paths

The check of a tree trusts the parent type that each node claims for itself, and looks at one
connection at a time. Still a clean tree is well typed from its root on, by names alone: the type that
a path leads to follows from the type before it, and the claimed parent types play no part. -/

namespace QueryTree

/-- The kinds of types with selections. -/
def compositeKinds : List TypeKind := [.object, .interface, .union]

theorem TypeKind.mem_compositeKinds_iff (kind : TypeKind) :
    kind ∈ compositeKinds ↔ kind.hasSelections = true := by
  cases kind <;> decide

/-! ## Paths -/

/-- The nodes lie on a path downwards from the node, which itself is left out. -/
def Node.IsPath : Node → List Node → Prop
  | _, [] => True
  | node, child :: rest => child ∈ node.selections ∧ child.IsPath rest

/-- Going to a node leads from one type to the next. A field leads to the base of its type, and a
fragment to the type that it is on. -/
inductive Schema.Leads (schema : Schema) (current : String) (node : Node) : String → Prop
  | field {type : TypeDef} {field : FieldDef} (hcurrent : schema.type? current = some type)
    (hnode : node.isFragment = false) (hfield : type.field? node.name = some field)
    (hshape : node.isObject = true ↔ field.type.baseKind ∈ compositeKinds) :
    Leads schema current node field.type.baseName
  | fragment {type reached : TypeDef} (hcurrent : schema.type? current = some type)
    (hnode : node.isFragment = true)
    (hname : node.name = current ∨ ∃ possible ∈ type.possibleTypes, node.name = possible.baseName)
    (hreached : schema.type? node.name = some reached)
    (hshape : node.isObject = true ↔ reached.kind ∈ compositeKinds) :
    Leads schema current node node.name

/-- Every step of the path leads on from the type that the steps before led to. -/
def Schema.TypedFrom (schema : Schema) : String → List Node → Prop
  | _, [] => True
  | current, node :: rest => ∃ next, schema.Leads current node next ∧ schema.TypedFrom next rest

/-! ## One step -/

namespace Node

theorem isObject_iff_of_resolve {node : Node} {schema : Schema} {found : Resolution}
    (h : node.resolve schema = .ok found) :
    node.isObject = true ↔ found.baseKind ∈ compositeKinds := by
  rw [TypeKind.mem_compositeKinds_iff, ((resolve_eq_ok_iff ..).1 h).2]

end Node

namespace Schema

variable {schema : Schema}

/-- What a node resolves to has a type of the schema as its base. -/
theorem exists_type_of_resolve (hnamed : schema.Named) (hlisted : schema.BasesListed) {node : Node}
    {found : Resolution} (h : node.resolve schema = .ok found) :
    ∃ type, schema.type? found.baseType = some type := by
  have htarget := ((Node.resolve_eq_ok_iff ..).1 h).1
  cases hparent : node.parentTypeName with
  | none =>
    obtain ⟨type, htype, rfl⟩ := Node.target_of_fragment hparent htarget
    refine ⟨type, ?_⟩
    rw [← htype]
    exact congrArg schema.type? (hnamed _ _ htype)
  | some owner =>
    obtain ⟨type, field, htype, hfield, rfl⟩ := Node.target_of_field hparent htarget
    exact hlisted.exists_type htype hfield

/-- Under a parent that stands for a type, a node that fits leads from that type to its own. -/
theorem leads_of_canAttach (hnamed : schema.Named) {parent child : Node}
    {above found : Resolution} {type : TypeDef} (habove : parent.resolve schema = .ok above)
    (htype : schema.type? above.baseType = some type) (hfound : child.resolve schema = .ok found)
    (hfits : schema.canAttach child parent = true) :
    schema.Leads above.baseType child found.baseType := by
  have htarget := ((Node.resolve_eq_ok_iff ..).1 hfound).1
  have hshape := Node.isObject_iff_of_resolve hfound
  unfold canAttach at hfits
  rw [habove] at hfits
  simp only [htype] at hfits
  cases hparent : child.parentTypeName with
  | none =>
    obtain ⟨reached, hreached, rfl⟩ := Node.target_of_fragment hparent htarget
    rw [hparent] at hfits
    simp only [TypeDef.acceptsFragment, Bool.or_eq_true, beq_iff_eq, List.any_eq_true,
      hnamed _ _ htype] at hfits
    have hname : child.name = above.baseType ∨
        ∃ possible ∈ type.possibleTypes, child.name = possible.baseName := by
      rcases hfits with heq | ⟨possible, hmem, heq⟩
      · exact Or.inl heq.symm
      · exact Or.inr ⟨possible, hmem, heq.symm⟩
    have hleads := Leads.fragment htype (by simp [Node.isFragment, hparent]) hname hreached hshape
    rwa [← hnamed _ _ hreached] at hleads
  | some owner =>
    obtain ⟨_, field, howner, hfield, rfl⟩ := Node.target_of_field hparent htarget
    rw [hparent] at hfits
    simp only [Bool.and_eq_true, beq_iff_eq] at hfits
    -- The claimed parent type is the type that the path has led to.
    obtain ⟨rfl, _⟩ := hfits
    rw [htype, Option.some.injEq] at howner
    subst howner
    exact .field htype (by simp [Node.isFragment, hparent]) hfield hshape

/-! ## Whole paths -/

theorem typedFrom_of_cleanBelow (hnamed : schema.Named) (hlisted : schema.BasesListed) {node : Node}
    {found : Resolution} (hfound : node.resolve schema = .ok found) (hclean : schema.CleanBelow node)
    {path : List Node} (hpath : node.IsPath path) : schema.TypedFrom found.baseType path := by
  induction path generalizing node found with
  | nil => exact trivial
  | cons child rest ih =>
    obtain ⟨hchild, hrest⟩ := hpath
    obtain ⟨type, htype⟩ := exists_type_of_resolve hnamed hlisted hfound
    obtain ⟨⟨below, hbelow⟩, hfits⟩ := hclean node child (.self node) hchild
    refine ⟨below.baseType, ?_, ?_⟩
    · exact leads_of_canAttach hnamed hfound htype hbelow hfits
    · exact ih hbelow (hclean.child hchild) hrest

/-- In a schema that is built from JSON and lists the base of every field's type, a clean tree is well
typed along each of its paths, from the type on that its root stands for. -/
theorem typedFrom_of_validate_eq_nil {value : Json} (haccepted : Schema.ofJson value = .ok schema)
    (hlisted : schema.BasesListed) {root : Node} (hclean : schema.validate root = []) :
    ∃ found, root.resolve schema = .ok found ∧
      (root.isObject = true ↔ found.baseKind ∈ compositeKinds) ∧
      (∃ type, schema.type? found.baseType = some type) ∧
      ∀ path, root.IsPath path → schema.TypedFrom found.baseType path := by
  have hnamed := named_of_ofJson haccepted
  obtain ⟨⟨found, hfound⟩, hedges⟩ := (validate_eq_nil_iff ..).1 hclean
  refine ⟨found, hfound, Node.isObject_iff_of_resolve hfound, ?_, ?_⟩
  · exact exists_type_of_resolve hnamed hlisted hfound
  · intro path hpath
    exact typedFrom_of_cleanBelow hnamed hlisted hfound hedges hpath

end Schema

/-! ## A typed query -/

namespace UserListing

def reference (kind : TypeKind) (name : String) : Json :=
  .object [("kind", .text kind.name), ("name", .text name)]

def field (name : String) (type : Json) : Json := .object [("name", .text name), ("type", type)]

/-- An interface and its only object, below the query type. -/
def listing : Json :=
  .object [("queryType", .object [("name", .text "Query")]), ("types", .array [
    .object [("kind", .text "OBJECT"), ("name", .text "Query"),
      ("fields", .array [field "node" (reference .interface "Node")])],
    .object [("kind", .text "INTERFACE"), ("name", .text "Node"),
      ("possibleTypes", .array [reference .object "User"])],
    .object [("kind", .text "OBJECT"), ("name", .text "User"),
      ("fields", .array [field "name" (reference .scalar "String")])],
    .object [("kind", .text "SCALAR"), ("name", .text "String")]])]

/-- The query `query { node { ... on User { name } } }`. -/
def query (url : String) : Node :=
  (Node.objectField url rootName "query").addChild
    ((Node.objectField url "Query" "node").addChild
      ((Node.fragment url "User").addChild (Node.field url "User" "name")))

/-- From the query type on, each path through the query is typed. -/
theorem typedFrom_query :
    ∃ schema found, Schema.ofJson listing = .ok schema ∧ schema.BasesListed ∧
      schema.validate (query "http://a") = [] ∧ (query "http://a").resolve schema = .ok found ∧
      ∀ path, (query "http://a").IsPath path → schema.TypedFrom found.baseType path := by
  have hvalid : ∃ schema, Schema.ofJson listing = .ok schema ∧ schema.BasesListed ∧
      schema.validate (query "http://a") = [] := ⟨_, rfl, by decide, by decide⟩
  obtain ⟨schema, haccepted, hlisted, hclean⟩ := hvalid
  obtain ⟨found, hfound, _, _, htyped⟩ :=
    Schema.typedFrom_of_validate_eq_nil haccepted hlisted hclean
  exact ⟨schema, found, haccepted, hlisted, hclean, hfound, htyped⟩

end UserListing

end QueryTree
