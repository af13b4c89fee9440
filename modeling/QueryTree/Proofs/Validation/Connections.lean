import QueryTree.Proofs.Validation.Typing
import QueryTree.Registry.Chooser

/-! # Two checks of one connection

While a tree is edited, each connection is checked as it is made; the check of the whole tree goes
over all connections later. Both ask the schema of an endpoint, the first that of the child and the
second that of the root. They agree on the connections within the endpoint of the root, and only the
first one turns down a connection between two endpoints. -/

namespace QueryTree

/-! ## One connection -/

/-- The check of the tree reports the node as out of place under its parent. -/
def Visit.IsMisplaced (schema : Schema) (visit : Visit) : Prop :=
  ∃ parent, visit.parent = some parent ∧
    visit.issue? schema = some ⟨visit.path, .incompatible parent.label⟩

theorem Visit.isMisplaced_iff {schema : Schema} {visit : Visit} {parent : Node}
    {found : Resolution} (hparent : visit.parent = some parent)
    (hfound : visit.node.resolve schema = .ok found) :
    visit.IsMisplaced schema ↔ schema.canAttach visit.node parent = false := by
  simp only [IsMisplaced, hparent, Option.some.injEq, exists_eq_left', issue?, Node.issue?, hfound]
  cases schema.canAttach visit.node parent <;> simp

namespace Registry

/-- What the schema of the child's own endpoint says. Without a schema everything goes. -/
def ownVerdict (registry : Registry) (child parent : Node) : Bool :=
  ((registry.schema child.endpointUrl).map fun schema => schema.canAttach child parent).getD true

theorem canAttach_selection_eq (registry : Registry) (child parent : Node) :
    registry.canAttach child (.selection parent) =
      (parent.endpointUrl == child.endpointUrl && registry.ownVerdict child parent) := by
  unfold canAttach ownVerdict
  cases registry.schema child.endpointUrl <;> rfl

theorem endpointUrl_eq_of_canAttach {registry : Registry} {child parent : Node}
    (h : registry.canAttach child (.selection parent) = true) :
    parent.endpointUrl = child.endpointUrl := by
  rw [canAttach_selection_eq, Bool.and_eq_true, beq_iff_eq] at h
  exact h.1

theorem canAttach_of_ne {registry : Registry} {child parent : Node}
    (h : parent.endpointUrl ≠ child.endpointUrl) :
    registry.canAttach child (.selection parent) = false := by
  rw [canAttach_selection_eq, beq_false_of_ne h, Bool.false_and]

theorem canAttach_of_schema {registry : Registry} {schema : Schema} {child parent : Node}
    (hsame : parent.endpointUrl = child.endpointUrl)
    (hschema : registry.schema child.endpointUrl = some schema) :
    registry.canAttach child (.selection parent) = schema.canAttach child parent := by
  rw [canAttach_selection_eq, ownVerdict, hschema, hsame, beq_self_eq_true, Bool.true_and]
  rfl

/-! ## Whole trees -/

theorem validate_of_schema {registry : Registry} {root : Node} {schema : Schema}
    (h : registry.schema root.endpointUrl = some schema) :
    registry.validate root = schema.validate root := by
  rw [validate, h]
  rfl

/-- A tree whose connections all stay within an endpoint lies in the endpoint of its root. -/
theorem endpointUrl_eq_of_contains {root node : Node} (h : root.Contains node)
    (hedges : ∀ parent child, root.Contains parent → child ∈ parent.selections →
      parent.endpointUrl = child.endpointUrl) : node.endpointUrl = root.endpointUrl := by
  induction h with
  | self root => rfl
  | @deeper root child node hchild _ ih =>
    rw [ih fun parent grandchild hcontains => hedges parent grandchild (.deeper hchild hcontains)]
    exact (hedges root child (.self root) hchild).symm

/-- The two checks agree on each connection within the endpoint of the root. Between two endpoints
the check of the tree still asks the schema of the root, and within another endpoint too; so in a
clean tree every connection may be made just if no node has left the endpoint of the root. -/
theorem validate_agrees_with_canAttach {registry : Registry} {root : Node} {schema : Schema}
    (hschema : registry.schema root.endpointUrl = some schema) :
    registry.validate root = root.walk.filterMap (Visit.issue? schema) ∧
    (∀ visit ∈ root.walk, ∀ parent found, visit.parent = some parent →
      visit.node.resolve schema = .ok found →
        ((visit.IsMisplaced schema ↔
            registry.canAttach visit.node (.selection parent) = false) ↔
          if parent.endpointUrl = visit.node.endpointUrl then
            registry.ownVerdict visit.node parent = schema.canAttach visit.node parent
          else schema.canAttach visit.node parent = false)) ∧
    (∀ visit ∈ root.walk, ∀ parent found, visit.parent = some parent →
      visit.node.resolve schema = .ok found → parent.endpointUrl = root.endpointUrl →
        visit.node.endpointUrl = root.endpointUrl →
          (visit.IsMisplaced schema ↔
            registry.canAttach visit.node (.selection parent) = false)) ∧
    (registry.validate root = [] →
      ((∀ parent child, root.Contains parent → child ∈ parent.selections →
          registry.canAttach child (.selection parent) = true) ↔
        ∀ node, root.Contains node → node.endpointUrl = root.endpointUrl)) := by
  refine ⟨?_, ?_, ?_, ?_⟩
  · rw [validate_of_schema hschema, Schema.validate_eq_filterMap_walk]
  · intro visit _ parent found hparent hfound
    rw [Visit.isMisplaced_iff hparent hfound]
    split
    · next hsame =>
      rw [canAttach_selection_eq, hsame, beq_self_eq_true, Bool.true_and]
      cases registry.ownVerdict visit.node parent <;>
        cases schema.canAttach visit.node parent <;> decide
    · next hother =>
      rw [canAttach_of_ne hother]
      simp
  · intro visit _ parent found hparent hfound hup hdown
    rw [Visit.isMisplaced_iff hparent hfound, canAttach_of_schema (hup.trans hdown.symm)]
    rwa [hdown]
  · intro hclean
    rw [validate_of_schema hschema, Schema.validate_eq_nil_iff] at hclean
    constructor
    · intro hedges node hnode
      apply endpointUrl_eq_of_contains hnode
      exact fun parent child hparent hchild =>
        endpointUrl_eq_of_canAttach (hedges parent child hparent hchild)
    · intro hsame parent child hparent hchild
      have hup := hsame parent hparent
      have hdown := hsame child (hparent.selection hchild)
      rw [canAttach_of_schema (hup.trans hdown.symm) (by rwa [hdown])]
      exact (hclean.2 parent child hparent hchild).2

end Registry

/-! ## A stray selection -/

namespace UserListing

/-- A registry with an instance on an endpoint whose schema is kept. -/
def registry (schema : Schema) : Registry :=
  { Registry.new .empty with
    instances := Table.empty.insert "editor" "http://a"
    schemas := Table.empty.insert "http://a" ⟨schema, 0⟩ }

/-- A query with a selection of another endpoint. -/
def strayQuery : Node :=
  (Node.objectField "http://a" rootName "query").addChild
    (Node.objectField "http://b" "Query" "node")

/-- The stray selection is never reported although it could not have been attached. -/
theorem stray_selection_passes :
    ∃ schema, Schema.ofJson listing = .ok schema ∧
      (registry schema).schema strayQuery.endpointUrl = some schema ∧
      (registry schema).validate strayQuery = [] ∧
      ∃ child ∈ strayQuery.selections,
        (∃ found, child.resolve schema = .ok found) ∧
        (registry schema).canAttach child (.selection strayQuery) = false := by
  refine ⟨_, rfl, rfl, by decide, Node.objectField "http://b" "Query" "node", ?_, ?_, by decide⟩
  · exact List.mem_singleton_self _
  · exact ⟨_, rfl⟩

/-- In the query without stray selections the two checks agree. -/
theorem validate_agrees_with_canAttach_query :
    ∃ schema, (registry schema).schema (query "http://a").endpointUrl = some schema ∧
      (registry schema).validate (query "http://a") = [] ∧
      ((∀ parent child, (query "http://a").Contains parent → child ∈ parent.selections →
          (registry schema).canAttach child (.selection parent) = true) ↔
        ∀ node, (query "http://a").Contains node → node.endpointUrl = "http://a") := by
  have hlisted : ∃ schema, Schema.ofJson listing = .ok schema ∧
      (registry schema).validate (query "http://a") = [] := ⟨_, rfl, by decide⟩
  obtain ⟨schema, _, hclean⟩ := hlisted
  have hschema : (registry schema).schema (query "http://a").endpointUrl = some schema := rfl
  obtain ⟨_, _, _, hagree⟩ := Registry.validate_agrees_with_canAttach hschema
  exact ⟨schema, hschema, hclean, hagree hclean⟩

end UserListing

end QueryTree
