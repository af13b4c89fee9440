import QueryTree.Proofs.Catalog.Entries

/-! # Trees that grow from the chooser

A tree that starts with an entry of the root's catalog and grows by entries of the catalogs of its
own nodes needs no check: each of its connections could have been made by hand, and no node of it is
reported. Growth never changes what a node stands for, so each step is judged where it happens. -/

namespace QueryTree

/-! ## Growth -/

/-- One step of growth. A node with selections gets an empty slot, or a fresh node for an entry in
the catalog of the type that it stands for; or something below it grows. A fragment that is chosen
has to be on a type of the schema with selections. -/
inductive Schema.Grows (schema : Schema) (url : String) : Node → Node → Prop
  | slot {node : Node} (hobject : node.isObject = true) : Grows schema url node node.addSlot
  | choice {node : Node} {found : Resolution} {entry : CatalogEntry}
    (hobject : node.isObject = true) (hfound : node.resolve schema = .ok found)
    (hentry : entry ∈ schema.catalog found.baseType)
    (hfragment : ∀ name, entry = .fragment name →
      ∃ type, schema.type? name = some type ∧ type.kind ∈ compositeKinds) :
    Grows schema url node (node.addChild (entry.toNode url))
  | deeper {node child grown : Node} {before after : List (Option Node)}
    (hchildren : node.children = before ++ some child :: after) (h : Grows schema url child grown) :
    Grows schema url node { node with children := before ++ some grown :: after }

/-- The trees that grow from a field of the root type. -/
inductive Schema.Grown (schema : Schema) (url : String) : Node → Prop
  | start {entry : FieldEntry} (h : .field entry ∈ schema.catalog rootName) :
    Grown schema url (CatalogEntry.toNode url (.field entry))
  | more {root grown : Node} (h : Grown schema url root) (hgrows : schema.Grows url root grown) :
    Grown schema url grown

namespace Schema

variable {schema : Schema} {url : String}

theorem Grows.eq_with_children {node grown : Node} (h : schema.Grows url node grown) :
    grown = { node with children := grown.children } := by
  cases h <;> rfl

theorem Grows.last {child grown : Node} (h : schema.Grows url child grown) (node : Node) :
    schema.Grows url (node.addChild child) (node.addChild grown) :=
  @Grows.deeper schema url (node.addChild child) child grown node.children [] rfl h

/-! ## Fresh nodes -/

theorem endpointUrl_toNode (entry : CatalogEntry) : (entry.toNode url).endpointUrl = url := by
  cases entry <;> rfl

theorem selections_toNode (entry : CatalogEntry) : (entry.toNode url).selections = [] := by
  cases entry <;> rfl

theorem exists_resolve_field (hfields : schema.FieldsNamed) {typeName : String} {entry : FieldEntry}
    (hentry : .field entry ∈ schema.catalog typeName) :
    ∃ found, (CatalogEntry.toNode url (.field entry)).resolve schema = .ok found := by
  obtain ⟨type, field, htype, hfield, hmade⟩ := (field_mem_catalog_iff hfields).1 hentry
  refine ⟨⟨field.type.baseName, field.type.baseKind, some field⟩, ?_⟩
  rw [Node.resolve_eq_ok_iff]
  subst hmade
  refine ⟨?_, rfl⟩
  have hname : type.field? field.name = some field := hfield
  simp [Node.target, CatalogEntry.toNode, FieldDef.entry, htype, hname]

theorem exists_resolve_fragment {name : String} {type : TypeDef}
    (htype : schema.type? name = some type) (hkind : type.kind ∈ compositeKinds) :
    ∃ found, (CatalogEntry.toNode url (.fragment name)).resolve schema = .ok found := by
  refine ⟨⟨type.name, type.kind, none⟩, ?_⟩
  rw [Node.resolve_eq_ok_iff]
  rw [TypeKind.mem_compositeKinds_iff] at hkind
  refine ⟨?_, hkind⟩
  simp [Node.target, CatalogEntry.toNode, Node.fragment, htype]

theorem offers_toNode {typeName : String} {entry : CatalogEntry}
    (hentry : entry ∈ schema.catalog typeName) : schema.Offers typeName (entry.toNode url) := by
  cases entry with
  | field entry => exact Or.inl ⟨entry, hentry, rfl, rfl, rfl⟩
  | fragment name => exact Or.inr ⟨rfl, Or.inl hentry⟩

/-! ## Healthy connections -/

/-- The child is on the endpoint, stands for something and fits. -/
structure Healthy (schema : Schema) (url : String) (parent child : Node) : Prop where
  sameUrl : child.endpointUrl = url
  stands : ∃ found, child.resolve schema = .ok found
  fits : schema.canAttach child parent = true

def HealthyBelow (schema : Schema) (url : String) (node : Node) : Prop :=
  ∀ parent child, node.Contains parent → child ∈ parent.selections →
    schema.Healthy url parent child

theorem healthyBelow_iff {node : Node} :
    schema.HealthyBelow url node ↔
      ∀ child ∈ node.selections, schema.Healthy url node child ∧ schema.HealthyBelow url child := by
  constructor
  · intro h child hchild
    refine ⟨h node child (.self node) hchild, ?_⟩
    exact fun parent grandchild hparent => h parent grandchild (.deeper hchild hparent)
  · intro h parent child hparent hchild
    cases hparent with
    | self => exact (h child hchild).1
    | deeper hmid hbelow => exact (h _ hmid).2 parent child hbelow hchild

theorem HealthyBelow.endpointUrl_eq {root node : Node} (h : schema.HealthyBelow url root)
    (hroot : root.endpointUrl = url) (hcontains : root.Contains node) : node.endpointUrl = url := by
  induction hcontains with
  | self => exact hroot
  | deeper hmid _ ih =>
    obtain ⟨hedge, hbelow⟩ := healthyBelow_iff.1 h _ hmid
    exact ih hbelow hedge.sameUrl

/-- Whether a connection is healthy does not depend on what else is below its two nodes. -/
theorem Healthy.beside {parent child : Node} (h : schema.Healthy url parent child)
    (children : List (Option Node)) :
    schema.Healthy url { parent with children := children } child :=
  ⟨h.sameUrl, h.stands, h.fits⟩

theorem Healthy.above {parent child : Node} (h : schema.Healthy url parent child)
    (children : List (Option Node)) :
    schema.Healthy url parent { child with children := children } :=
  ⟨h.sameUrl, h.stands, h.fits⟩

/-! ## One step of growth -/

/-- Children may change as long as the new ones are healthy. -/
theorem HealthyBelow.with_children {node : Node} (h : schema.HealthyBelow url node)
    {children : List (Option Node)}
    (hnew : ∀ child, some child ∈ children →
      some child ∈ node.children ∨ (schema.Healthy url node child ∧ schema.HealthyBelow url child)) :
    schema.HealthyBelow url { node with children := children } := by
  rw [healthyBelow_iff] at h ⊢
  intro child hchild
  have hmem : some child ∈ children := by simpa [Node.selections] using hchild
  rcases hnew child hmem with hold | ⟨hedge, hbelow⟩
  · obtain ⟨hedge, hbelow⟩ := h child (by simpa [Node.selections] using hold)
    exact ⟨hedge.beside _, hbelow⟩
  · exact ⟨hedge.beside _, hbelow⟩

theorem healthyBelow_toNode (entry : CatalogEntry) :
    schema.HealthyBelow url (entry.toNode url) := by
  rw [healthyBelow_iff, selections_toNode]
  simp

theorem healthy_toNode (hnamed : schema.Named) (hfields : schema.FieldsNamed) {node : Node}
    {found : Resolution} {entry : CatalogEntry} (hfound : node.resolve schema = .ok found)
    (hentry : entry ∈ schema.catalog found.baseType)
    (hfragment : ∀ name, entry = .fragment name →
      ∃ type, schema.type? name = some type ∧ type.kind ∈ compositeKinds) :
    schema.Healthy url node (entry.toNode url) := by
  have hstands : ∃ below, (entry.toNode url).resolve schema = .ok below := by
    cases entry with
    | field entry => exact exists_resolve_field hfields hentry
    | fragment name =>
      obtain ⟨type, htype, hkind⟩ := hfragment name rfl
      exact exists_resolve_fragment htype hkind
  obtain ⟨type, htype, _⟩ := mem_catalog_iff.1 hentry
  obtain ⟨below, hbelow⟩ := hstands
  refine ⟨endpointUrl_toNode entry, ⟨below, hbelow⟩, ?_⟩
  rw [canAttach_iff_offers hnamed hfields hfound htype hbelow]
  exact offers_toNode hentry

/-- One step of growth keeps all connections healthy. -/
theorem HealthyBelow.grows (hnamed : schema.Named) (hfields : schema.FieldsNamed)
    {node grown : Node} (h : schema.HealthyBelow url node) (hgrows : schema.Grows url node grown) :
    schema.HealthyBelow url grown := by
  induction hgrows with
  | @slot node hobject =>
    apply h.with_children
    intro child hchild
    left
    simpa using hchild
  | @choice node found entry hobject hfound hentry hfragment =>
    apply h.with_children
    intro child hchild
    rw [List.mem_append, List.mem_singleton, Option.some.injEq] at hchild
    rcases hchild with hold | rfl
    · exact Or.inl hold
    · right
      have hedge := @healthy_toNode schema url hnamed hfields node found entry hfound hentry
      exact ⟨hedge hfragment, healthyBelow_toNode entry⟩
  | @deeper node child grown before after hchildren hgrows ih =>
    have hold : child ∈ node.selections := by simp [Node.selections, hchildren]
    obtain ⟨hedge, hbelow⟩ := healthyBelow_iff.1 h child hold
    apply h.with_children
    intro other hother
    rw [hchildren]
    rw [List.mem_append, List.mem_cons, Option.some.injEq] at hother
    rcases hother with hbefore | rfl | hafter
    · exact Or.inl (List.mem_append_left _ hbefore)
    · -- The grown child is in the place of the old one and stands for the same.
      right
      refine ⟨?_, ih hbelow⟩
      rw [hgrows.eq_with_children]
      exact hedge.above _
    · exact Or.inl (List.mem_append_right _ (List.mem_cons_of_mem _ hafter))

/-! ## Grown trees -/

/-- A tree of healthy connections below a field of the root type. -/
structure HealthyTree (schema : Schema) (url : String) (root : Node) : Prop where
  sameUrl : root.endpointUrl = url
  stands : ∃ found, root.resolve schema = .ok found
  entryPoint : ∃ type, schema.root? = some type ∧ type.hasField root.name = true
  below : schema.HealthyBelow url root

theorem HealthyTree.grows (hnamed : schema.Named) (hfields : schema.FieldsNamed)
    {root grown : Node} (h : schema.HealthyTree url root) (hgrows : schema.Grows url root grown) :
    schema.HealthyTree url grown := by
  have hbelow := h.below.grows hnamed hfields hgrows
  rw [hgrows.eq_with_children] at hbelow ⊢
  exact ⟨h.sameUrl, h.stands, h.entryPoint, hbelow⟩

theorem Grown.healthyTree (hnamed : schema.Named) (hfields : schema.FieldsNamed) {root : Node}
    (h : schema.Grown url root) : schema.HealthyTree url root := by
  induction h with
  | @start entry hentry =>
    obtain ⟨type, field, htype, hfield, _⟩ := (field_mem_catalog_iff hfields).1 hentry
    refine ⟨rfl, exists_resolve_field hfields hentry, ⟨type, htype, ?_⟩, ?_⟩
    · exact Option.isSome_iff_exists.2 ⟨field, hfield⟩
    · exact healthyBelow_toNode (.field entry)
  | more _ hgrows ih => exact ih.grows hnamed hfields hgrows

end Schema

/-- A tree that grew from the chooser of an endpoint may stand under the query of every instance
there; each of its connections may be made, and its check reports nothing. -/
theorem Registry.clean_of_grown {value : Json} {schema : Schema}
    (haccepted : Schema.ofJson value = .ok schema) {registry : Registry} {url id : String}
    (hcached : registry.schema url = some schema) (hinstance : registry.endpoint? id = some url)
    {root : Node} (h : schema.Grown url root) :
    registry.canAttach root (.query id) = true ∧
    (∀ parent child, root.Contains parent → child ∈ parent.selections →
      registry.canAttach child (.selection parent) = true) ∧
    schema.validate root = [] ∧ registry.validate root = [] := by
  have htree := h.healthyTree (Schema.named_of_ofJson haccepted)
    (Schema.fieldsNamed_of_ofJson haccepted)
  have hclean : schema.validate root = [] := by
    rw [Schema.validate_eq_nil_iff]
    refine ⟨htree.stands, ?_⟩
    intro parent child hparent hchild
    have hedge := htree.below parent child hparent hchild
    exact ⟨hedge.stands, hedge.fits⟩
  refine ⟨?_, ?_, hclean, ?_⟩
  · obtain ⟨type, htype, hhas⟩ := htree.entryPoint
    simp [canAttach, hinstance, htree.sameUrl, hcached, htype, hhas]
  · intro parent child hparent hchild
    have hedge := htree.below parent child hparent hchild
    have hup := htree.below.endpointUrl_eq htree.sameUrl hparent
    rw [canAttach_of_schema (hup.trans hedge.sameUrl.symm) (by rwa [hedge.sameUrl])]
    exact hedge.fits
  · rwa [validate_of_schema (by rwa [htree.sameUrl])]

/-! ## A grown query -/

namespace UserListing

/-- The query grows in three steps from the entry for queries, so it is clean. -/
theorem clean_of_grown_query :
    ∃ schema, Schema.ofJson listing = .ok schema ∧
      (registry schema).schema "http://a" = some schema ∧
      (registry schema).endpoint? "editor" = some "http://a" ∧
      schema.Grown "http://a" (query "http://a") ∧
      (registry schema).canAttach (query "http://a") (.query "editor") = true ∧
      (registry schema).validate (query "http://a") = [] := by
  have hlisted : ∃ schema, Schema.ofJson listing = .ok schema ∧
      .field ⟨"query", rootName, true, some "A GraphQL query.", false, []⟩ ∈
        schema.catalog rootName ∧
      (∃ found, (Node.objectField "http://a" rootName "query").resolve schema = .ok found ∧
        .field ⟨"node", "Query", true, none, false, []⟩ ∈ schema.catalog found.baseType) ∧
      (∃ found, (Node.objectField "http://a" "Query" "node").resolve schema = .ok found ∧
        .fragment "User" ∈ schema.catalog found.baseType) ∧
      (∃ type, schema.type? "User" = some type ∧ type.kind ∈ compositeKinds) ∧
      ∃ found, (Node.fragment "http://a" "User").resolve schema = .ok found ∧
        .field ⟨"name", "User", false, none, false, []⟩ ∈ schema.catalog found.baseType := by
    refine ⟨_, rfl, ?_, ⟨_, rfl, ?_⟩, ⟨_, rfl, ?_⟩, ⟨_, rfl, by decide⟩, ⟨_, rfl, ?_⟩⟩
    · exact List.mem_of_getElem? (i := 0) rfl
    · exact List.mem_of_getElem? (i := 0) rfl
    · exact List.mem_of_getElem? (i := 1) rfl
    · exact List.mem_of_getElem? (i := 0) rfl
  obtain ⟨schema, haccepted, hquery, ⟨_, hroot, hnode⟩, ⟨_, hfield, huser⟩, htype,
    ⟨_, hfragment, hname⟩⟩ := hlisted
  have hstart := @Schema.Grown.start schema "http://a" _ hquery
  have hfirst := hstart.more (.choice rfl hroot hnode (by simp))
  have hsecond := hfirst.more
    (Schema.Grows.last (.choice rfl hfield huser (by simpa using htype)) _)
  have hthird := hsecond.more
    (Schema.Grows.last (Schema.Grows.last (.choice rfl hfragment hname (by simp)) _) _)
  have hcached : (registry schema).schema "http://a" = some schema := rfl
  have hinstance : (registry schema).endpoint? "editor" = some "http://a" := rfl
  obtain ⟨hplace, _, _, hclean⟩ := Registry.clean_of_grown haccepted hcached hinstance hthird
  exact ⟨schema, haccepted, hcached, hinstance, hthird, hplace, hclean⟩

end UserListing

end QueryTree
