import QueryTree.Proofs.Validation.Connections

/-! # Choosing and attaching agree

The chooser lists the fields and the possible types of a type, and the check of a connection looks
up names. Since a built schema holds types and fields under their own names, whatever stands for
something may be attached to a selection just if the chooser offers it there. A fragment on the type
itself may be attached too, although it is in no catalog. -/

namespace QueryTree

namespace Schema

variable {schema : Schema} {typeName : String}

/-! ## Entries -/

theorem mem_catalog_iff {entry : CatalogEntry} :
    entry ∈ schema.catalog typeName ↔
      ∃ type, schema.type? typeName = some type ∧ entry ∈ type.catalog typeName := by
  unfold catalog
  cases schema.type? typeName <;> simp

/-- The field entries are the fields that the type finds by name. -/
theorem field_mem_catalog_iff (hfields : schema.FieldsNamed) {entry : FieldEntry} :
    .field entry ∈ schema.catalog typeName ↔
      ∃ type field, schema.type? typeName = some type ∧ type.field? entry.name = some field ∧
        field.entry typeName = entry := by
  rw [mem_catalog_iff]
  constructor
  · rintro ⟨type, htype, hentry⟩
    simp only [TypeDef.catalog, List.mem_append, List.mem_map, CatalogEntry.field.injEq,
      reduceCtorEq, and_false, exists_false, or_false] at hentry
    obtain ⟨field, hmem, rfl⟩ := hentry
    obtain ⟨name, hname⟩ := (Table.mem_values_iff ..).1 hmem
    have hown : field.name = name := hfields typeName type htype name field hname
    exact ⟨type, field, htype, by rw [← hown] at hname; exact hname, rfl⟩
  · rintro ⟨type, field, htype, hfield, rfl⟩
    refine ⟨type, htype, List.mem_append_left _ (List.mem_map.2 ⟨field, ?_, rfl⟩)⟩
    exact (Table.mem_values_iff ..).2 ⟨_, hfield⟩

theorem fragment_mem_catalog_iff {name : String} :
    .fragment name ∈ schema.catalog typeName ↔
      ∃ type, schema.type? typeName = some type ∧
        ∃ possible ∈ type.possibleTypes, possible.baseName = name := by
  rw [mem_catalog_iff]
  simp [TypeDef.catalog]

/-! ## Offers -/

/-- The catalog of the type has an entry for the node: a field of its name, parent type and shape,
or a fragment of its name. A fragment on the type itself needs no entry. -/
def Offers (schema : Schema) (typeName : String) (node : Node) : Prop :=
  (∃ entry, .field entry ∈ schema.catalog typeName ∧ entry.name = node.name ∧
      some entry.parentTypeName = node.parentTypeName ∧ entry.hasChildren = node.isObject) ∨
    (node.isFragment = true ∧
      (.fragment node.name ∈ schema.catalog typeName ∨ node.name = typeName))

theorem offers_field_iff (hfields : schema.FieldsNamed) {type : TypeDef}
    (htype : schema.type? typeName = some type) {node : Node} {owner : String}
    (howner : node.parentTypeName = some owner) {found : Resolution}
    (hfound : node.resolve schema = .ok found) :
    schema.Offers typeName node ↔ owner = typeName ∧ type.hasField node.name = true := by
  have hkind : ¬ node.isFragment = true := by simp [Node.isFragment, howner]
  constructor
  · rintro (⟨entry, hentry, hname, hparent, _⟩ | ⟨hfragment, _⟩)
    · obtain ⟨found, field, hfound, hfield, rfl⟩ := (field_mem_catalog_iff hfields).1 hentry
      rw [htype, Option.some.injEq] at hfound
      subst hfound
      rw [hname] at hfield
      rw [howner, Option.some.injEq] at hparent
      exact ⟨hparent.symm, by rw [TypeDef.hasField, hfield]; rfl⟩
    · exact absurd hfragment hkind
  · rintro ⟨rfl, hhas⟩
    obtain ⟨field, hfield⟩ := Option.isSome_iff_exists.1 hhas
    have hname : field.name = node.name := hfields owner type htype node.name field hfield
    -- What the node stands for is the field of the entry, so the two have one shape.
    obtain ⟨htarget, hshape⟩ := (Node.resolve_eq_ok_iff ..).1 hfound
    obtain ⟨_, _, hsame, hfield', rfl⟩ := Node.target_of_field howner htarget
    rw [htype, Option.some.injEq] at hsame
    subst hsame
    rw [hfield, Option.some.injEq] at hfield'
    subst hfield'
    refine Or.inl ⟨field.entry owner, ?_, hname, howner.symm, hshape⟩
    refine (field_mem_catalog_iff hfields).2 ⟨type, field, htype, ?_, rfl⟩
    change type.field? field.name = some field
    rw [hname]
    exact hfield

theorem offers_fragment_iff (hnamed : schema.Named) {type : TypeDef}
    (htype : schema.type? typeName = some type) {node : Node} (hnone : node.parentTypeName = none) :
    schema.Offers typeName node ↔ type.acceptsFragment node.name = true := by
  have hkind : node.isFragment = true := by simp [Node.isFragment, hnone]
  have hentry : .fragment node.name ∈ schema.catalog typeName ↔
      ∃ possible ∈ type.possibleTypes, possible.baseName = node.name := by
    rw [fragment_mem_catalog_iff, htype]
    simp
  simp only [Offers, hnone, reduceCtorEq, and_false, false_and, exists_false, false_or, hkind,
    true_and, hentry, TypeDef.acceptsFragment, hnamed _ _ htype, Bool.or_eq_true, beq_iff_eq,
    List.any_eq_true]
  rw [or_comm, eq_comm]

/-- Under a parent that stands for a type, what stands for something fits if it is offered there. -/
theorem canAttach_iff_offers (hnamed : schema.Named) (hfields : schema.FieldsNamed)
    {parent child : Node} {above found : Resolution} {type : TypeDef}
    (habove : parent.resolve schema = .ok above)
    (htype : schema.type? above.baseType = some type) (hfound : child.resolve schema = .ok found) :
    schema.canAttach child parent = true ↔ schema.Offers above.baseType child := by
  unfold canAttach
  rw [habove]
  simp only [htype]
  cases hparent : child.parentTypeName with
  | none => exact (offers_fragment_iff hnamed htype hparent).symm
  | some owner =>
    rw [offers_field_iff hfields htype hparent hfound]
    simp

end Schema

/-- Within an endpoint whose schema is kept, a node that stands for something may be attached to a
selection of a known type just if the catalog of that type offers it. -/
theorem Registry.canAttach_selection_iff_offers {value : Json} {schema : Schema}
    (haccepted : Schema.ofJson value = .ok schema) {registry : Registry} {url : String}
    (hcached : registry.schema url = some schema) {parent child : Node}
    (hparentUrl : parent.endpointUrl = url) (hchildUrl : child.endpointUrl = url)
    {above found : Resolution} (habove : parent.resolve schema = .ok above)
    (hlisted : schema.hasType above.baseType = true) (hfound : child.resolve schema = .ok found) :
    registry.canAttach child (.selection parent) = true ↔ schema.Offers above.baseType child := by
  obtain ⟨type, htype⟩ := Option.isSome_iff_exists.1 hlisted
  have hsame : parent.endpointUrl = child.endpointUrl := hparentUrl.trans hchildUrl.symm
  rw [canAttach_of_schema hsame (by rwa [hchildUrl])]
  exact Schema.canAttach_iff_offers (Schema.named_of_ofJson haccepted)
    (Schema.fieldsNamed_of_ofJson haccepted) habove htype hfound

/-! ## Fragments and fields on an interface -/

namespace UserListing

/-- Both nodes stand for something, the parent for something of the type, and this is what the check
of their connection says. -/
def Checked (schema : Schema) (parent child : Node) (typeName : String) (fits : Bool) : Prop :=
  ∃ above found, parent.resolve schema = .ok above ∧ above.baseType = typeName ∧
    schema.hasType typeName = true ∧ child.resolve schema = .ok found ∧
    (registry schema).canAttach child (.selection parent) = fits

/-- Below the interface a fragment on its object is offered, and one on the query type or a field of
the object is not. The query type has an entry for the field that leads to the interface. -/
theorem canAttach_iff_offers_node :
    ∃ schema, Schema.ofJson listing = .ok schema ∧
      (registry schema).schema "http://a" = some schema ∧
      schema.Offers "Node" (.fragment "http://a" "User") ∧
      ¬ schema.Offers "Node" (.fragment "http://a" "Query") ∧
      ¬ schema.Offers "Node" (.field "http://a" "User" "name") ∧
      ∃ entry, .field entry ∈ schema.catalog "Query" ∧ entry.name = "node" ∧
        entry.parentTypeName = "Query" ∧ entry.hasChildren = true := by
  let query := Node.objectField "http://a" rootName "query"
  let node := Node.objectField "http://a" "Query" "node"
  have hchecked : ∃ schema, Schema.ofJson listing = .ok schema ∧
      Checked schema node (.fragment "http://a" "User") "Node" true ∧
      Checked schema node (.fragment "http://a" "Query") "Node" false ∧
      Checked schema node (.field "http://a" "User" "name") "Node" false ∧
      Checked schema query node "Query" true :=
    ⟨_, rfl, ⟨_, _, rfl, rfl, by decide, rfl, by decide⟩,
      ⟨_, _, rfl, rfl, by decide, rfl, by decide⟩,
      ⟨_, _, rfl, rfl, by decide, rfl, by decide⟩, ⟨_, _, rfl, rfl, by decide, rfl, by decide⟩⟩
  obtain ⟨schema, haccepted, huser, hquery, hname, hnode⟩ := hchecked
  have hcached : (registry schema).schema "http://a" = some schema := rfl
  have hoffers : ∀ {parent child : Node} {typeName : String} {fits : Bool},
      parent.endpointUrl = "http://a" → child.endpointUrl = "http://a" →
        Checked schema parent child typeName fits →
          (schema.Offers typeName child ↔ fits = true) := by
    rintro parent child _ _ hparent hchild ⟨above, found, habove, rfl, hlisted, hfound, rfl⟩
    exact (Registry.canAttach_selection_iff_offers haccepted hcached hparent hchild habove hlisted
      hfound).symm
  refine ⟨schema, haccepted, hcached, (hoffers rfl rfl huser).2 rfl, ?_, ?_, ?_⟩
  · rw [hoffers rfl rfl hquery]
    exact Bool.false_ne_true
  · rw [hoffers rfl rfl hname]
    exact Bool.false_ne_true
  · obtain ⟨entry, hentry, hown, hparent, hshape⟩ | ⟨hfragment, -⟩ := (hoffers rfl rfl hnode).2 rfl
    · exact ⟨entry, hentry, hown, Option.some.inj hparent, hshape⟩
    · cases hfragment

end UserListing

end QueryTree
