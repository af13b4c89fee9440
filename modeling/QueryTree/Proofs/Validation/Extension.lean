import QueryTree.Proofs.Validation.Typing

/-! # Schemas that grow

A schema that is fetched again may have grown. If it keeps what it had, a clean tree stays clean. The
check says nothing under a parent of an unknown type, and there a type that is added could turn
silence into an issue. But where the bases of all fields are listed, no parent in a clean tree is of
an unknown type. -/

namespace QueryTree

/-! ## Growth -/

/-- The type has kept its kind, its fields with their base types and its possible types. -/
structure TypeDef.Extends (later earlier : TypeDef) : Prop where
  kind : later.kind = earlier.kind
  fields : ∀ name field, earlier.field? name = some field →
    ∃ kept, later.field? name = some kept ∧ kept.type.baseName = field.type.baseName ∧
      kept.type.baseKind = field.type.baseKind
  possibleTypes : ∀ possible ∈ earlier.possibleTypes,
    ∃ kept ∈ later.possibleTypes, kept.baseName = possible.baseName

/-- The schema has kept its types. -/
def Schema.Extends (later earlier : Schema) : Prop :=
  ∀ name type, earlier.type? name = some type →
    ∃ kept, later.type? name = some kept ∧ kept.Extends type

theorem TypeDef.extends_iff (later earlier : TypeDef) :
    later.Extends earlier ↔
      later.kind = earlier.kind ∧
      (∀ entry ∈ earlier.fields.entries, ∃ kept ∈ later.field? entry.1,
        kept.type.baseName = entry.2.type.baseName ∧ kept.type.baseKind = entry.2.type.baseKind) ∧
      ∀ possible ∈ earlier.possibleTypes,
        ∃ kept ∈ later.possibleTypes, kept.baseName = possible.baseName := by
  constructor
  · rintro ⟨hkind, hfields, hpossible⟩
    exact ⟨hkind, earlier.fields.forall_find?_iff.1 hfields, hpossible⟩
  · rintro ⟨hkind, hfields, hpossible⟩
    exact ⟨hkind, earlier.fields.forall_find?_iff.2 hfields, hpossible⟩

theorem Schema.extends_iff (later earlier : Schema) :
    later.Extends earlier ↔ ∀ entry ∈ earlier.types.entries,
      ∃ kept ∈ later.type? entry.1, kept.Extends entry.2 := by
  constructor
  · intro h
    exact earlier.types.forall_find?_iff.1 h
  · intro h
    exact earlier.types.forall_find?_iff.2 h

instance (later earlier : TypeDef) : Decidable (later.Extends earlier) :=
  decidable_of_iff _ (later.extends_iff earlier).symm

instance (later earlier : Schema) : Decidable (later.Extends earlier) :=
  decidable_of_iff _ (later.extends_iff earlier).symm

/-! ## One node -/

section Steps

variable {earlier later : Schema}

/-- What a node stands for keeps its base type. -/
theorem Node.exists_resolve_of_extends (hnamed : earlier.Named) (hnamed' : later.Named)
    (hextends : later.Extends earlier) {node : Node} {found : Resolution}
    (h : node.resolve earlier = .ok found) :
    ∃ kept, node.resolve later = .ok kept ∧ kept.baseType = found.baseType := by
  obtain ⟨htarget, hshape⟩ := (resolve_eq_ok_iff ..).1 h
  simp only [resolve_eq_ok_iff]
  cases hparent : node.parentTypeName with
  | none =>
    obtain ⟨type, htype, rfl⟩ := target_of_fragment hparent htarget
    obtain ⟨kept, hkept, hsame⟩ := hextends _ _ htype
    refine ⟨⟨kept.name, kept.kind, none⟩, ⟨?_, ?_⟩, ?_⟩
    · simp only [target, hparent, hkept]
    · rw [← hshape, ← hsame.kind]
    · exact (hnamed' _ _ hkept).trans (hnamed _ _ htype).symm
  | some owner =>
    obtain ⟨type, field, htype, hfield, rfl⟩ := target_of_field hparent htarget
    obtain ⟨kept, hkept, hsame⟩ := hextends _ _ htype
    obtain ⟨keptField, hkeptField, hname, hkind⟩ := hsame.fields _ _ hfield
    refine ⟨⟨keptField.type.baseName, keptField.type.baseKind, some keptField⟩, ⟨?_, ?_⟩, hname⟩
    · simp only [target, hparent, hkept, hkeptField]
    · rw [← hshape, ← hkind]

theorem TypeDef.Extends.acceptsFragment {later earlier : TypeDef} (h : later.Extends earlier)
    (hname : later.name = earlier.name) {name : String}
    (haccepts : earlier.acceptsFragment name = true) : later.acceptsFragment name = true := by
  simp only [TypeDef.acceptsFragment, Bool.or_eq_true, beq_iff_eq, List.any_eq_true, hname]
    at haccepts ⊢
  rcases haccepts with hself | ⟨possible, hpossible, hbase⟩
  · exact Or.inl hself
  · obtain ⟨kept, hkept, hsame⟩ := h.possibleTypes possible hpossible
    exact Or.inr ⟨kept, hkept, hsame.trans hbase⟩

theorem TypeDef.Extends.hasField {later earlier : TypeDef} (h : later.Extends earlier)
    {name : String} (hhas : earlier.hasField name = true) : later.hasField name = true := by
  obtain ⟨field, hfield⟩ := Option.isSome_iff_exists.1 hhas
  obtain ⟨kept, hkept, _⟩ := h.fields name field hfield
  exact Option.isSome_iff_exists.2 ⟨kept, hkept⟩

/-- What fits under a parent of a known type still fits. -/
theorem Schema.canAttach_of_extends (hnamed : earlier.Named) (hnamed' : later.Named)
    (hextends : later.Extends earlier) {parent child : Node} {above : Resolution} {type : TypeDef}
    (habove : parent.resolve earlier = .ok above)
    (htype : earlier.type? above.baseType = some type)
    (hfits : earlier.canAttach child parent = true) : later.canAttach child parent = true := by
  obtain ⟨keptAbove, hkeptAbove, hbase⟩ :=
    Node.exists_resolve_of_extends hnamed hnamed' hextends habove
  obtain ⟨kept, hkept, hsame⟩ := hextends _ _ htype
  have hname : kept.name = type.name := (hnamed' _ _ hkept).trans (hnamed _ _ htype).symm
  simp only [canAttach, habove, htype] at hfits
  simp only [canAttach, hkeptAbove, hbase, hkept]
  cases hparent : child.parentTypeName with
  | none =>
    rw [hparent] at hfits
    exact hsame.acceptsFragment hname hfits
  | some owner =>
    rw [hparent, Bool.and_eq_true] at hfits
    rw [Bool.and_eq_true]
    exact ⟨hfits.1, hsame.hasField hfits.2⟩

end Steps

/-! ## Whole trees -/

/-- A tree that is clean in a schema which lists the base of every field's type is clean in each
schema that extends it. -/
theorem Schema.validate_eq_nil_of_extends {value laterValue : Json} {earlier later : Schema}
    (haccepted : Schema.ofJson value = .ok earlier)
    (haccepted' : Schema.ofJson laterValue = .ok later) (hlisted : earlier.BasesListed)
    (hextends : later.Extends earlier) {root : Node} (hclean : earlier.validate root = []) :
    later.validate root = [] := by
  have hnamed := named_of_ofJson haccepted
  have hnamed' := named_of_ofJson haccepted'
  obtain ⟨⟨found, hfound⟩, hedges⟩ := (validate_eq_nil_iff ..).1 hclean
  have hresolves : ∀ {node : Node}, (∃ found, node.resolve earlier = .ok found) →
      ∃ kept, node.resolve later = .ok kept := by
    rintro node ⟨found, hfound⟩
    obtain ⟨kept, hkept, _⟩ := Node.exists_resolve_of_extends hnamed hnamed' hextends hfound
    exact ⟨kept, hkept⟩
  refine (validate_eq_nil_iff ..).2 ⟨hresolves ⟨found, hfound⟩, ?_⟩
  intro parent child hcontains hchild
  obtain ⟨hself, hfits⟩ := hedges parent child hcontains hchild
  refine ⟨hresolves hself, ?_⟩
  -- A parent in a clean tree stands for something, and so for a listed type.
  obtain ⟨above, habove⟩ := hedges.exists_resolve ⟨found, hfound⟩ hcontains
  obtain ⟨type, htype⟩ := exists_type_of_resolve hnamed hlisted habove
  exact canAttach_of_extends hnamed hnamed' hextends habove htype hfits

/-! ## A second object -/

namespace UserListing

/-- The listing with a second object below the interface and with a field of the interface. The name
of a user has got an argument and a wrapper. -/
def grownListing : Json :=
  .object [("queryType", .object [("name", .text "Query")]), ("types", .array [
    .object [("kind", .text "OBJECT"), ("name", .text "Team"),
      ("fields", .array [field "id" (reference .scalar "ID")])],
    .object [("kind", .text "OBJECT"), ("name", .text "Query"),
      ("fields", .array [field "node" (reference .interface "Node")])],
    .object [("kind", .text "INTERFACE"), ("name", .text "Node"),
      ("fields", .array [field "id" (reference .scalar "ID")]),
      ("possibleTypes", .array [reference .object "Team", reference .object "User"])],
    .object [("kind", .text "OBJECT"), ("name", .text "User"),
      ("fields", .array [.object [("name", .text "name"),
        ("args", .array [field "short" (reference .scalar "Boolean")]),
        ("type", (TypeRef.nonNull (.named .scalar "String")).toJson)]])],
    .object [("kind", .text "SCALAR"), ("name", .text "String")]])]

/-- The query is clean in the first listing, so it is in the second. -/
theorem validate_grown_query :
    ∃ earlier later, Schema.ofJson listing = .ok earlier ∧ Schema.ofJson grownListing = .ok later ∧
      earlier.BasesListed ∧ later.Extends earlier ∧ earlier.validate (query "http://a") = [] ∧
      later.validate (query "http://a") = [] := by
  have hlisted : ∃ earlier later, Schema.ofJson listing = .ok earlier ∧
      Schema.ofJson grownListing = .ok later ∧ earlier.BasesListed ∧ later.Extends earlier ∧
      earlier.validate (query "http://a") = [] :=
    ⟨_, _, rfl, rfl, by decide, by decide, by decide⟩
  obtain ⟨earlier, later, haccepted, haccepted', hbases, hextends, hclean⟩ := hlisted
  exact ⟨earlier, later, haccepted, haccepted', hbases, hextends, hclean,
    Schema.validate_eq_nil_of_extends haccepted haccepted' hbases hextends hclean⟩

end UserListing

end QueryTree
