import QueryTree.Proofs.Schema.Chains
import QueryTree.Proofs.Schema.Names
import QueryTree.Proofs.Schema.Spelled

/-! # What a built schema holds

A schema holds its types and their fields in the order in which the listing names them first, and
with what the listing says of them last. What the builder adds, the root type and the fields for the
types' names, comes last unless the listing names it too. A listing with a chain that spells no type
gives no schema, even where the chain is part of something that is listed again. -/

namespace QueryTree

/-! ## Parts of a listing -/

/-- What is listed last under the name. -/
def ListedType.lastField? (listed : ListedType) (name : String) : Option ListedField :=
  (listed.fields.getD []).findRev? fun field => field.name = name

theorem ListedType.mem_of_lastField? {listed : ListedType} {name : String} {field : ListedField}
    (h : listed.lastField? name = some field) : field ∈ listed.fields.getD [] := by
  rw [lastField?, List.findRev?_eq_find?_reverse] at h
  exact List.mem_reverse.1 (List.mem_of_find?_eq_some h)

def Listing.lastType? (listing : Listing) (name : String) : Option ListedType :=
  listing.types.findRev? fun type => type.name = name

def ListedField.chains (listed : ListedField) : List Chain :=
  listed.arguments.map ListedArgument.type ++ [listed.type]

def ListedType.chains (listed : ListedType) : List Chain :=
  (listed.fields.getD []).flatMap ListedField.chains ++ listed.possibleTypes.getD []

def Listing.chains (listing : Listing) : List Chain := listing.types.flatMap ListedType.chains

def FieldDef.references (field : FieldDef) : List TypeRef :=
  field.arguments.map ArgumentDef.type ++ [field.type]

def TypeDef.references (type : TypeDef) : List TypeRef :=
  type.fields.values.flatMap FieldDef.references ++ type.possibleTypes

/-- The root's fields with the names of their types. -/
def Schema.operations (schema : Schema) : List (String × String) :=
  (schema.queryType.map fun type => ("query", type)).toList ++
    (schema.mutationType.map fun type => ("mutation", type)).toList

/-! ## What is said of what -/

structure ListedArgument.Describes (listed : ListedArgument) (argument : ArgumentDef) : Prop where
  name : argument.name = listed.name
  description : argument.description = listed.description
  type : listed.type.Spells argument.type
  defaultValue : argument.defaultValue = listed.defaultValue

structure ListedField.Describes (listed : ListedField) (field : FieldDef) : Prop where
  name : field.name = listed.name
  description : field.description = listed.description
  arguments : List.Forall₂ ListedArgument.Describes listed.arguments field.arguments
  type : listed.type.Spells field.type
  isDeprecated : field.isDeprecated = listed.isDeprecated
  deprecationReason : field.deprecationReason = listed.deprecationReason

/-- The type has the listed fields and one for its name, whatever is listed for that. -/
structure ListedType.Describes (listed : ListedType) (type : TypeDef) : Prop where
  name : type.name = listed.name
  kind : type.kind = listed.kind
  description : type.description = listed.description
  order : type.fields.keys =
    ((listed.fields.getD []).map ListedField.name ++ [typenameField]).eraseDups
  fields : ∀ name field, name ≠ typenameField → type.field? name = some field →
    ∃ last, listed.lastField? name = some last ∧ last.Describes field
  typename : ∃ field, type.field? typenameField = some field ∧
    field.type = .nonNull (.named .scalar "String") ∧ field.arguments = [] ∧
      field.isDeprecated = false
  possibleTypes : List.Forall₂ Chain.Spells (listed.possibleTypes.getD []) type.possibleTypes

structure Listing.Describes (listing : Listing) (schema : Schema) : Prop where
  queryType : schema.queryType = listing.queryType
  mutationType : schema.mutationType = listing.mutationType
  named : schema.Named
  fieldsNamed : schema.FieldsNamed
  order : schema.types.keys = (listing.types.map ListedType.name ++ [rootName]).eraseDups
  types : ∀ name type, name ≠ rootName → schema.type? name = some type →
    ∃ last, listing.lastType? name = some last ∧ last.Describes type
  root : ∃ type, schema.root? = some type ∧ type.kind = .object ∧
    type.hasField typenameField = false ∧
    (type.fields.entries.map fun entry => (entry.1, entry.2.type)) =
      schema.operations.map fun operation => (operation.1, .named .object operation.2)
  grounded : ∀ type ∈ schema.types.values, ∀ reference ∈ type.references,
    reference.baseKind.isWrapper = false

/-! ## Arguments and fields -/

theorem ListedArgument.toDef_eq_ok_iff {listed : ListedArgument} {argument : ArgumentDef} :
    listed.toDef = .ok argument ↔ listed.Describes argument := by
  obtain ⟨name, description, type, defaultValue⟩ := argument
  unfold toDef
  constructor
  · intro h
    cases hread : TypeRef.ofChain listed.type with
    | error error => rw [hread] at h; cases h
    | ok read =>
      rw [hread] at h
      cases h
      exact ⟨rfl, rfl, Chain.spells_of_ofChain hread, rfl⟩
  · rintro ⟨rfl, rfl, htype, rfl⟩
    rw [Chain.ofChain_of_spells htype]
    rfl

theorem ListedField.toDef_eq_ok_iff {listed : ListedField} {field : FieldDef} :
    listed.toDef = .ok field ↔ listed.Describes field := by
  have harguments : ∀ arguments, listed.arguments.mapM ListedArgument.toDef = .ok arguments ↔
      List.Forall₂ ListedArgument.Describes listed.arguments arguments := by
    intro arguments
    rw [mapM_eq_ok_iff]
    simp only [ListedArgument.toDef_eq_ok_iff]
  obtain ⟨name, description, arguments, type, isDeprecated, deprecationReason⟩ := field
  unfold toDef
  constructor
  · intro h
    cases hmap : listed.arguments.mapM ListedArgument.toDef with
    | error error => rw [hmap] at h; cases h
    | ok converted =>
      cases hread : TypeRef.ofChain listed.type with
      | error error => rw [hmap, hread] at h; cases h
      | ok read =>
        rw [hmap, hread] at h
        cases h
        exact ⟨rfl, rfl, (harguments _).1 hmap, Chain.spells_of_ofChain hread, rfl, rfl⟩
  · rintro ⟨rfl, rfl, hall, htype, rfl, rfl⟩
    rw [(harguments _).2 hall, Chain.ofChain_of_spells htype]
    rfl

theorem ListedField.Describes.isWrapper_baseKind {listed : ListedField} {field : FieldDef}
    (h : listed.Describes field) {reference : TypeRef} (hreference : reference ∈ field.references) :
    reference.baseKind.isWrapper = false := by
  rw [FieldDef.references, List.mem_append, List.mem_map, List.mem_singleton] at hreference
  obtain ⟨argument, hargument, rfl⟩ | rfl := hreference
  · obtain ⟨item, _, hitem⟩ := exists_of_mem_forall₂ h.arguments hargument
    exact hitem.type.isWrapper_baseKind
  · exact h.type.isWrapper_baseKind

/-! ## Types -/

section Lists

variable {α β : Type} {relation : α → β → Prop} {items : List α} {results : List β}

theorem map_eq_of_forall₂ {γ : Type} (h : List.Forall₂ relation items results) {f : α → γ}
    {g : β → γ} (hsame : ∀ item result, relation item result → g result = f item) :
    results.map g = items.map f := by
  induction h with
  | nil => rfl
  | cons hfirst _ ih => rw [List.map_cons, List.map_cons, hsame _ _ hfirst, ih]

theorem rel_findRev? (h : List.Forall₂ relation items results) {p : α → Bool} {q : β → Bool}
    (hsame : ∀ item result, relation item result → q result = p item) :
    Option.Rel relation (items.findRev? p) (results.findRev? q) := by
  induction h with
  | nil => exact .none
  | @cons item result rest others hfirst _ ih =>
    simp only [List.findRev?]
    generalize rest.findRev? p = last at ih ⊢
    generalize others.findRev? q = lastResult at ih ⊢
    cases ih with
    | some hlast => exact .some hlast
    | none =>
      simp only [hsame _ _ hfirst]
      split
      · exact .some hfirst
      · exact .none

theorem exists_of_findRev?_forall₂ (h : List.Forall₂ relation items results) {p : α → Bool}
    {q : β → Bool} (hsame : ∀ item result, relation item result → q result = p item)
    {result : β} (hresult : results.findRev? q = some result) :
    ∃ item, items.findRev? p = some item ∧ relation item result := by
  have hrel := rel_findRev? h hsame
  rw [hresult] at hrel
  generalize items.findRev? p = last at hrel ⊢
  cases hrel with
  | some hlast => exact ⟨_, rfl, hlast⟩

end Lists

theorem ListedType.describes_of_toDef {listed : ListedType} {type : TypeDef}
    (h : listed.toDef = .ok type) : listed.Describes type := by
  obtain ⟨fields, possibleTypes, hfields, hpossible, rfl⟩ := toDef_eq_ok_iff.1 h
  rw [mapM_eq_ok_iff] at hfields hpossible
  simp only [ListedField.toDef_eq_ok_iff] at hfields
  simp only [Chain.ofChain_eq_ok_iff] at hpossible
  have hnames : fields.map FieldDef.name = (listed.fields.getD []).map ListedField.name :=
    map_eq_of_forall₂ hfields fun _ _ hfield => hfield.name
  refine ⟨rfl, rfl, rfl, ?_, ?_, ⟨.typename, ?_, rfl, rfl, rfl⟩, hpossible⟩
  · rw [← hnames]
    exact Table.keys_insert_ofList_map ..
  · intro name field hname hfield
    rw [TypeDef.field?, Table.find?_insert_of_ne hname, Table.find?_ofList_map] at hfield
    apply exists_of_findRev?_forall₂ hfields _ hfield
    intro item result hitem
    rw [hitem.name]
  · exact Table.find?_insert_self _ _ _

theorem ListedType.Describes.isWrapper_baseKind {listed : ListedType} {type : TypeDef}
    (h : listed.Describes type) {reference : TypeRef} (hreference : reference ∈ type.references) :
    reference.baseKind.isWrapper = false := by
  rw [TypeDef.references, List.mem_append, List.mem_flatMap] at hreference
  obtain ⟨field, hfield, hreference⟩ | hpossible := hreference
  · obtain ⟨name, hname⟩ := (Table.mem_values_iff ..).1 hfield
    by_cases htypename : name = typenameField
    · obtain ⟨own, hown, htype, harguments, _⟩ := h.typename
      rw [htypename] at hname
      obtain rfl : own = field := Option.some.inj (hown.symm.trans hname)
      simp only [FieldDef.references, harguments, htype, List.map_nil, List.nil_append,
        List.mem_singleton] at hreference
      rw [hreference]
      rfl
    · obtain ⟨last, _, hlast⟩ := h.fields name field htypename hname
      exact hlast.isWrapper_baseKind hreference
  · obtain ⟨chain, _, hchain⟩ := exists_of_mem_forall₂ h.possibleTypes hpossible
    exact hchain.isWrapper_baseKind

/-! ## The root -/

namespace Listing

variable {listing : Listing}

theorem exists_entryPoint_of_field? {name : String} {field : FieldDef}
    (h : listing.root.field? name = some field) :
    (name = "query" ∨ name = "mutation") ∧
      ∃ description type, field = .entryPoint name description type := by
  obtain ⟨hmem, rfl⟩ := Table.mem_of_find?_ofList_map h
  rw [entryPoints, List.mem_append, Option.mem_toList, Option.mem_toList, Option.map_eq_some_iff,
    Option.map_eq_some_iff] at hmem
  obtain ⟨type, _, rfl⟩ | ⟨type, _, rfl⟩ := hmem
  · exact ⟨Or.inl rfl, _, type, rfl⟩
  · exact ⟨Or.inr rfl, _, type, rfl⟩

theorem isWrapper_baseKind_root {reference : TypeRef} (h : reference ∈ listing.root.references) :
    reference.baseKind.isWrapper = false := by
  rw [TypeDef.references, List.mem_append, List.mem_flatMap] at h
  obtain ⟨field, hfield, hreference⟩ | htarget := h
  · obtain ⟨name, hname⟩ := (Table.mem_values_iff ..).1 hfield
    obtain ⟨_, _, _, rfl⟩ := exists_entryPoint_of_field? hname
    obtain rfl := List.mem_singleton.1 hreference
    rfl
  · obtain ⟨type, htype, rfl⟩ := List.mem_map.1 htarget
    have hkind := (List.mem_filter.1 htype).2
    simp only [ListedType.isFragmentTarget, Bool.and_eq_true, Bool.or_eq_true, beq_iff_eq] at hkind
    obtain ⟨hobject | hinterface, _⟩ := hkind
    · rw [TypeRef.baseKind, hobject]
      rfl
    · rw [TypeRef.baseKind, hinterface]
      rfl

theorem entries_root :
    (listing.root.fields.entries.map fun entry => (entry.1, entry.2.type)) =
      ((listing.queryType.map fun type => ("query", type)).toList ++
        (listing.mutationType.map fun type => ("mutation", type)).toList).map
          fun operation => (operation.1, .named .object operation.2) := by
  cases hquery : listing.queryType <;> cases hmutation : listing.mutationType <;>
    simp [root, entryPoints, hquery, hmutation, Table.ofList, Table.insert, Table.empty,
      Entries.put, FieldDef.entryPoint]

theorem not_hasField_typename_root : listing.root.hasField typenameField = false := by
  rw [TypeDef.hasField, Option.isSome_eq_false_iff, Option.isNone_iff_eq_none]
  cases hfield : listing.root.field? typenameField with
  | none => rfl
  | some field =>
    obtain ⟨hname, _⟩ := exists_entryPoint_of_field? hfield
    exact absurd hname (by decide)

/-! ## Whole schemas -/

theorem describes_of_toSchema {schema : Schema} (h : listing.toSchema = .ok schema) :
    listing.Describes schema := by
  have hnamed := named_of_toSchema h
  have hfieldsNamed := fieldsNamed_of_toSchema h
  obtain ⟨types, htypes, rfl⟩ := toSchema_eq_ok_iff.1 h
  have hall : List.Forall₂ ListedType.Describes listing.types types :=
    (mapM_eq_ok_iff.1 htypes).imp fun _ _ htype => ListedType.describes_of_toDef htype
  have hnames : types.map TypeDef.name = listing.types.map ListedType.name :=
    map_eq_of_forall₂ hall fun _ _ htype => htype.name
  -- The root type is written after all listed types, so it takes the place of one with its name.
  refine ⟨rfl, rfl, hnamed, hfieldsNamed, ?_, ?_, ⟨listing.root, ?_, rfl, ?_, ?_⟩, ?_⟩
  · rw [← hnames]
    exact Table.keys_insert_ofList_map ..
  · intro name type hname htype
    rw [Schema.type?, Table.find?_insert_of_ne hname, Table.find?_ofList_map] at htype
    apply exists_of_findRev?_forall₂ hall _ htype
    intro item result hitem
    rw [hitem.name]
  · exact Table.find?_insert_self _ _ _
  · exact not_hasField_typename_root
  · exact entries_root
  · intro type htype reference hreference
    obtain ⟨name, hname⟩ := (Table.mem_values_iff ..).1 htype
    obtain ⟨_, rfl⟩ | ⟨listed, _, hdef, _⟩ := type_cases h hname
    · exact isWrapper_baseKind_root hreference
    · exact (ListedType.describes_of_toDef hdef).isWrapper_baseKind hreference

end Listing

/-! ## Chains that spell nothing -/

theorem Chain.exists_spells_iff {chain : Chain} :
    (∃ type, chain.Spells type) ↔ (TypeRef.ofChain chain).isOk = true := by
  simp only [← ofChain_eq_ok_iff]
  cases TypeRef.ofChain chain <;> simp [Except.isOk, Except.toBool]

theorem ListedArgument.exists_toDef_iff {listed : ListedArgument} :
    (∃ argument, listed.toDef = .ok argument) ↔ ∃ type, listed.type.Spells type := by
  simp only [toDef_eq_ok_iff]
  constructor
  · rintro ⟨argument, h⟩
    exact ⟨_, h.type⟩
  · rintro ⟨type, h⟩
    exact ⟨⟨listed.name, listed.description, type, listed.defaultValue⟩, rfl, rfl, h, rfl⟩

theorem ListedField.exists_toDef_iff {listed : ListedField} :
    (∃ field, listed.toDef = .ok field) ↔ ∀ chain ∈ listed.chains, ∃ type, chain.Spells type := by
  have hchains : (∀ chain ∈ listed.chains, ∃ type, chain.Spells type) ↔
      (∃ arguments, List.Forall₂ ListedArgument.Describes listed.arguments arguments) ∧
        ∃ type, listed.type.Spells type := by
    simp only [exists_forall₂_iff, ← ListedArgument.toDef_eq_ok_iff,
      ListedArgument.exists_toDef_iff, chains, List.mem_append, List.mem_map, List.mem_singleton,
      or_imp, forall_and, forall_exists_index, and_imp, forall_apply_eq_imp_iff₂, forall_eq]
  rw [hchains]
  simp only [toDef_eq_ok_iff]
  constructor
  · rintro ⟨field, h⟩
    exact ⟨⟨_, h.arguments⟩, ⟨_, h.type⟩⟩
  · rintro ⟨⟨arguments, harguments⟩, ⟨type, htype⟩⟩
    exact ⟨⟨listed.name, listed.description, arguments, type, listed.isDeprecated,
      listed.deprecationReason⟩, rfl, rfl, harguments, htype, rfl, rfl⟩

theorem ListedType.exists_toDef_iff {listed : ListedType} :
    (∃ type, listed.toDef = .ok type) ↔ ∀ chain ∈ listed.chains, ∃ type, chain.Spells type := by
  have hchains : (∀ chain ∈ listed.chains, ∃ type, chain.Spells type) ↔
      (∃ fields, (listed.fields.getD []).mapM ListedField.toDef = .ok fields) ∧
        ∃ types, (listed.possibleTypes.getD []).mapM TypeRef.ofChain = .ok types := by
    rw [chains, List.forall_mem_append, List.forall_mem_flatMap]
    simp only [mapM_eq_ok_iff, exists_forall₂_iff, ListedField.exists_toDef_iff,
      Chain.ofChain_eq_ok_iff]
  rw [hchains]
  simp only [toDef_eq_ok_iff]
  constructor
  · rintro ⟨_, fields, types, hfields, htypes, _⟩
    exact ⟨⟨fields, hfields⟩, ⟨types, htypes⟩⟩
  · rintro ⟨⟨fields, hfields⟩, ⟨types, htypes⟩⟩
    exact ⟨_, fields, types, hfields, htypes, rfl⟩

theorem Listing.exists_toSchema_iff {listing : Listing} :
    (∃ schema, listing.toSchema = .ok schema) ↔
      ∀ chain ∈ listing.chains, ∃ type, chain.Spells type := by
  have hchains : (∀ chain ∈ listing.chains, ∃ type, chain.Spells type) ↔
      ∃ types, listing.types.mapM ListedType.toDef = .ok types := by
    rw [chains, List.forall_mem_flatMap]
    simp only [mapM_eq_ok_iff, exists_forall₂_iff, ListedType.exists_toDef_iff]
  rw [hchains]
  simp only [toSchema_eq_ok_iff]
  constructor
  · rintro ⟨_, types, htypes, _⟩
    exact ⟨types, htypes⟩
  · rintro ⟨types, htypes⟩
    exact ⟨_, types, htypes, rfl⟩

/-! ## Schemas from JSON -/

namespace Schema

theorem ofJson_of_listing {value : Json} {listing : Listing}
    (h : Listing.ofJson value = .ok listing) :
    Schema.ofJson value = listing.toSchema.mapError SchemaError.chain := by
  unfold Schema.ofJson
  simp only [h]
  cases listing.toSchema <;> rfl

/-- A value that spells no listing is malformed, and it never spells two. A schema holds what the
spelled listing says last of each thing, and it is built exactly if each chain of the listing spells
a type. -/
theorem built_as_listed (value : Json) :
    (∀ schema, Schema.ofJson value = .ok schema →
      ∃ listing : Listing, listing.IsSpelledBy value ∧ listing.Describes schema) ∧
    ((∀ listing : Listing, ¬ listing.IsSpelledBy value) →
      ∃ mismatch, Schema.ofJson value = .error (.mismatch mismatch)) ∧
    ∀ listing : Listing, listing.IsSpelledBy value →
      (∀ other : Listing, other.IsSpelledBy value → other = listing) ∧
      ((∀ chain ∈ listing.chains, ∃ type, chain.Spells type) →
        ∃ schema, Schema.ofJson value = .ok schema) ∧
      ((∃ chain ∈ listing.chains, ∀ type, ¬ chain.Spells type) →
        ∃ error, Schema.ofJson value = .error (.chain error)) := by
  simp only [← Listing.ofJson_eq_ok_iff]
  refine ⟨?_, ?_, ?_⟩
  · intro schema h
    obtain ⟨listing, hread, hbuilt⟩ := exists_listing_of_ofJson h
    exact ⟨listing, hread, Listing.describes_of_toSchema hbuilt⟩
  · intro hnone
    unfold Schema.ofJson
    split
    · next mismatch _ => exact ⟨mismatch, rfl⟩
    · next listing hread => exact absurd hread (hnone listing)
  · intro listing hread
    refine ⟨fun other hother => Except.ok.inj (hother.symm.trans hread), ?_⟩
    rw [ofJson_of_listing hread]
    constructor
    · intro hchains
      obtain ⟨schema, hschema⟩ := Listing.exists_toSchema_iff.2 hchains
      exact ⟨schema, by rw [hschema]; rfl⟩
    · rintro ⟨chain, hchain, hnone⟩
      cases hbuilt : listing.toSchema with
      | error error => exact ⟨error, rfl⟩
      | ok schema =>
        obtain ⟨type, htype⟩ := Listing.exists_toSchema_iff.1 ⟨schema, hbuilt⟩ chain hchain
        exact absurd htype (hnone type)

end Schema

/-! ## A listing that repeats itself -/

namespace TwiceListed

def int : Chain := .over .nonNull none (.last .scalar (some "Int"))

def texts : Chain := .over .list none (.last .scalar (some "String"))

def argument (name : String) (type : Chain) (defaultValue : Option String) : Json :=
  .object [("name", .text name), ("type", type.toJson), ("defaultValue", .ofOption defaultValue)]

/-- An array of the first fields of the record. -/
def field (name : String) (arguments : List Json) (type : Chain) : Json :=
  .array [.text name, .null, .array arguments, type.toJson]

/-- An object and then an interface of one name. Each has a field `posts`, the second one twice, and
the first of these three fields has an argument of the given type. The interface has a field for its
name, and the root's name is listed too. -/
def value (type : Chain) : Json :=
  .object [("queryType", .object [("name", .text "User")]), ("types", .array [
    .object [("kind", .text "OBJECT"), ("name", .text "User"),
      ("fields", .array [field "posts" [argument "old" type none] int])],
    .object [("kind", .text "ENUM"), ("name", .text rootName)],
    .object [("kind", .text "INTERFACE"), ("name", .text "User"),
      ("fields", .array [field "posts" [] int, field typenameField [] int,
        field "posts" [argument "first" int (some "10"), argument "tags" texts none] texts]),
      ("possibleTypes", .array [.object [("kind", .text "OBJECT"), ("name", .text "Admin")]])]])]

def listedField (name : String) (arguments : List ListedArgument) (type : Chain) : ListedField :=
  ⟨name, none, arguments, type, false, none⟩

def listing (type : Chain) : Listing where
  queryType := some "User"
  mutationType := none
  types := [
    ⟨.object, "User", none, some [listedField "posts" [⟨"old", none, type, none⟩] int], none⟩,
    ⟨.enum, rootName, none, none, none⟩,
    ⟨.interface, "User", none, some [listedField "posts" [] int, listedField typenameField [] int,
      listedField "posts" [⟨"first", none, int, some "10"⟩, ⟨"tags", none, texts, none⟩] texts],
      some [.last .object (some "Admin")]⟩]

/-- The schema has one `posts`, with the arguments that are listed last. A chain without an end
gives no schema, even for an argument of what is listed again. -/
theorem built_as_listed_twice :
    (∃ schema type field, Schema.ofJson (value int) = .ok schema ∧
      schema.types.keys = ["User", rootName] ∧ schema.type? "User" = some type ∧
      type.kind = .interface ∧ type.fields.keys = ["posts", typenameField] ∧
      type.field? "posts" = some field ∧ field.type = .list (.named .scalar "String") ∧
      field.arguments = [⟨"first", none, .nonNull (.named .scalar "Int"), some "10"⟩,
        ⟨"tags", none, .list (.named .scalar "String"), none⟩]) ∧
    ∃ error, Schema.ofJson (value (.last .list none)) = .error (.chain error) := by
  have hspelled : (listing int).IsSpelledBy (value int) := Listing.ofJson_eq_ok_iff.1 rfl
  have hendless : (listing (.last .list none)).IsSpelledBy (value (.last .list none)) :=
    Listing.ofJson_eq_ok_iff.1 rfl
  constructor
  · obtain ⟨hdescribed, -, hread⟩ := Schema.built_as_listed (value int)
    obtain ⟨hunique, hbuilt, -⟩ := hread _ hspelled
    have hchains : ∀ chain ∈ (listing int).chains, ∃ type, chain.Spells type := by
      simp only [Chain.exists_spells_iff]
      decide
    obtain ⟨schema, haccepted⟩ := hbuilt hchains
    obtain ⟨found, hfound, hdescribes⟩ := hdescribed schema haccepted
    obtain rfl := hunique found hfound
    have hkeys : schema.types.keys = ["User", rootName] := hdescribes.order.trans (by decide)
    have huser : "User" ∈ schema.types.keys := by simp [hkeys]
    obtain ⟨type, htype⟩ := Option.isSome_iff_exists.1 ((Table.contains_iff ..).2 huser)
    obtain ⟨last, hlast, htypeDescribes⟩ := hdescribes.types "User" type (by decide) htype
    cases hlast
    have hfieldKeys : type.fields.keys = ["posts", typenameField] :=
      htypeDescribes.order.trans (by decide)
    have hposts : "posts" ∈ type.fields.keys := by simp [hfieldKeys]
    obtain ⟨field, hfield⟩ := Option.isSome_iff_exists.1 ((Table.contains_iff ..).2 hposts)
    obtain ⟨lastField, hlastField, hfieldDescribes⟩ :=
      htypeDescribes.fields "posts" field (by decide) hfield
    cases hlastField
    obtain rfl := Except.ok.inj (ListedField.toDef_eq_ok_iff.2 hfieldDescribes)
    exact ⟨schema, type, _, haccepted, hkeys, htype, htypeDescribes.kind, hfieldKeys, hfield, rfl,
      rfl⟩
  · refine ((Schema.built_as_listed _).2.2 _ hendless).2.2 ⟨.last .list none, by decide, ?_⟩
    rintro _ ⟨⟩

end TwiceListed

end QueryTree
