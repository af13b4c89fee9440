import Mathlib.Data.List.Forall2
import QueryTree.Schema.Build

/-! # Names in a built schema

A schema that is built from a listing holds each type under its own name, the root type included,
and a type its fields likewise. So what a name leads to has that name, whatever names the listing
repeats. -/

namespace QueryTree

namespace Schema

/-- The types stand under their own names. -/
def Named (schema : Schema) : Prop :=
  ∀ name type, schema.type? name = some type → type.name = name

/-- The fields of each type stand under their own names. -/
def FieldsNamed (schema : Schema) : Prop :=
  ∀ typeName type, schema.type? typeName = some type →
    ∀ name field, type.field? name = some field → field.name = name

/-- The base of every field's type is a type of the schema. -/
def BasesListed (schema : Schema) : Prop :=
  ∀ type ∈ schema.types.values, ∀ field ∈ type.fields.values,
    schema.hasType field.type.baseName = true

instance (schema : Schema) : Decidable schema.BasesListed :=
  inferInstanceAs (Decidable (∀ type ∈ schema.types.values, ∀ field ∈ type.fields.values,
    schema.hasType field.type.baseName = true))

theorem BasesListed.exists_type {schema : Schema} (h : schema.BasesListed) {typeName name : String}
    {type : TypeDef} {field : FieldDef} (htype : schema.type? typeName = some type)
    (hfield : type.field? name = some field) :
    ∃ base, schema.type? field.type.baseName = some base := by
  have hhas := h type ((Table.mem_values_iff ..).2 ⟨typeName, htype⟩) field
    ((Table.mem_values_iff ..).2 ⟨name, hfield⟩)
  rwa [hasType, Option.isSome_iff_exists] at hhas

end Schema

/-! ## Results -/

instance decidableExistsOk {α ε : Type} (result : Except ε α) (p : α → Prop) [DecidablePred p] :
    Decidable (∃ value, result = .ok value ∧ p value) :=
  match result with
  | .ok value => decidable_of_iff (p value) (by simp)
  | .error _ => .isFalse (by simp)

section Results

variable {α β ε : Type} {f : α → Except ε β} {items : List α} {results : List β}

theorem mapM_eq_ok_iff :
    items.mapM f = .ok results ↔
      List.Forall₂ (fun item result => f item = .ok result) items results := by
  induction items generalizing results with
  | nil =>
    rw [List.forall₂_nil_left_iff, List.mapM_nil]
    simp [pure, Except.pure, eq_comm]
  | cons item rest ih =>
    rw [List.mapM_cons, List.forall₂_cons_left_iff]
    simp only [← ih]
    cases f item with
    | error error => simp [bind, Except.bind]
    | ok first =>
      cases rest.mapM f with
      | error error => simp [bind, Except.bind]
      | ok others => simp [bind, Except.bind, pure, Except.pure, eq_comm]

theorem exists_forall₂_iff {relation : α → β → Prop} :
    (∃ results, List.Forall₂ relation items results) ↔
      ∀ item ∈ items, ∃ result, relation item result := by
  induction items with
  | nil => simp
  | cons item rest ih =>
    rw [List.forall_mem_cons, ← ih]
    simp only [List.forall₂_cons_left_iff]
    constructor
    · rintro ⟨_, first, others, hfirst, hothers, _⟩
      exact ⟨⟨first, hfirst⟩, ⟨others, hothers⟩⟩
    · rintro ⟨⟨first, hfirst⟩, ⟨others, hothers⟩⟩
      exact ⟨_, first, others, hfirst, hothers, rfl⟩

theorem exists_of_mem_forall₂ {relation : α → β → Prop} (h : List.Forall₂ relation items results)
    {result : β} (hresult : result ∈ results) : ∃ item ∈ items, relation item result := by
  induction h with
  | nil => cases hresult
  | @cons item first rest others hitem _ ih =>
    rcases List.mem_cons.1 hresult with rfl | hmem
    · exact ⟨item, List.mem_cons_self, hitem⟩
    · obtain ⟨other, hother, hrelated⟩ := ih hmem
      exact ⟨other, List.mem_cons_of_mem _ hother, hrelated⟩

end Results

/-! ## Built schemas -/

namespace ListedType

theorem toDef_eq_ok_iff {listed : ListedType} {type : TypeDef} :
    listed.toDef = .ok type ↔
      ∃ fields possibleTypes, (listed.fields.getD []).mapM ListedField.toDef = .ok fields ∧
        (listed.possibleTypes.getD []).mapM TypeRef.ofChain = .ok possibleTypes ∧
        type = ⟨listed.name, listed.kind, listed.description,
          (Table.ofList (fields.map fun field => (field.name, field))).insert typenameField .typename,
          possibleTypes⟩ := by
  unfold toDef
  cases (listed.fields.getD []).mapM ListedField.toDef with
  | error error => simp [bind, Except.bind]
  | ok fields =>
    cases (listed.possibleTypes.getD []).mapM TypeRef.ofChain with
    | error error => simp [bind, Except.bind]
    | ok possibleTypes => simp [bind, Except.bind, eq_comm]

/-- A field of a built type has its own name, the field for the type's name among them. -/
theorem name_of_field? {listed : ListedType} {type : TypeDef} (h : listed.toDef = .ok type)
    {name : String} {field : FieldDef} (hfield : type.field? name = some field) :
    field.name = name := by
  obtain ⟨fields, possibleTypes, _, _, rfl⟩ := toDef_eq_ok_iff.1 h
  rw [TypeDef.field?, Table.find?_insert] at hfield
  split at hfield
  · next htypename =>
    rw [← Option.some.inj hfield]
    exact htypename
  · exact (Table.mem_of_find?_ofList_map hfield).2

end ListedType

namespace Listing

theorem toSchema_eq_ok_iff {listing : Listing} {schema : Schema} :
    listing.toSchema = .ok schema ↔
      ∃ types, listing.types.mapM ListedType.toDef = .ok types ∧
        schema = ⟨listing.queryType, listing.mutationType,
          (Table.ofList (types.map fun type => (type.name, type))).insert rootName
            listing.root⟩ := by
  unfold toSchema
  cases listing.types.mapM ListedType.toDef with
  | error error => simp [bind, Except.bind]
  | ok types => simp [bind, Except.bind, eq_comm]

/-- A type of a built schema is the root type, or it is built from a listed one and stands under its
own name. -/
theorem type_cases {listing : Listing} {schema : Schema} (h : listing.toSchema = .ok schema)
    {name : String} {type : TypeDef} (htype : schema.type? name = some type) :
    (name = rootName ∧ type = listing.root) ∨
      ∃ listed ∈ listing.types, listed.toDef = .ok type ∧ type.name = name := by
  obtain ⟨types, htypes, rfl⟩ := toSchema_eq_ok_iff.1 h
  rw [Schema.type?, Table.find?_insert] at htype
  split at htype
  · next hroot => exact Or.inl ⟨hroot.symm, (Option.some.inj htype).symm⟩
  · obtain ⟨hmem, hname⟩ := Table.mem_of_find?_ofList_map htype
    obtain ⟨listed, hlisted, hdef⟩ := exists_of_mem_forall₂ (mapM_eq_ok_iff.1 htypes) hmem
    exact Or.inr ⟨listed, hlisted, hdef, hname⟩

theorem named_of_toSchema {listing : Listing} {schema : Schema}
    (h : listing.toSchema = .ok schema) : schema.Named := by
  intro name type htype
  obtain ⟨rfl, rfl⟩ | ⟨_, _, _, hname⟩ := type_cases h htype
  · rfl
  · exact hname

theorem fieldsNamed_of_toSchema {listing : Listing} {schema : Schema}
    (h : listing.toSchema = .ok schema) : schema.FieldsNamed := by
  intro typeName type htype name field hfield
  obtain ⟨rfl, rfl⟩ | ⟨listed, _, hdef, _⟩ := type_cases h htype
  · exact (Table.mem_of_find?_ofList_map hfield).2
  · exact listed.name_of_field? hdef hfield

end Listing

namespace Schema

theorem exists_listing_of_ofJson {value : Json} {schema : Schema}
    (h : Schema.ofJson value = .ok schema) :
    ∃ listing, Listing.ofJson value = .ok listing ∧ listing.toSchema = .ok schema := by
  unfold Schema.ofJson at h
  split at h
  · cases h
  · next listing hread =>
    split at h
    · cases h
    · next built hbuilt =>
      cases h
      exact ⟨listing, hread, hbuilt⟩

/-- The text of a response holds the value that a schema is built from. -/
theorem exists_value_of_ofResponseText {text : String} {schema : Schema}
    (h : Schema.ofResponseText text = .ok schema) : ∃ value, Schema.ofJson value = .ok schema := by
  unfold Schema.ofResponseText ofTextWith at h
  split at h
  · cases h
  · unfold ofResponse at h
    split at h
    · cases h
    · split at h
      · cases h
      · cases h
      · exact ⟨_, h⟩

theorem named_of_ofJson {value : Json} {schema : Schema} (h : Schema.ofJson value = .ok schema) :
    schema.Named := by
  obtain ⟨listing, _, hbuilt⟩ := exists_listing_of_ofJson h
  exact Listing.named_of_toSchema hbuilt

theorem fieldsNamed_of_ofJson {value : Json} {schema : Schema}
    (h : Schema.ofJson value = .ok schema) : schema.FieldsNamed := by
  obtain ⟨listing, _, hbuilt⟩ := exists_listing_of_ofJson h
  exact Listing.fieldsNamed_of_toSchema hbuilt

end Schema

end QueryTree
