import QueryTree.Proofs.Schema.Responses

/-! # What spells a listing

A listing is a record of records, and a type reference is a chain of records. For each of them it is
stated here what a JSON value must hold to spell it, and the decoder makes of a value just what the
value spells. -/

namespace QueryTree

open Json (IsRecord part? given? asString asBoolean asOptional asArray bind_eq_ok_iff)
open Json.Fields (fault?)

/-! ## Kinds and chains -/

/-- A kind is spelled by its name, or by an object with the name as its only key over `null`. -/
inductive TypeKind.IsSpelledBy (kind : TypeKind) : Json → Prop
  | name : IsSpelledBy kind (.text kind.name)
  | key : IsSpelledBy kind (.object [(kind.name, .null)])

namespace Chain

def keys : List String := ["kind", "name", "ofType"]

/-- The value is a layer of the kind, with the name if it has one. -/
structure IsLayer (value : Json) (kind : TypeKind) (name : Option String) : Prop where
  isRecord : value.IsRecord keys
  kind : ∃ part, value.part? keys "kind" = some part ∧ kind.IsSpelledBy part
  name : given? (value.part? keys "name") = name.map Json.text

/-- The value under `ofType` spells what is below a layer; without one the chain ends there. -/
inductive IsSpelledBy : Chain → Json → Prop
  | last {kind : TypeKind} {name : Option String} {value : Json} (h : IsLayer value kind name)
    (hbelow : given? (value.part? keys "ofType") = none) : IsSpelledBy (.last kind name) value
  | layer {kind : TypeKind} {name : Option String} {below : Chain} {value part : Json}
    (h : IsLayer value kind name) (hpart : given? (value.part? keys "ofType") = some part)
    (hbelow : below.IsSpelledBy part) : IsSpelledBy (.over kind name below) value

end Chain

/-! ## Types and their parts -/

/-- The value is an array whose items are related to the results in order. -/
def Json.IsArrayOf {α : Type} (spells : α → Json → Prop) (value : Json) (results : List α) : Prop :=
  ∃ items, value = .array items ∧ List.Forall₂ (fun item result => spells result item) items results

def ListedArgument.keys : List String := ["name", "description", "type", "defaultValue"]

structure ListedArgument.IsSpelledBy (argument : ListedArgument) (value : Json) : Prop where
  isRecord : value.IsRecord keys
  name : value.part? keys "name" = some (.text argument.name)
  description : given? (value.part? keys "description") = argument.description.map Json.text
  type : ∃ part, value.part? keys "type" = some part ∧ argument.type.IsSpelledBy part
  defaultValue : given? (value.part? keys "defaultValue") = argument.defaultValue.map Json.text

def ListedField.keys : List String :=
  ["name", "description", "args", "type", "isDeprecated", "deprecationReason"]

/-- A field need not list arguments, and it counts as not deprecated if it does not say so. -/
structure ListedField.IsSpelledBy (field : ListedField) (value : Json) : Prop where
  isRecord : value.IsRecord keys
  name : value.part? keys "name" = some (.text field.name)
  description : given? (value.part? keys "description") = field.description.map Json.text
  arguments : ((value.part? keys "args").getD (.array [])).IsArrayOf ListedArgument.IsSpelledBy
    field.arguments
  type : ∃ part, value.part? keys "type" = some part ∧ field.type.IsSpelledBy part
  isDeprecated : (value.part? keys "isDeprecated").getD (.boolean false) =
    .boolean field.isDeprecated
  deprecationReason :
    given? (value.part? keys "deprecationReason") = field.deprecationReason.map Json.text

def ListedType.keys : List String := ["kind", "name", "description", "fields", "possibleTypes"]

structure ListedType.IsSpelledBy (type : ListedType) (value : Json) : Prop where
  isRecord : value.IsRecord keys
  kind : ∃ part, value.part? keys "kind" = some part ∧ type.kind.IsSpelledBy part
  name : value.part? keys "name" = some (.text type.name)
  description : given? (value.part? keys "description") = type.description.map Json.text
  fields : Option.Rel (Json.IsArrayOf ListedField.IsSpelledBy) (given? (value.part? keys "fields"))
    type.fields
  possibleTypes : Option.Rel (Json.IsArrayOf Chain.IsSpelledBy)
    (given? (value.part? keys "possibleTypes")) type.possibleTypes

/-- The value is a record with the name. -/
def Json.IsNamed (value : Json) (name : String) : Prop :=
  value.IsRecord ["name"] ∧ value.part? ["name"] "name" = some (.text name)

def Listing.keys : List String := ["queryType", "mutationType", "types"]

structure Listing.IsSpelledBy (listing : Listing) (value : Json) : Prop where
  isRecord : value.IsRecord keys
  queryType : Option.Rel Json.IsNamed (given? (value.part? keys "queryType")) listing.queryType
  mutationType :
    Option.Rel Json.IsNamed (given? (value.part? keys "mutationType")) listing.mutationType
  types : ∃ part, value.part? keys "types" = some part ∧
    part.IsArrayOf ListedType.IsSpelledBy listing.types

/-! ## Reading kinds and chains -/

theorem TypeKind.ofName?_eq_some_iff {text : String} {kind : TypeKind} :
    ofName? text = some kind ↔ text = kind.name := by
  constructor
  · intro h
    have hname := List.find?_some h
    exact (of_decide_eq_true hname).symm
  · rintro rfl
    exact ofName?_name kind

theorem TypeKind.named_eq_ok_iff {text : String} {kind : TypeKind} :
    ofJson.named text = .ok kind ↔ text = kind.name := by
  rw [← ofName?_eq_some_iff, ofJson.named]
  cases ofName? text <;> simp

theorem TypeKind.ofJson_eq_ok_iff {value : Json} {kind : TypeKind} :
    TypeKind.ofJson value = .ok kind ↔ kind.IsSpelledBy value := by
  constructor
  · intro h
    unfold ofJson at h
    split at h
    · rw [named_eq_ok_iff.1 h]
      exact .name
    · next name value =>
      simp only [bind_eq_ok_iff] at h
      obtain ⟨found, hname, _, hunit, ⟨⟩⟩ := h
      rw [named_eq_ok_iff.1 hname]
      cases value with
      | null => exact .key
      | boolean | number | text | array | object => cases hunit
    · cases h
    · cases h
  · intro h
    cases h with
    | name => exact named_eq_ok_iff.2 rfl
    | key => rw [ofJson, named_eq_ok_iff.2 rfl]; rfl

namespace Chain

/-- What is read below a layer. -/
def readBelow : Option Json → Except Json.Mismatch (Option Chain)
  | none => .ok none
  | some part => (ofJson part).map some

theorem readBelow_given? (value : Json) :
    readBelow (given? (some value)) =
      if value.isNull then .ok none else (ofJson value).map some := by
  cases value <;> rfl

theorem belowMembers_eq (members : List (String × Json)) :
    belowMembers members = readBelow (given? (Entries.find? "ofType" members)) := by
  induction members with
  | nil => rfl
  | cons member rest ih =>
    obtain ⟨key, value⟩ := member
    rw [belowMembers, Entries.find?]
    split
    · rw [readBelow_given?]
    · exact ih

theorem belowItems_eq (position : Nat) (items : List Json) :
    belowItems position items = readBelow (given? items[position]?) := by
  induction items generalizing position with
  | nil => cases position <;> rfl
  | cons value rest ih =>
    cases position with
    | zero =>
      rw [List.getElem?_cons_zero, readBelow_given?]
      rfl
    | succ position => exact ih position

theorem ofJson_eq (value : Json) :
    ofJson value = layer value (readBelow (given? (value.part? keys "ofType"))) := by
  cases value with
  | object members => rw [ofJson, belowMembers_eq, part?]
  | array items => rw [ofJson, belowItems_eq, part?]; rfl
  | null | boolean | number | text => rfl

theorem layer_eq_ok_iff {value : Json} {below : Except Json.Mismatch (Option Chain)}
    {chain : Chain} :
    layer value below = .ok chain ↔ ∃ kind name found,
      IsLayer value kind name ∧ below = .ok found ∧ make kind name found = chain := by
  unfold layer
  simp only [bind_eq_ok_iff]
  constructor
  · rintro ⟨fields, hfields, _, _, _, hkind, kind, hrequired, name, hname, found, hbelow, _, hclose,
      ⟨⟩⟩
    have hopens := Json.Fields.opens_of_close hfields hclose
    have hkind := (hopens.getRequired_iff (by decide)).1 ⟨_, hkind, hrequired⟩
    simp only [TypeKind.ofJson_eq_ok_iff] at hkind
    have hname := (hopens.getOptional_iff (by decide)).1 ⟨_, hname, rfl⟩
    exact ⟨kind, _, found, ⟨hopens.isRecord, hkind, rel_asString_iff.1 hname⟩, hbelow, rfl⟩
  · rintro ⟨kind, name, found, ⟨hrecord, hkind, hname⟩, rfl, rfl⟩
    obtain ⟨fields, hfields, hopens⟩ := Json.Fields.exists_opens hrecord
    simp only [← TypeKind.ofJson_eq_ok_iff] at hkind
    obtain ⟨_, hkind, hrequired⟩ := (hopens.getRequired_iff (by decide)).2 hkind
    obtain ⟨given, hgiven, rfl⟩ := (hopens.getOptional_iff (by decide)).2 (rel_asString_iff.2 hname)
    refine ⟨fields, hfields, (), Json.Fields.agree_of_none ?_, _, hkind, kind, hrequired, given,
      hgiven, found, rfl, (), hopens.close, rfl⟩
    simp [hkind, hgiven, fault?]

theorem readBelow_eq_ok_iff {found : Option Json} {result : Option Chain} :
    readBelow found = .ok result ↔
      Option.Rel (fun part chain => ofJson part = .ok chain) found result := by
  rcases found with _ | part
  · cases result <;> simp [readBelow]
  · cases hpart : ofJson part <;> cases result <;> simp [readBelow, hpart, Except.map]

theorem ofJson_eq_ok_iff : ∀ {chain : Chain} {value : Json},
    ofJson value = .ok chain ↔ chain.IsSpelledBy value
  | .last kind name, value => by
    rw [ofJson_eq, layer_eq_ok_iff]
    simp only [readBelow_eq_ok_iff]
    constructor
    · rintro ⟨_, _, _ | below, hlayer, hbelow, ⟨⟩⟩
      generalize hpart : given? (value.part? keys "ofType") = part at hbelow
      cases hbelow
      exact .last hlayer hpart
    · rintro (⟨hlayer, hnone⟩)
      exact ⟨kind, name, none, hlayer, by rw [hnone]; exact .none, rfl⟩
  | .over kind name below, value => by
    rw [ofJson_eq, layer_eq_ok_iff]
    simp only [readBelow_eq_ok_iff]
    constructor
    · rintro ⟨_, _, _ | below, hlayer, hbelow, ⟨⟩⟩
      generalize hpart : given? (value.part? keys "ofType") = part at hbelow
      obtain ⟨hbelow⟩ := hbelow
      exact .layer hlayer hpart (ofJson_eq_ok_iff.1 hbelow)
    · rintro (⟨⟩ | ⟨hlayer, hpart, hbelow⟩)
      have hread := ofJson_eq_ok_iff.2 hbelow
      exact ⟨kind, name, some below, hlayer, by rw [hpart]; exact .some hread, rfl⟩

end Chain

/-! ## Reading types and their parts -/

section Kinds

variable {value : Json}

theorem asBoolean_eq_ok_iff {b : Bool} : asBoolean value = .ok b ↔ value = .boolean b := by
  cases value <;> simp [asBoolean]

theorem asArray_eq_ok_iff_isArrayOf {α : Type} {decode : Json → Except Json.Mismatch α}
    {spells : α → Json → Prop} (h : ∀ {item result}, decode item = .ok result ↔ spells result item)
    {results : List α} : asArray decode value = .ok results ↔ value.IsArrayOf spells results := by
  simp only [asArray_eq_ok_iff, h, Json.IsArrayOf]

theorem rel_congr {α β : Type} {relation other : α → β → Prop}
    (h : ∀ item result, relation item result ↔ other item result) {found : Option α}
    {result : Option β} : Option.Rel relation found result ↔ Option.Rel other found result := by
  cases found <;> cases result <;> simp [h]

end Kinds

-- All fields of a record can be read if the value spells it, so no fault is told before it is made.

theorem ListedArgument.ofJson_eq_ok_iff {value : Json} {argument : ListedArgument} :
    ListedArgument.ofJson value = .ok argument ↔ argument.IsSpelledBy value := by
  unfold ListedArgument.ofJson
  simp only [bind_eq_ok_iff]
  constructor
  · rintro ⟨fields, hfields, _, _, _, hname, name, hrequiredName, _, htype, type, hrequiredType, _,
      hclose, description, hdescription, defaultValue, hdefault, ⟨⟩⟩
    have hopens := Json.Fields.opens_of_close hfields hclose
    have hname := (hopens.getRequired_iff (by decide)).1 ⟨_, hname, hrequiredName⟩
    have htype := (hopens.getRequired_iff (by decide)).1 ⟨_, htype, hrequiredType⟩
    simp only [Chain.ofJson_eq_ok_iff] at htype
    have hdescription := (hopens.getOptional_iff (by decide)).1 ⟨_, hdescription, rfl⟩
    have hdefault := (hopens.getOptional_iff (by decide)).1 ⟨_, hdefault, rfl⟩
    exact ⟨hopens.isRecord, exists_asString_iff.1 hname, rel_asString_iff.1 hdescription, htype,
      rel_asString_iff.1 hdefault⟩
  · rintro ⟨hrecord, hname, hdescription, htype, hdefault⟩
    obtain ⟨fields, hfields, hopens⟩ := Json.Fields.exists_opens hrecord
    obtain ⟨_, hname, hrequiredName⟩ :=
      (hopens.getRequired_iff (by decide)).2 (exists_asString_iff.2 hname)
    simp only [← Chain.ofJson_eq_ok_iff] at htype
    obtain ⟨_, htype, hrequiredType⟩ := (hopens.getRequired_iff (by decide)).2 htype
    obtain ⟨description, hdescription, hdescribed⟩ :=
      (hopens.getOptional_iff (by decide)).2 (rel_asString_iff.2 hdescription)
    obtain ⟨defaultValue, hdefault, hdefaulted⟩ :=
      (hopens.getOptional_iff (by decide)).2 (rel_asString_iff.2 hdefault)
    refine ⟨fields, hfields, (), Json.Fields.agree_of_none ?_, _, hname, _, hrequiredName, _, htype,
      _, hrequiredType, (), hopens.close, description, hdescription, defaultValue, hdefault, ?_⟩
    · simp [hname, hdescription, htype, hdefault, fault?]
    · rw [hdescribed, hdefaulted]

theorem ListedField.ofJson_eq_ok_iff {value : Json} {field : ListedField} :
    ListedField.ofJson value = .ok field ↔ field.IsSpelledBy value := by
  have harguments : ∀ {part results}, asArray ListedArgument.ofJson part = .ok results ↔
      part.IsArrayOf ListedArgument.IsSpelledBy results :=
    asArray_eq_ok_iff_isArrayOf ListedArgument.ofJson_eq_ok_iff
  have hnone : asArray ListedArgument.ofJson (.array []) = .ok [] := rfl
  have hfalse : asBoolean (.boolean false) = .ok false := rfl
  unfold ListedField.ofJson
  simp only [bind_eq_ok_iff]
  constructor
  · rintro ⟨fields, hfields, _, _, _, hname, name, hrequiredName, _, htype, type, hrequiredType, _,
      hclose, description, hdescription, arguments, hlisted, isDeprecated, hdeprecated, reason,
      hreason, ⟨⟩⟩
    have hopens := Json.Fields.opens_of_close hfields hclose
    have hname := (hopens.getRequired_iff (by decide)).1 ⟨_, hname, hrequiredName⟩
    have htype := (hopens.getRequired_iff (by decide)).1 ⟨_, htype, hrequiredType⟩
    simp only [Chain.ofJson_eq_ok_iff] at htype
    have hdescription := (hopens.getOptional_iff (by decide)).1 ⟨_, hdescription, rfl⟩
    have hreason := (hopens.getOptional_iff (by decide)).1 ⟨_, hreason, rfl⟩
    have hlisted := (hopens.getDefault_iff (by decide) hnone).1 ⟨_, hlisted, rfl⟩
    have hdeprecated := (hopens.getDefault_iff (by decide) hfalse).1 ⟨_, hdeprecated, rfl⟩
    exact ⟨hopens.isRecord, exists_asString_iff.1 hname, rel_asString_iff.1 hdescription,
      harguments.1 hlisted, htype, asBoolean_eq_ok_iff.1 hdeprecated, rel_asString_iff.1 hreason⟩
  · rintro ⟨hrecord, hname, hdescription, hlisted, htype, hdeprecated, hreason⟩
    obtain ⟨fields, hfields, hopens⟩ := Json.Fields.exists_opens hrecord
    obtain ⟨_, hname, hrequiredName⟩ :=
      (hopens.getRequired_iff (by decide)).2 (exists_asString_iff.2 hname)
    simp only [← Chain.ofJson_eq_ok_iff] at htype
    obtain ⟨_, htype, hrequiredType⟩ := (hopens.getRequired_iff (by decide)).2 htype
    obtain ⟨description, hdescription, hdescribed⟩ :=
      (hopens.getOptional_iff (by decide)).2 (rel_asString_iff.2 hdescription)
    obtain ⟨reason, hreason, hreasoned⟩ :=
      (hopens.getOptional_iff (by decide)).2 (rel_asString_iff.2 hreason)
    obtain ⟨arguments, hlisted, hfound⟩ :=
      (hopens.getDefault_iff (by decide) hnone).2 (harguments.2 hlisted)
    obtain ⟨isDeprecated, hdeprecated, hmarked⟩ :=
      (hopens.getDefault_iff (by decide) hfalse).2 (asBoolean_eq_ok_iff.2 hdeprecated)
    refine ⟨fields, hfields, (), Json.Fields.agree_of_none ?_, _, hname, _, hrequiredName, _, htype,
      _, hrequiredType, (), hopens.close, description, hdescription, arguments, hlisted,
      isDeprecated, hdeprecated, reason, hreason, ?_⟩
    · simp [hname, hdescription, hlisted, htype, hdeprecated, hreason, fault?]
    · rw [hdescribed, hreasoned, hfound, hmarked]

theorem ListedType.ofJson_eq_ok_iff {value : Json} {type : ListedType} :
    ListedType.ofJson value = .ok type ↔ type.IsSpelledBy value := by
  have hlists : ∀ {part results}, asArray ListedField.ofJson part = .ok results ↔
      part.IsArrayOf ListedField.IsSpelledBy results :=
    asArray_eq_ok_iff_isArrayOf ListedField.ofJson_eq_ok_iff
  have hchains : ∀ {part results}, asArray Chain.ofJson part = .ok results ↔
      part.IsArrayOf Chain.IsSpelledBy results :=
    asArray_eq_ok_iff_isArrayOf Chain.ofJson_eq_ok_iff
  unfold ListedType.ofJson
  simp only [bind_eq_ok_iff]
  constructor
  · rintro ⟨fields, hfields, _, _, _, hkind, kind, hrequiredKind, _, hname, name, hrequiredName, _,
      hclose, description, hdescription, listed, hlisted, possible, hpossible, ⟨⟩⟩
    have hopens := Json.Fields.opens_of_close hfields hclose
    have hkind := (hopens.getRequired_iff (by decide)).1 ⟨_, hkind, hrequiredKind⟩
    have hname := (hopens.getRequired_iff (by decide)).1 ⟨_, hname, hrequiredName⟩
    simp only [TypeKind.ofJson_eq_ok_iff] at hkind
    have hdescription := (hopens.getOptional_iff (by decide)).1 ⟨_, hdescription, rfl⟩
    have hlisted := (hopens.getOptional_iff (by decide)).1 ⟨_, hlisted, rfl⟩
    have hpossible := (hopens.getOptional_iff (by decide)).1 ⟨_, hpossible, rfl⟩
    exact ⟨hopens.isRecord, hkind, exists_asString_iff.1 hname, rel_asString_iff.1 hdescription,
      (rel_congr fun _ _ => hlists).1 hlisted, (rel_congr fun _ _ => hchains).1 hpossible⟩
  · rintro ⟨hrecord, hkind, hname, hdescription, hlisted, hpossible⟩
    obtain ⟨fields, hfields, hopens⟩ := Json.Fields.exists_opens hrecord
    obtain ⟨_, hname, hrequiredName⟩ :=
      (hopens.getRequired_iff (by decide)).2 (exists_asString_iff.2 hname)
    simp only [← TypeKind.ofJson_eq_ok_iff] at hkind
    obtain ⟨_, hkind, hrequiredKind⟩ := (hopens.getRequired_iff (by decide)).2 hkind
    obtain ⟨description, hdescription, hdescribed⟩ :=
      (hopens.getOptional_iff (by decide)).2 (rel_asString_iff.2 hdescription)
    have hlisted := (rel_congr fun _ _ => hlists).2 hlisted
    have hpossible := (rel_congr fun _ _ => hchains).2 hpossible
    obtain ⟨listed, hlisted, hfound⟩ := (hopens.getOptional_iff (by decide)).2 hlisted
    obtain ⟨possible, hpossible, hreached⟩ := (hopens.getOptional_iff (by decide)).2 hpossible
    refine ⟨fields, hfields, (), Json.Fields.agree_of_none ?_, _, hkind, _, hrequiredKind, _, hname,
      _, hrequiredName, (), hopens.close, description, hdescription, listed, hlisted, possible,
      hpossible, ?_⟩
    · simp [hkind, hname, hdescription, hlisted, hpossible, fault?]
    · rw [hdescribed, hfound, hreached]

namespace Listing

theorem nameOfJson_eq_ok_iff {value : Json} {name : String} :
    nameOfJson value = .ok name ↔ value.IsNamed name := by
  unfold nameOfJson
  simp only [bind_eq_ok_iff]
  constructor
  · rintro ⟨fields, hfields, _, _, _, hname, _, hrequired, _, hclose, ⟨⟩⟩
    have hopens := Json.Fields.opens_of_close hfields hclose
    have hname := (hopens.getRequired_iff (by decide)).1 ⟨_, hname, hrequired⟩
    exact ⟨hopens.isRecord, exists_asString_iff.1 hname⟩
  · rintro ⟨hrecord, hname⟩
    obtain ⟨fields, hfields, hopens⟩ := Json.Fields.exists_opens hrecord
    obtain ⟨_, hname, hrequired⟩ :=
      (hopens.getRequired_iff (by decide)).2 (exists_asString_iff.2 hname)
    refine ⟨fields, hfields, (), Json.Fields.agree_of_none ?_, _, hname, _, hrequired, (),
      hopens.close, rfl⟩
    simp [hname, fault?]

theorem ofJson_eq_ok_iff {value : Json} {listing : Listing} :
    Listing.ofJson value = .ok listing ↔ listing.IsSpelledBy value := by
  have hlists : ∀ {part results}, asArray ListedType.ofJson part = .ok results ↔
      part.IsArrayOf ListedType.IsSpelledBy results :=
    asArray_eq_ok_iff_isArrayOf ListedType.ofJson_eq_ok_iff
  unfold Listing.ofJson
  simp only [bind_eq_ok_iff]
  constructor
  · rintro ⟨fields, hfields, _, _, _, htypes, _, hrequired, _, hclose, query, hquery, mutation,
      hmutation, ⟨⟩⟩
    have hopens := Json.Fields.opens_of_close hfields hclose
    have htypes := (hopens.getRequired_iff (by decide)).1 ⟨_, htypes, hrequired⟩
    have hquery := (hopens.getOptional_iff (by decide)).1 ⟨_, hquery, rfl⟩
    have hmutation := (hopens.getOptional_iff (by decide)).1 ⟨_, hmutation, rfl⟩
    simp only [hlists] at htypes
    exact ⟨hopens.isRecord, (rel_congr fun _ _ => nameOfJson_eq_ok_iff).1 hquery,
      (rel_congr fun _ _ => nameOfJson_eq_ok_iff).1 hmutation, htypes⟩
  · rintro ⟨hrecord, hquery, hmutation, htypes⟩
    obtain ⟨fields, hfields, hopens⟩ := Json.Fields.exists_opens hrecord
    simp only [← hlists] at htypes
    obtain ⟨_, htypes, hrequired⟩ := (hopens.getRequired_iff (by decide)).2 htypes
    have hquery := (rel_congr fun _ _ => nameOfJson_eq_ok_iff).2 hquery
    have hmutation := (rel_congr fun _ _ => nameOfJson_eq_ok_iff).2 hmutation
    obtain ⟨query, hquery, hqueried⟩ := (hopens.getOptional_iff (by decide)).2 hquery
    obtain ⟨mutation, hmutation, hmutated⟩ := (hopens.getOptional_iff (by decide)).2 hmutation
    refine ⟨fields, hfields, (), Json.Fields.agree_of_none ?_, _, htypes, _, hrequired, (),
      hopens.close, query, hquery, mutation, hmutation, ?_⟩
    · simp [hquery, hmutation, htypes, fault?]
    · rw [hqueried, hmutated]

end Listing

end QueryTree
