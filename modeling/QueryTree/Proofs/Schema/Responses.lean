import QueryTree.Proofs.Json.Records
import QueryTree.Proofs.Schema.Names

/-! # Whole responses

A response gives a schema only if it fits and reports no errors. What is under `__schema` is looked
at last: a list of errors that can be read wins over any schema, and one that cannot be read, or
data that is no record, makes the response malformed whatever else it holds. -/

namespace QueryTree

open Json (IsRecord part? given? asString asOptional asArray bind_eq_ok_iff)

/-! ## What a response holds -/

def ReportedError.keys : List String := ["message", "extensions", "path"]

/-- The value spells the error. -/
structure ReportedError.IsSpelledBy (error : ReportedError) (value : Json) : Prop where
  isRecord : value.IsRecord keys
  message : value.part? keys "message" = some (.text error.message)
  extensions : given? (value.part? keys "extensions") = error.extensions
  path : given? (value.part? keys "path") = error.path.map Json.array

namespace Json

def data? (response : Json) : Option Json := given? (response.member? "data")

def errors? (response : Json) : Option Json := given? (response.member? "errors")

/-- What the data holds under `__schema`. -/
def schema? (response : Json) : Option Json :=
  given? (response.data?.bind (part? ["__schema"] "__schema"))

/-- Data that is there is a record. -/
def DataFits (response : Json) : Prop := ∀ data ∈ response.data?, data.IsRecord ["__schema"]

def ErrorsFit (response : Json) : Prop :=
  ∀ value ∈ response.errors?, ∃ items, value = .array items ∧
    ∀ item ∈ items, ∃ error : ReportedError, error.IsSpelledBy item

end Json

/-- The response, or the schema in it, does not have the shape that it must have. -/
def SchemaError.IsMalformed : SchemaError → Prop
  | .mismatch _ | .chain _ => True
  | _ => False

/-! ## Reading the parts -/

section Decoders

variable {α : Type} {value : Json} {found : Option Json}

theorem asArray_eq_ok_iff {decode : Json → Except Json.Mismatch α} {results : List α} :
    asArray decode value = .ok results ↔ ∃ items, value = .array items ∧
      List.Forall₂ (fun item result => decode item = .ok result) items results := by
  cases value <;> simp [asArray, mapM_eq_ok_iff]

theorem asString_eq_ok_iff {text : String} : asString value = .ok text ↔ value = .text text := by
  cases value <;> simp [asString]

theorem exists_asString_iff {text : String} :
    (∃ part, found = some part ∧ asString part = .ok text) ↔ found = some (.text text) := by
  simp only [asString_eq_ok_iff, exists_eq_right]

theorem rel_asString_iff {text : Option String} :
    Option.Rel (fun part text => asString part = .ok text) found text ↔
      found = text.map Json.text := by
  cases found <;> cases text <;> simp [asString_eq_ok_iff]

theorem rel_asPresent_iff {present : Option Json} :
    Option.Rel (fun part present => asPresent part = .ok present) found present ↔
      found = present := by
  cases found <;> cases present <;> simp [asPresent]

theorem rel_asItems_iff {items : Option (List Json)} :
    Option.Rel (fun part items => asArray asPresent part = .ok items) found items ↔
      found = items.map Json.array := by
  cases found <;> cases items <;>
    simp [asArray_eq_ok_iff, asPresent, List.forall₂_eq_eq_eq]

end Decoders

theorem ReportedError.ofJson_eq_ok_iff {value : Json} {error : ReportedError} :
    ReportedError.ofJson value = .ok error ↔ error.IsSpelledBy value := by
  unfold ReportedError.ofJson
  simp only [bind_eq_ok_iff]
  constructor
  · rintro ⟨fields, hfields, _, _, found, hmessage, message, hrequired, ⟨⟩, hclose, extensions,
      hextensions, path, hpath, ⟨⟩⟩
    have hopens := Json.Fields.opens_of_close hfields hclose
    have hmessage := (hopens.getRequired_iff (by decide)).1 ⟨_, hmessage, hrequired⟩
    have hextensions := (hopens.getOptional_iff (by decide)).1 ⟨_, hextensions, rfl⟩
    have hpath := (hopens.getOptional_iff (by decide)).1 ⟨_, hpath, rfl⟩
    exact ⟨hopens.isRecord, exists_asString_iff.1 hmessage, rel_asPresent_iff.1 hextensions,
      rel_asItems_iff.1 hpath⟩
  · rintro ⟨hrecord, hmessage, hextensions, hpath⟩
    obtain ⟨fields, hfields, hopens⟩ := Json.Fields.exists_opens hrecord
    obtain ⟨message, hmessage, hrequired⟩ :=
      (hopens.getRequired_iff (by decide)).2 (exists_asString_iff.2 hmessage)
    obtain ⟨extensions, hextensions, hjoined⟩ :=
      (hopens.getOptional_iff (by decide)).2 (rel_asPresent_iff.2 hextensions)
    obtain ⟨path, hpath, hsteps⟩ :=
      (hopens.getOptional_iff (by decide)).2 (rel_asItems_iff.2 hpath)
    -- All fields can be read, so no fault is told before the record is made.
    refine ⟨fields, hfields, (), Json.Fields.agree_of_none ?_, message, hmessage, _,
      hrequired, (), hopens.close, extensions, hextensions, path, hpath, ?_⟩
    · simp [hmessage, hextensions, hpath, Json.Fields.fault?]
    · rw [hjoined, hsteps]

/-! ## Reading a response -/

namespace Response

theorem schemaOfData_eq_ok_iff {data : Json} {schema : Option Json} :
    schemaOfData data = .ok schema ↔
      data.IsRecord ["__schema"] ∧ given? (data.part? ["__schema"] "__schema") = schema := by
  unfold schemaOfData
  simp only [bind_eq_ok_iff]
  constructor
  · rintro ⟨fields, hfields, _, _, ⟨⟩, hclose, found, hfound, ⟨⟩⟩
    have hopens := Json.Fields.opens_of_close hfields hclose
    have hfound := (hopens.getOptional_iff (by decide)).1 ⟨_, hfound, rfl⟩
    exact ⟨hopens.isRecord, rel_asPresent_iff.1 hfound⟩
  · rintro ⟨hrecord, hschema⟩
    obtain ⟨fields, hfields, hopens⟩ := Json.Fields.exists_opens hrecord
    obtain ⟨found, hfound, rfl⟩ :=
      (hopens.getOptional_iff (by decide)).2 (rel_asPresent_iff.2 hschema)
    refine ⟨fields, hfields, (), Json.Fields.agree_of_none ?_, (), hopens.close, found, hfound, rfl⟩
    simp [hfound, Json.Fields.fault?]

theorem exists_rel_schemaOfData_iff {found schema : Option Json} :
    (∃ result, Option.Rel (fun data result => schemaOfData data = .ok result) found result ∧
      result.join = schema) ↔
      (∀ data ∈ found, data.IsRecord ["__schema"]) ∧
        given? (found.bind (part? ["__schema"] "__schema")) = schema := by
  simp only [schemaOfData_eq_ok_iff]
  cases found with
  | none =>
    constructor
    · rintro ⟨_, ⟨⟩, rfl⟩
      exact ⟨nofun, rfl⟩
    · rintro ⟨_, rfl⟩
      exact ⟨none, .none, rfl⟩
  | some data =>
    constructor
    · rintro ⟨_, ⟨hrecord, rfl⟩, rfl⟩
      exact ⟨fun _ hmem => Option.some.inj hmem ▸ hrecord, rfl⟩
    · rintro ⟨hrecord, rfl⟩
      exact ⟨some _, .some ⟨hrecord data rfl, rfl⟩, rfl⟩

structure IsSpelledBy (response : Response) (value : Json) : Prop where
  dataFits : value.DataFits
  schema : value.schema? = response.schema
  errors : Option.Rel (fun value errors => ∃ items, value = .array items ∧
    List.Forall₂ (fun item (error : ReportedError) => error.IsSpelledBy item) items errors)
      value.errors? response.errors

theorem ofJson_eq_ok_iff {members : List (String × Json)} {response : Response} :
    Response.ofJson (.object members) = .ok response ↔
      response.IsSpelledBy (.object members) := by
  unfold Response.ofJson
  simp only [bind_eq_ok_iff]
  constructor
  · rintro ⟨fields, hfields, _, _, ⟨⟩, hclose, data, hdata, errors, herrors, ⟨⟩⟩
    have hopens := Json.Fields.opens_of_close hfields hclose
    have hdata := (hopens.getOptional_iff (by decide)).1 ⟨_, hdata, rfl⟩
    have herrors := (hopens.getOptional_iff (by decide)).1 ⟨_, herrors, rfl⟩
    obtain ⟨hrecord, hschema⟩ := exists_rel_schemaOfData_iff.1 ⟨_, hdata, rfl⟩
    simp only [asArray_eq_ok_iff, ReportedError.ofJson_eq_ok_iff] at herrors
    exact ⟨hrecord, hschema, herrors⟩
  · rintro ⟨hrecord, hschema, herrors⟩
    have hobject : IsRecord ["data", "errors"] (.object members) := trivial
    obtain ⟨fields, hfields, hopens⟩ := Json.Fields.exists_opens hobject
    obtain ⟨result, hresult, hholds⟩ := exists_rel_schemaOfData_iff.2 ⟨hrecord, hschema⟩
    simp only [← ReportedError.ofJson_eq_ok_iff, ← asArray_eq_ok_iff] at herrors
    obtain ⟨data, hdata, hjoined⟩ := (hopens.getOptional_iff (by decide)).2 hresult
    obtain ⟨errors, herrors, hlisted⟩ := (hopens.getOptional_iff (by decide)).2 herrors
    refine ⟨fields, hfields, (), Json.Fields.agree_of_none ?_, (), hopens.close, data, hdata,
      errors, herrors, ?_⟩
    · simp [hdata, herrors, Json.Fields.fault?]
    · rw [hjoined, hholds, hlisted]

variable {value : Json} {schema : Option Json}

theorem isSpelledBy_none_iff :
    IsSpelledBy ⟨schema, none⟩ value ↔
      value.DataFits ∧ value.errors? = none ∧ value.schema? = schema := by
  constructor
  · rintro ⟨hdata, hschema, herrors⟩
    generalize value.errors? = found at herrors
    cases herrors
    exact ⟨hdata, rfl, hschema⟩
  · rintro ⟨hdata, herrors, hschema⟩
    refine ⟨hdata, hschema, ?_⟩
    rw [herrors]
    exact .none

theorem isSpelledBy_some_iff {errors : List ReportedError} :
    IsSpelledBy ⟨schema, some errors⟩ value ↔
      value.DataFits ∧ value.schema? = schema ∧ ∃ items, value.errors? = some (.array items) ∧
        List.Forall₂ (fun item (error : ReportedError) => error.IsSpelledBy item) items errors := by
  constructor
  · rintro ⟨hdata, hschema, herrors⟩
    generalize value.errors? = found at herrors
    obtain ⟨items, rfl, hitems⟩ := herrors
    exact ⟨hdata, hschema, items, rfl, hitems⟩
  · rintro ⟨hdata, hschema, items, herrors, hitems⟩
    refine ⟨hdata, hschema, ?_⟩
    rw [herrors]
    exact .some ⟨items, rfl, hitems⟩

theorem exists_isSpelledBy_iff :
    (∃ response : Response, response.IsSpelledBy value) ↔ value.DataFits ∧ value.ErrorsFit := by
  constructor
  · rintro ⟨⟨schema, _ | errors⟩, h⟩
    · obtain ⟨hdata, hnone, _⟩ := isSpelledBy_none_iff.1 h
      exact ⟨hdata, by simp [Json.ErrorsFit, hnone]⟩
    · obtain ⟨hdata, _, items, hlisted, hitems⟩ := isSpelledBy_some_iff.1 h
      refine ⟨hdata, fun found hfound => ⟨items, ?_, exists_forall₂_iff.1 ⟨errors, hitems⟩⟩⟩
      exact Option.some.inj (hfound.symm.trans hlisted)
  · rintro ⟨hdata, herrors⟩
    cases hfound : value.errors? with
    | none => exact ⟨_, isSpelledBy_none_iff.2 ⟨hdata, hfound, rfl⟩⟩
    | some found =>
      obtain ⟨items, rfl, hitems⟩ := herrors found hfound
      obtain ⟨errors, hlisted⟩ := exists_forall₂_iff.2 hitems
      exact ⟨_, isSpelledBy_some_iff.2 ⟨hdata, rfl, items, hfound, hlisted⟩⟩

end Response

/-! ## Schemas from responses -/

namespace Schema

theorem isMalformed_of_ofJson {value : Json} {error : SchemaError}
    (h : Schema.ofJson value = .error error) : error.IsMalformed := by
  unfold Schema.ofJson at h
  split at h
  · cases h
    trivial
  · split at h <;> cases h
    trivial

theorem ofJson_ne_reported (value : Json) (errors : List ReportedError) :
    Schema.ofJson value ≠ .error (.reported errors) := fun h => isMalformed_of_ofJson h

theorem ofJson_ne_absent (value : Json) : Schema.ofJson value ≠ .error .absent := fun h =>
  isMalformed_of_ofJson h

variable {value : Json}

theorem ofResponse_eq_ok_iff {schema : Schema} :
    ofResponse value = .ok schema ↔
      ∃ found, Response.ofJson value = .ok ⟨some found, none⟩ ∧ ofJson found = .ok schema := by
  unfold ofResponse
  rcases Response.ofJson value with mismatch | ⟨_ | found, _ | errors⟩ <;> simp

theorem ofResponse_eq_reported_iff {errors : List ReportedError} :
    ofResponse value = .error (.reported errors) ↔
      ∃ schema, Response.ofJson value = .ok ⟨schema, some errors⟩ := by
  unfold ofResponse
  rcases Response.ofJson value with mismatch | ⟨_ | found, _ | listed⟩ <;>
    simp [ofJson_ne_reported]

theorem ofResponse_eq_absent_iff :
    ofResponse value = .error .absent ↔ Response.ofJson value = .ok ⟨none, none⟩ := by
  unfold ofResponse
  rcases Response.ofJson value with mismatch | ⟨_ | found, _ | listed⟩ <;>
    simp [ofJson_ne_absent]

theorem error_cases {error : SchemaError} (h : ofResponse value = .error error) :
    (∃ errors, error = .reported errors) ∨ error = .absent ∨ error.IsMalformed := by
  unfold ofResponse at h
  split at h
  · cases h
    exact .inr (.inr trivial)
  · split at h
    · cases h
      exact .inl ⟨_, rfl⟩
    · cases h
      exact .inr (.inl rfl)
    · exact .inr (.inr (isMalformed_of_ofJson h))

/-- A response gives a schema just if it reports no errors and its schema can be built. Errors that
can be read win over any schema, and without errors or a schema the schema is absent. Every other
failure is of something malformed. -/
theorem ofResponse_of_object (members : List (String × Json)) :
    let response := Json.object members
    ((∃ read, Response.ofJson response = .ok read) ↔ response.DataFits ∧ response.ErrorsFit) ∧
    (∀ schema, ofResponse response = .ok schema ↔
      response.DataFits ∧ response.errors? = none ∧
        ∃ found, response.schema? = some found ∧ ofJson found = .ok schema) ∧
    (∀ errors, ofResponse response = .error (.reported errors) ↔
      response.DataFits ∧ ∃ items, response.errors? = some (.array items) ∧
        List.Forall₂ (fun item (error : ReportedError) => error.IsSpelledBy item) items errors) ∧
    (ofResponse response = .error .absent ↔
      response.DataFits ∧ response.errors? = none ∧ response.schema? = none) ∧
    ∀ error, ofResponse response = .error error →
      (∃ errors, error = .reported errors) ∨ error = .absent ∨ error.IsMalformed := by
  refine ⟨?_, fun schema => ?_, fun errors => ?_, ?_, fun error => error_cases⟩
  · simp only [Response.ofJson_eq_ok_iff]
    exact Response.exists_isSpelledBy_iff
  · simp only [ofResponse_eq_ok_iff, Response.ofJson_eq_ok_iff, Response.isSpelledBy_none_iff,
      and_assoc, exists_and_left]
  · simp only [ofResponse_eq_reported_iff, Response.ofJson_eq_ok_iff,
      Response.isSpelledBy_some_iff, exists_and_left, exists_and_right, exists_eq', true_and]
  · rw [ofResponse_eq_absent_iff, Response.ofJson_eq_ok_iff, Response.isSpelledBy_none_iff]

/-- An error may be an array of its fields, and so may the data. -/
theorem reported_by_arrays :
    ofResponse (.object [("errors", .array [.array [.text "boom"]])]) =
        .error (.reported [⟨"boom", none, none⟩]) ∧
      ofResponse (.object [("data", .array []), ("errors", .array [])]) = .error (.reported []) ∧
      ∀ errors, ¬ (SchemaError.reported errors).IsMalformed :=
  ⟨rfl, rfl, fun _ => id⟩

end Schema

/-! ### One schema in several responses -/

namespace NoTypes

def data : Json := .object [("__schema", .object [("types", .array [])])]

theorem dataFits (members : List (String × Json)) :
    (Json.object (("data", data) :: members)).DataFits := by
  intro found hfound
  cases hfound
  trivial

/-- The schema is built, unless there are errors, and not looked at in data that is a text. -/
theorem ofResponse_of_object_noTypes :
    (∃ schema, Schema.ofResponse (.object [("data", data)]) = .ok schema) ∧
    Schema.ofResponse (.object [("data", data), ("errors", .array [])]) = .error (.reported []) ∧
    Schema.ofResponse (.object [("errors", .null)]) = .error .absent ∧
    ∀ error, Schema.ofResponse (.object [("data", .text "none")]) = .error error →
      error.IsMalformed := by
  obtain ⟨schema, hschema⟩ :
      ∃ schema, Schema.ofJson (.object [("types", .array [])]) = .ok schema := ⟨_, rfl⟩
  refine ⟨⟨schema, ?_⟩, ?_, ?_, fun error h => ?_⟩
  · exact ((Schema.ofResponse_of_object _).2.1 schema).2 ⟨dataFits _, rfl, _, rfl, hschema⟩
  · exact ((Schema.ofResponse_of_object _).2.2.1 _).2 ⟨dataFits _, [], rfl, .nil⟩
  · exact (Schema.ofResponse_of_object _).2.2.2.1.2 ⟨nofun, rfl, rfl⟩
  · obtain ⟨_, _, hreported, habsent, hcases⟩ :=
      Schema.ofResponse_of_object [("data", .text "none")]
    obtain ⟨errors, rfl⟩ | rfl | hmalformed := hcases error h
    · exact (((hreported errors).1 h).1 _ rfl).elim
    · exact ((habsent.1 h).1 _ rfl).elim
    · exact hmalformed

end NoTypes

end QueryTree
