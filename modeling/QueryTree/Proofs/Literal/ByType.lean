import QueryTree.Catalog
import QueryTree.Proofs.Literal.Category
import QueryTree.Selection.Query

/-! # Literals by the type itself

An argument keeps the spelling of its declared type, and the kind of the type's base, in place of
the type. The spelling says how deep lists are nested, so literals come out as they would by
recursion on the type. -/

namespace QueryTree

open Text (isName isNameContinue)

/-! ## By recursion on the type -/

namespace Literal

/-- The built-in scalars have rules of their own, and all other types go by their kind. -/
def ofNamed (kind : TypeKind) (name : String) : Json → List Char :=
  if name = "Int" then asInt
  else if name = "Float" then asFloat
  else if name = "String" ∨ name = "ID" then asText
  else if name = "Boolean" then asBoolean
  else asNamed (some kind)

/-- A list type takes a value that is no list as its only item, without brackets. -/
def ofType : TypeRef → Json → List Char
  | _, .null => null
  | .named kind name, value => ofNamed kind name value
  | .list inner, .array items => list (items.map (ofType inner))
  | .list inner, value => ofType inner value
  | .nonNull inner, value => ofType inner value

def ofTypeOrNull (type : TypeRef) (value : Option Json) : List Char :=
  (value.map (ofType type)).getD null

theorem ofType_null (type : TypeRef) : ofType type .null = null := by
  cases type <;> rfl

theorem coerced_null (kind : Option TypeKind) (coercion : Coercion) :
    coerced kind coercion .null = null := by
  cases coercion <;> rfl

theorem coerced_of_ne_null (kind : Option TypeKind) {value : Json} (h : value ≠ .null) :
    coerced kind .int value = asInt value ∧ coerced kind .float value = asFloat value ∧
      coerced kind .text value = asText value ∧ coerced kind .boolean value = asBoolean value ∧
      coerced kind .named value = asNamed kind value := by
  cases value with
  | null => exact absurd rfl h
  | boolean | number | text | array | object => exact ⟨rfl, rfl, rfl, rfl, rfl⟩

theorem coerced_ofName (kind : TypeKind) (name : String) {value : Json} (h : value ≠ .null) :
    coerced (some kind) (.ofName name.toList) value = ofNamed kind name value := by
  obtain ⟨hint, hfloat, htext, hboolean, hnamed⟩ := coerced_of_ne_null (some kind) h
  simp only [Coercion.ofName, ofNamed, String.toList_inj]
  by_cases hisInt : name = "Int"
  · simp only [if_pos hisInt, hint]
  by_cases hisFloat : name = "Float"
  · simp only [if_neg hisInt, if_pos hisFloat, hfloat]
  by_cases hisText : name = "String" ∨ name = "ID"
  · simp only [if_neg hisInt, if_neg hisFloat, if_pos hisText, htext]
  by_cases hisBoolean : name = "Boolean"
  · simp only [if_neg hisInt, if_neg hisFloat, if_neg hisText, if_pos hisBoolean, hboolean]
  · simp only [if_neg hisInt, if_neg hisFloat, if_neg hisText, if_neg hisBoolean, hnamed]

end Literal

/-! ## The spelling of a type -/

namespace TypeRef

/-- No non-null wrapper stands directly around another. -/
def isProper : TypeRef → Bool
  | .named _ _ => true
  | .list inner => inner.isProper
  | .nonNull inner => !inner.isNonNull && inner.isProper

end TypeRef

namespace Coercion

theorem getLast?_ne_of_isName {name : List Char} (h : isName name = true) {c : Char}
    (hc : isNameContinue c = false) : name.getLast? ≠ some c := by
  intro hlast
  have hmem := List.mem_of_getLast? hlast
  rw [Text.isNameContinue_of_mem h c hmem] at hc
  cases hc

theorem item?_of_isName {name : List Char} (h : isName name = true) : item? name = none := by
  obtain ⟨c, rest, rfl, hc⟩ := Text.exists_cons_of_isName h
  unfold item?
  split
  · next heq =>
    obtain ⟨rfl, _⟩ := List.cons.inj heq
    exact absurd hc (by decide)
  · rfl

theorem nullable_spell {type : TypeRef} (hname : isName type.baseName.toList = true)
    (h : type.isNonNull = false) : nullable type.spell = type.spell := by
  apply nullable_eq_self
  cases type with
  | named kind name => exact getLast?_ne_of_isName hname (by decide)
  | list inner =>
    rw [TypeRef.spell, ← List.cons_append, List.getLast?_concat]
    simp
  | nonNull inner => cases h

/-- The spelling of a type tells how the type coerces. -/
theorem ofTypeString_spell {type : TypeRef} (hproper : type.isProper = true)
    (hname : isName type.baseName.toList = true) : ofTypeString type.spell = type.coercion := by
  induction type with
  | named kind name =>
    have hname : isName name.toList = true := hname
    have hnullable : nullable name.toList = name.toList :=
      nullable_eq_self (getLast?_ne_of_isName hname (by decide))
    have hitem : item? (nullable name.toList) = none := by rw [hnullable, item?_of_isName hname]
    rw [TypeRef.spell, ofTypeString_of_none hitem, hnullable]
    rfl
  | list inner ih =>
    have hnullable : nullable (TypeRef.list inner).spell = (TypeRef.list inner).spell :=
      nullable_spell hname rfl
    have hitem : item? (nullable (TypeRef.list inner).spell) = some inner.spell := by
      rw [hnullable]
      simp [TypeRef.spell, item?]
    rw [ofTypeString_of_item hitem, ih hproper hname]
    rfl
  | nonNull inner ih =>
    have hname : isName inner.baseName.toList = true := hname
    rw [TypeRef.isProper, Bool.and_eq_true, Bool.not_eq_true'] at hproper
    have hmark : nullable (inner.spell ++ ['!']) = nullable inner.spell := by
      rw [nullable_mark, nullable_spell hname hproper.1]
    rw [TypeRef.spell, ofTypeString_congr hmark, ih hproper.2 hname]
    rfl

end Coercion

namespace Literal

theorem coerced_coercion (type : TypeRef) (value : Json) :
    coerced (some type.baseKind) type.coercion value = ofType type value := by
  induction type generalizing value with
  | named kind name =>
    by_cases hnull : value = .null
    · rw [hnull, coerced_null, ofType_null]
    · have hofType : ofType (.named kind name) value = ofNamed kind name value := by
        cases value with
        | null => exact absurd rfl hnull
        | boolean | number | text | array | object => rfl
      rw [hofType]
      exact coerced_ofName kind name hnull
  | list inner ih =>
    cases value with
    | null => rfl
    | array items =>
      have hitems : items.map (coerced (some inner.baseKind) inner.coercion) =
          items.map (ofType inner) := List.map_congr_left fun item _ => ih item
      exact congrArg list hitems
    | boolean | number | text | object => exact ih _
  | nonNull inner ih =>
    have hofType : ofType (.nonNull inner) value = ofType inner value := by
      cases value with
      | null => rw [ofType_null, ofType_null]
      | boolean | number | text | array | object => rfl
    rw [hofType]
    exact ih value

/-- Literals by the spelling of a type and the kind of its base are literals by the type. So an
argument whose value was set keeps what its literal needs of the type. -/
theorem render_typeString_eq_ofType {type : TypeRef} (hproper : type.isProper = true)
    (hname : isName type.baseName.toList = true) :
    (∀ value, render value type.typeString (some type.baseKind) = ofTypeOrNull type value) ∧
    ∀ (argument : ArgumentDef) (value : Option Json), argument.type = type →
      Argument.spell { argument.entry.toArgument with value := value } =
        argument.name.toList ++ ':' :: ' ' :: ofTypeOrNull type value := by
  have hrender : ∀ value, render value type.typeString (some type.baseKind) =
      ofTypeOrNull type value := by
    intro value
    cases value with
    | none => rfl
    | some value =>
      rw [render, TypeRef.typeString, String.toList_ofList,
        Coercion.ofTypeString_spell hproper hname, coerced_coercion]
      rfl
  refine ⟨hrender, ?_⟩
  rintro argument value rfl
  rw [← hrender]
  rfl

/-- `[Role!]!` for an enum. -/
def roles : TypeRef := .nonNull (.list (.nonNull (.named .enum "Role")))

theorem render_typeString_roles :
    roles.isProper = true ∧ isName roles.baseName.toList = true ∧
      render (some (.array [.text "ADMIN", .text "GUEST"])) "[Role!]!" (some .enum) =
        "[ADMIN, GUEST]".toList := by
  have hproper : roles.isProper = true := by decide
  have hname : isName roles.baseName.toList = true := by decide
  have hrender := (render_typeString_eq_ofType hproper hname).1
    (some (.array [.text "ADMIN", .text "GUEST"]))
  have hspell : roles.typeString = "[Role!]!" := by decide
  rw [hspell] at hrender
  refine ⟨hproper, hname, hrender.trans ?_⟩
  decide

end Literal

end QueryTree
