import QueryTree.Proofs.Literal.Category
import QueryTree.Proofs.Literal.Rendering
import QueryTree.Proofs.Literal.Texts

/-! # Literals are read back

A literal in front of a comma, a blank or a closing bracket is taken in by the reader up to its end,
so no text of an argument gets out of its place. What is read is what the type string makes of the
value. -/

namespace QueryTree

open Text (IsName isName_iff all_isName_iff isEnumValue)

/-! ## What becomes null -/

/-- The value is in the category. A value that is no list counts as the only item of one. -/
def Coercion.Admits : Coercion → Json → Prop
  | _, .null => False
  | .int, .number (.whole _ _) => True
  | .int, .text value => ∃ n, Literal.IsInteger value.toList n
  | .float, .number _ => True
  | .float, .text value => ∃ number, Literal.IsNumber value.toList number
  | .text, .text _ | .text, .number _ | .text, .boolean _ => True
  | .boolean, .boolean _ => True
  | .boolean, .text value => ∃ b, Literal.IsBoolean value.toList b
  | .named, .object members => ∀ member ∈ members, IsName member.1.toList
  | .named, _ => True
  | .list _, .array _ => True
  | .list item, value => item.Admits value
  | _, _ => False

namespace Constant

theorem untyped_eq_null_iff (value : Json) :
    untyped value = .null ↔ ¬ Coercion.named.Admits value := by
  cases value with
  | object members =>
    rw [untyped, Coercion.Admits, ← all_isName_iff]
    split
    · next hnames => simp [hnames]
    · next hnames => simp [hnames]
  | null | boolean | number | text | array => simp [untyped, Coercion.Admits]

theorem map_getD_eq_null_iff {α : Type} (found : Option α) {constant : α → Constant}
    (h : ∀ value, constant value ≠ .null) :
    (found.map constant).getD .null = .null ↔ ¬ ∃ value, found = some value := by
  cases found with
  | none => simp
  | some value => simp [h value]

theorem coerced_eq_null_iff (kind : Option TypeKind) (coercion : Coercion) (value : Json) :
    coerced kind coercion value = .null ↔ ¬ coercion.Admits value := by
  induction coercion generalizing value with
  | int =>
    cases value with
    | number value => cases value <;> simp [coerced, asInt, Coercion.Admits]
    | text text =>
      simp only [Coercion.Admits, ← Literal.intOfText?_eq_some_iff]
      exact map_getD_eq_null_iff _ (by simp)
    | null | boolean | array | object => simp [coerced, asInt, Coercion.Admits]
  | float =>
    cases value with
    | text text =>
      simp only [Coercion.Admits, ← Literal.ofText?_trim_eq_some_iff]
      exact map_getD_eq_null_iff _ (by simp)
    | null | boolean | number | array | object => simp [coerced, asFloat, Coercion.Admits]
  | text => cases value <;> simp [coerced, asText, Coercion.Admits]
  | boolean =>
    cases value with
    | text text =>
      simp only [Coercion.Admits, ← Literal.booleanOfText?_eq_some_iff]
      exact map_getD_eq_null_iff _ (by simp)
    | null | boolean | number | array | object => simp [coerced, asBoolean, Coercion.Admits]
  | named =>
    cases value with
    | null => simp [coerced, Coercion.Admits]
    | text text =>
      rw [coerced, asNamed]
      · split <;> simp [Coercion.Admits]
      · simp
    | boolean | number | array | object => exact untyped_eq_null_iff _
  | list item ih =>
    cases value with
    | null | array => simp [coerced, Coercion.Admits]
    | number value => cases value <;> exact ih _
    | boolean | text | object => exact ih _

/-! ## What a value becomes -/

mutual

/-- What a value becomes where a type is declared. Lists and objects keep their parts in order, a
text stands without quotes only as an enum value or where it spells a number or a boolean, and what
is inside of a value for a named type has no declared type of its own. -/
inductive Coerces : Option TypeKind → Coercion → Json → Constant → Prop
  | outside {kind : Option TypeKind} {coercion : Coercion} {value : Json}
    (h : ¬ coercion.Admits value) : Coerces kind coercion value .null
  | integer {kind : Option TypeKind} {n : Int} {fits : -2 ^ 63 ≤ n ∧ n < 2 ^ 64}
    {numeral : List Char} (h : (Number.whole n fits).IsWrittenAs numeral) :
    Coerces kind .int (.number (.whole n fits)) (.number numeral)
  | integerOfText {kind : Option TypeKind} {text : String} {n : Int}
    {fits : -2 ^ 63 ≤ n ∧ n < 2 ^ 64} {numeral : List Char}
    (htext : Literal.IsInteger text.toList n) (h : (Number.whole n fits).IsWrittenAs numeral) :
    Coerces kind .int (.text text) (.number numeral)
  | number {kind : Option TypeKind} {n : Number} {numeral : List Char} (h : n.IsWrittenAs numeral) :
    Coerces kind .float (.number n) (.number numeral)
  | numberOfText {kind : Option TypeKind} {text : String} {n : Number} {numeral : List Char}
    (htext : Literal.IsNumber text.toList n) (h : n.IsWrittenAs numeral) :
    Coerces kind .float (.text text) (.number numeral)
  | boolean {kind : Option TypeKind} {b : Bool} : Coerces kind .boolean (.boolean b) (.boolean b)
  | booleanOfText {kind : Option TypeKind} {text : String} {b : Bool}
    (htext : Literal.IsBoolean text.toList b) : Coerces kind .boolean (.text text) (.boolean b)
  | text {kind : Option TypeKind} {text : String} : Coerces kind .text (.text text) (.text text)
  | textOfNumber {kind : Option TypeKind} {n : Number} {numeral : List Char}
    (h : n.IsWrittenAs numeral) :
    Coerces kind .text (.number n) (.text (String.ofList numeral))
  | textOfBoolean {kind : Option TypeKind} {b : Bool} :
    Coerces kind .text (.boolean b) (.text (if b then "true" else "false"))
  | enum {text : String} (hname : IsName text.toList)
    (hword : text ∉ ["true", "false", "null"]) :
    Coerces (some .enum) .named (.text text) (.enum text.toList)
  | namedText {kind : Option TypeKind} {text : String}
    (h : kind = some .enum → IsName text.toList → text ∈ ["true", "false", "null"]) :
    Coerces kind .named (.text text) (.text text)
  | namedNumber {kind : Option TypeKind} {n : Number} {numeral : List Char}
    (h : n.IsWrittenAs numeral) : Coerces kind .named (.number n) (.number numeral)
  | namedBoolean {kind : Option TypeKind} {b : Bool} :
    Coerces kind .named (.boolean b) (.boolean b)
  | namedList {kind : Option TypeKind} {values : List Json} {items : List Constant}
    (h : CoercesItems none .named values items) :
    Coerces kind .named (.array values) (.list items)
  | namedObject {kind : Option TypeKind} {members : List (String × Json)}
    {found : List (List Char × Constant)}
    (hnames : ∀ member ∈ members, IsName member.1.toList)
    (h : CoercesMembers members found) : Coerces kind .named (.object members) (.object found)
  | list {kind : Option TypeKind} {item : Coercion} {values : List Json} {items : List Constant}
    (h : CoercesItems kind item values items) :
    Coerces kind (.list item) (.array values) (.list items)
  | single {kind : Option TypeKind} {item : Coercion} {value : Json} {constant : Constant}
    (hvalue : ∀ values, value ≠ .array values) (h : Coerces kind item value constant) :
    Coerces kind (.list item) value constant

inductive CoercesItems : Option TypeKind → Coercion → List Json → List Constant → Prop
  | nil {kind : Option TypeKind} {item : Coercion} : CoercesItems kind item [] []
  | cons {kind : Option TypeKind} {item : Coercion} {value : Json} {constant : Constant}
    {values : List Json} {items : List Constant} (h : Coerces kind item value constant)
    (hrest : CoercesItems kind item values items) :
    CoercesItems kind item (value :: values) (constant :: items)

inductive CoercesMembers : List (String × Json) → List (List Char × Constant) → Prop
  | nil : CoercesMembers [] []
  | cons {key : String} {value : Json} {constant : Constant} {members : List (String × Json)}
    {found : List (List Char × Constant)} (h : Coerces none .named value constant)
    (hrest : CoercesMembers members found) :
    CoercesMembers ((key, value) :: members) ((key.toList, constant) :: found)

end

theorem coerced_named (kind : Option TypeKind) (value : Json) :
    coerced kind .named value = asNamed kind value := by
  cases value <;> rfl

theorem coerced_none_named (value : Json) : coerced none .named value = untyped value := by
  cases value <;> rfl

theorem coerced_null (kind : Option TypeKind) (coercion : Coercion) :
    coerced kind coercion .null = .null := by
  cases coercion <;> rfl

theorem coerced_single (kind : Option TypeKind) (item : Coercion) {value : Json}
    (h : ∀ values, value ≠ .array values) :
    coerced kind (.list item) value = coerced kind item value := by
  cases value with
  | null => rw [coerced_null, coerced_null]
  | array values => exact absurd rfl (h values)
  | boolean | number | text | object => rfl

theorem untypedItems_eq (values : List Json) :
    untypedItems values = values.map (coerced none .named) := by
  induction values with
  | nil => rfl
  | cons value rest ih => rw [untypedItems, ih, ← coerced_none_named, List.map_cons]

theorem ofList_boolean (b : Bool) :
    String.ofList (Literal.boolean b) = if b then "true" else "false" := by
  cases b <;> rfl

theorem isEnumValue_iff {text : String} :
    isEnumValue text.toList = true ↔ IsName text.toList ∧ text ∉ ["true", "false", "null"] := by
  simp [isEnumValue, isName_iff, Text.reservedValues, ← String.toList_inj]

mutual

theorem Coerces.eq_coerced : ∀ {kind : Option TypeKind} {coercion : Coercion} {value : Json}
    {constant : Constant}, Coerces kind coercion value constant →
      constant = coerced kind coercion value
  | _, _, _, _, .outside h => ((coerced_eq_null_iff ..).2 h).symm
  | _, _, _, _, .integer h => by
    rw [Number.isWrittenAs_iff.1 h]
    rfl
  | _, _, _, _, .integerOfText htext h => by
    rw [Number.isWrittenAs_iff.1 h]
    simp [coerced, asInt, Literal.intOfText?_eq_some_iff.2 htext, Number.spell]
  | _, _, _, _, .number h => by
    rw [Number.isWrittenAs_iff.1 h]
    rfl
  | _, _, _, _, .numberOfText htext h => by
    rw [Number.isWrittenAs_iff.1 h]
    simp [coerced, asFloat, Literal.ofText?_trim_eq_some_iff.2 htext]
  | _, _, _, _, .boolean => rfl
  | _, _, _, _, .booleanOfText htext => by
    simp [coerced, asBoolean, Literal.booleanOfText?_eq_some_iff.2 htext]
  | _, _, _, _, .text => rfl
  | _, _, _, _, .textOfNumber h => by
    rw [Number.isWrittenAs_iff.1 h]
    rfl
  | _, _, _, _, .textOfBoolean => congrArg Constant.text (ofList_boolean _).symm
  | _, _, _, _, .enum hname hword => by
    rw [coerced_named, asNamed, if_pos ⟨rfl, isEnumValue_iff.2 ⟨hname, hword⟩⟩]
  | _, _, _, _, .namedText h => by
    rw [coerced_named, asNamed, if_neg]
    rintro ⟨hkind, hvalue⟩
    obtain ⟨hname, hword⟩ := isEnumValue_iff.1 hvalue
    exact hword (h hkind hname)
  | _, _, _, _, .namedNumber h => by
    rw [Number.isWrittenAs_iff.1 h]
    rfl
  | _, _, _, _, .namedBoolean => rfl
  | _, _, _, _, .namedList h => by
    rw [h.eq_map, ← untypedItems_eq]
    rfl
  | _, _, _, _, .namedObject hnames h => by
    rw [h.eq_untypedMembers, coerced_named, asNamed, untyped, if_pos (all_isName_iff.2 hnames)]
    rintro text ⟨⟩
  | _, _, _, _, .list h => by
    rw [h.eq_map]
    rfl
  | _, _, _, _, .single hvalue h => by rw [h.eq_coerced, coerced_single _ _ hvalue]

theorem CoercesItems.eq_map : ∀ {kind : Option TypeKind} {item : Coercion} {values : List Json}
    {items : List Constant}, CoercesItems kind item values items →
      items = values.map (coerced kind item)
  | _, _, _, _, .nil => rfl
  | _, _, _, _, .cons h hrest => by rw [h.eq_coerced, hrest.eq_map, List.map_cons]

theorem CoercesMembers.eq_untypedMembers : ∀ {members : List (String × Json)}
    {found : List (List Char × Constant)}, CoercesMembers members found →
      found = untypedMembers members
  | _, _, .nil => rfl
  | _, _, .cons h hrest => by
    rw [h.eq_coerced, hrest.eq_untypedMembers, coerced_none_named, untypedMembers]

end

mutual

theorem coerces_asNamed : ∀ (kind : Option TypeKind) (value : Json),
    Coerces kind .named value (asNamed kind value)
  | _, .null => .outside id
  | _, .boolean _ => .namedBoolean
  | _, .number _ => .namedNumber (Number.isWrittenAs_iff.2 rfl)
  | kind, .text value => by
    rw [asNamed]
    split
    · next h =>
      obtain ⟨hname, hword⟩ := isEnumValue_iff.1 h.2
      rw [h.1]
      exact .enum hname hword
    · next h =>
      refine .namedText fun hkind hname => ?_
      by_contra hword
      exact h ⟨hkind, isEnumValue_iff.2 ⟨hname, hword⟩⟩
  | _, .array values => .namedList (coercesItems_untypedItems values)
  | _, .object members => by
    rw [asNamed, untyped]
    · split
      · next hnames =>
        exact .namedObject (all_isName_iff.1 hnames) (coercesMembers_untypedMembers members)
      · next hnames => exact .outside fun h => hnames (all_isName_iff.2 h)
    · rintro text ⟨⟩

theorem coercesItems_untypedItems : ∀ values : List Json,
    CoercesItems none .named values (untypedItems values)
  | [] => .nil
  | value :: rest => by
    have hvalue := coerces_asNamed none value
    rw [← coerced_named, coerced_none_named] at hvalue
    exact .cons hvalue (coercesItems_untypedItems rest)

theorem coercesMembers_untypedMembers : ∀ members : List (String × Json),
    CoercesMembers members (untypedMembers members)
  | [] => .nil
  | (_, value) :: rest => by
    have hvalue := coerces_asNamed none value
    rw [← coerced_named, coerced_none_named] at hvalue
    exact .cons hvalue (coercesMembers_untypedMembers rest)

end

theorem coercesItems_map {kind : Option TypeKind} {item : Coercion}
    (h : ∀ value, Coerces kind item value (coerced kind item value)) (values : List Json) :
    CoercesItems kind item values (values.map (coerced kind item)) := by
  induction values with
  | nil => exact .nil
  | cons value rest ih => exact .cons (h value) ih

/-- A text that spells nothing of its type is outside of it. -/
theorem coerces_map_getD {α : Type} {kind : Option TypeKind} {coercion : Coercion} {text : String}
    {found : Option α} {constant : α → Constant}
    (hadmits : coercion.Admits (.text text) → ∃ result, found = some result)
    (h : ∀ result, found = some result → Coerces kind coercion (.text text) (constant result)) :
    Coerces kind coercion (.text text) ((found.map constant).getD .null) := by
  cases found with
  | none => exact .outside fun hin => by simpa using hadmits hin
  | some result => exact h result rfl

theorem coerces_asInt (kind : Option TypeKind) (value : Json) :
    Coerces kind .int value (asInt value) := by
  cases value with
  | number value =>
    cases value with
    | whole n fits => exact .integer (Number.isWrittenAs_iff.2 rfl)
    | real value => exact .outside id
  | text value =>
    refine coerces_map_getD ?_ fun n h => ?_
    · exact Exists.imp fun n => Literal.intOfText?_eq_some_iff.2
    · have hinteger := Literal.intOfText?_eq_some_iff.1 h
      have fits : -2 ^ 63 ≤ n ∧ n < 2 ^ 64 := ⟨hinteger.2.1, by have := hinteger.2.2; omega⟩
      exact @Coerces.integerOfText _ _ _ fits _ hinteger (Number.isWrittenAs_iff.2 rfl)
  | null | boolean | array | object => exact .outside id

theorem coerces_asFloat (kind : Option TypeKind) (value : Json) :
    Coerces kind .float value (asFloat value) := by
  cases value with
  | number value => exact .number (Number.isWrittenAs_iff.2 rfl)
  | text value =>
    refine coerces_map_getD ?_ fun n h => ?_
    · exact Exists.imp fun n => Literal.ofText?_trim_eq_some_iff.2
    · exact .numberOfText (Literal.ofText?_trim_eq_some_iff.1 h) (Number.isWrittenAs_iff.2 rfl)
  | null | boolean | array | object => exact .outside id

theorem coerces_asBoolean (kind : Option TypeKind) (value : Json) :
    Coerces kind .boolean value (asBoolean value) := by
  cases value with
  | boolean value => exact .boolean
  | text value =>
    refine coerces_map_getD ?_ fun b h => ?_
    · exact Exists.imp fun b => Literal.booleanOfText?_eq_some_iff.2
    · exact .booleanOfText (Literal.booleanOfText?_eq_some_iff.1 h)
  | number value => cases value <;> exact .outside id
  | null | array | object => exact .outside id

theorem coerces_asText (kind : Option TypeKind) (value : Json) :
    Coerces kind .text value (asText value) := by
  cases value with
  | text value => exact .text
  | number value => exact .textOfNumber (Number.isWrittenAs_iff.2 rfl)
  | boolean value =>
    rw [asText, ofList_boolean]
    exact .textOfBoolean
  | null | array | object => exact .outside id

theorem coerces_coerced (kind : Option TypeKind) (coercion : Coercion) (value : Json) :
    Coerces kind coercion value (coerced kind coercion value) := by
  induction coercion generalizing value with
  | int => cases value <;> first | exact .outside id | exact coerces_asInt kind _
  | float => cases value <;> first | exact .outside id | exact coerces_asFloat kind _
  | text => cases value <;> first | exact .outside id | exact coerces_asText kind _
  | boolean => cases value <;> first | exact .outside id | exact coerces_asBoolean kind _
  | named =>
    rw [coerced_named]
    exact coerces_asNamed kind value
  | list item ih =>
    cases value with
    | null =>
      rw [coerced_null]
      exact .outside id
    | array values => exact .list (coercesItems_map ih values)
    | boolean | number | text | object => exact .single (by simp) (ih _)

theorem coerces_iff {kind : Option TypeKind} {coercion : Coercion} {value : Json}
    {constant : Constant} :
    Coerces kind coercion value constant ↔ constant = coerced kind coercion value := by
  constructor
  · exact Coerces.eq_coerced
  · rintro rfl
    exact coerces_coerced kind coercion value

/-! ## Reading -/

def read? (text : List Char) : Option (Constant × List Char) := read text.length text

/-- What can stand right behind a literal. -/
def delimiters : List Char := [',', ')', ']', '\x7d', ' ']

theorem ends_of_mem_delimiters {c : Char} (h : c ∈ delimiters) (rest : List Char) :
    Ends (c :: rest) := by
  rintro d ⟨⟩
  simp only [delimiters, List.mem_cons, List.not_mem_nil, or_false] at h
  rcases h with rfl | rfl | rfl | rfl | rfl <;> decide

theorem read?_append {chars rest : List Char} {constant : Constant} (h : Spells chars constant)
    (hrest : Ends rest) : read? (chars ++ rest) = some (constant, rest) :=
  read_append h _ rest (by simp) hrest

theorem Spells.unique {chars : List Char} {constant other : Constant} (h : Spells chars constant)
    (hother : Spells chars other) : constant = other := by
  have hend : Ends [] := by
    rintro c ⟨⟩
  have hread := read?_append hother hend
  rw [read?_append h hend] at hread
  cases hread
  rfl

/-- A literal in front of a delimiter is taken in up to its end, as the only constant that it
spells. This is what the category of the type string makes of the value, and null only for no value
and for one outside of the category. -/
theorem read_render (value : Option Json) (type : String) (kind : Option TypeKind) :
    ∃ coercion constant,
      (∀ other, Coercion.Spells type.toList other ↔ other = coercion) ∧
      (∀ c ∈ delimiters, ∀ rest,
        read? (Literal.render value type kind ++ c :: rest) = some (constant, c :: rest)) ∧
      (∀ other, Spells (Literal.render value type kind) other ↔ other = constant) ∧
      (constant = .null ↔ ∀ given, value = some given → ¬ coercion.Admits given) ∧
      ∀ given, value = some given → ∀ other,
        Coerces kind coercion given other ↔ other = constant := by
  have hspells := spells_render value type kind
  refine ⟨.ofTypeString type.toList, ofValue value type kind, fun _ => Coercion.spells_iff, ?_, ?_,
    ?_, ?_⟩
  · intro c hc rest
    exact read?_append hspells (ends_of_mem_delimiters hc rest)
  · intro other
    constructor
    · exact fun hother => hother.unique hspells
    · rintro rfl
      exact hspells
  · cases value with
    | none => simp [ofValue]
    | some given => simp [ofValue, coerced_eq_null_iff]
  · rintro given rfl other
    exact coerces_iff

/-- A text that is no integer, one that is, enum values with another text and with nothing between
them, and an object with a member that has a key with a blank. -/
theorem read_render_arguments :
    (∀ rest, read? (Literal.render (some (.text "abc")) "Int" none ++ ',' :: rest) =
      some (.null, ',' :: rest)) ∧
    (∀ rest, read? (Literal.render (some (.text " +007")) "[Int!]!" none ++ ')' :: rest) =
      some (.number ['7'], ')' :: rest)) ∧
    (∀ rest, read? (Literal.render (some (.array [.text "ADMIN", .null, .text "no one"])) "[Role!]"
        (some .enum) ++ '\x7d' :: rest) =
      some (.list [.enum "ADMIN".toList, .null, .text "no one"], '\x7d' :: rest)) ∧
    ∀ rest, read? (Literal.render (some (.object [("to", .text "7"),
        ("from", .object [("a b", .boolean true)])])) "Span" none ++ ' ' :: rest) =
      some (.object [("to".toList, .text "7"), ("from".toList, .null)], ' ' :: rest) := by
  have hread : ∀ {value : Json} {type : String} {kind : Option TypeKind} {coercion : Coercion}
      {constant : Constant}, Coercion.Spells type.toList coercion →
        Coerces kind coercion value constant → ∀ {c : Char}, c ∈ delimiters → ∀ rest,
          read? (Literal.render (some value) type kind ++ c :: rest) =
            some (constant, c :: rest) := by
    intro value type kind coercion constant hcategory hcoerces c hc rest
    obtain ⟨found, result, hfound, hresult, -, -, hvalue⟩ := read_render (some value) type kind
    obtain rfl := (hfound coercion).1 hcategory
    obtain rfl := (hvalue value rfl constant).1 hcoerces
    exact hresult c hc rest
  have hints : Coercion.Spells "[Int!]!".toList (.list .int) :=
    .marked (by decide) (.list (.marked (by decide) (.builtIn .int)))
  have hrole : Coercion.Spells "Role".toList .named :=
    Coercion.spells_named (by decide) (by decide) (by decide)
  have hroles : Coercion.Spells "[Role!]".toList (.list .named) := .list (.marked (by decide) hrole)
  have hspan : Coercion.Spells "Span".toList .named :=
    Coercion.spells_named (by decide) (by decide) (by decide)
  refine ⟨hread (.builtIn .int) (.outside ?_) (by decide), hread hints (.single (by simp) ?_)
    (by decide), hread hroles (.list ?_) (by decide),
    hread hspan (.namedObject (by decide) ?_) (by decide)⟩
  · rintro ⟨n, hn⟩
    have hnone : Literal.intOfText? "abc".toList = none := by decide
    rw [Literal.intOfText?_eq_some_iff.2 hn] at hnone
    cases hnone
  · have hseven : Literal.IsInteger " +007".toList 7 := Literal.intOfText?_eq_some_iff.1 (by decide)
    exact @Coerces.integerOfText _ _ 7 (by decide) _ hseven
      (Number.isWrittenAs_iff.2 (by decide +kernel))
  · refine .cons (.enum (by decide) (by decide)) (.cons (.outside id) (.cons (.namedText ?_) .nil))
    exact fun _ hname => absurd hname (by decide)
  · refine .cons (.namedText (by simp)) (.cons (.outside fun h => ?_) .nil)
    exact absurd (h _ List.mem_cons_self) (by decide)

end Constant

end QueryTree
