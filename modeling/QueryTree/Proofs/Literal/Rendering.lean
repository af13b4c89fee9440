import Mathlib.Data.List.Forall2
import QueryTree.Literal.Render
import QueryTree.Proofs.Literal.Constant

/-! # Literals are constants

Every literal spells one constant: the value that the declared type makes of the argument. So a
literal ends where its constant ends, whatever the text of the argument contains. -/

namespace QueryTree

open Text (isName quoted)

namespace Constant

/-! ## The constant of a value -/

mutual

/-- An object with a key that is no name counts as null. -/
def untyped : Json → Constant
  | .null => .null
  | .boolean value => .boolean value
  | .number value => .number value.spell
  | .text value => .text value
  | .array items => .list (untypedItems items)
  | .object members =>
    if members.all fun member => isName member.1.toList then .object (untypedMembers members)
    else .null

def untypedItems : List Json → List Constant
  | [] => []
  | item :: rest => untyped item :: untypedItems rest

def untypedMembers : List (String × Json) → List (List Char × Constant)
  | [] => []
  | (key, value) :: rest => (key.toList, untyped value) :: untypedMembers rest

end

def asText : Json → Constant
  | .text value => .text value
  | .number value => .text value.toText
  | .boolean value => .text (String.ofList (Literal.boolean value))
  | _ => .null

def asInt : Json → Constant
  | .number (.whole value _) => .number (Decimal.integer value)
  | .text value =>
    ((Literal.intOfText? value.toList).map fun n => .number (Decimal.integer n)).getD .null
  | _ => .null

def asFloat : Json → Constant
  | .number value => .number value.spell
  | .text value =>
    ((Number.ofText? (Text.trim value.toList)).map fun n => .number n.spell).getD .null
  | _ => .null

def asBoolean : Json → Constant
  | .boolean value => .boolean value
  | .text value => ((Literal.booleanOfText? value.toList).map .boolean).getD .null
  | _ => .null

def asNamed (kind : Option TypeKind) : Json → Constant
  | .text value =>
    if kind = some .enum ∧ Text.isEnumValue value.toList then .enum value.toList else .text value
  | other => untyped other

/-- A list type takes a value that is no list as its only item. -/
def coerced (kind : Option TypeKind) : Coercion → Json → Constant
  | _, .null => .null
  | .int, value => asInt value
  | .float, value => asFloat value
  | .text, value => asText value
  | .boolean, value => asBoolean value
  | .named, value => asNamed kind value
  | .list item, .array items => .list (items.map fun value => coerced kind item value)
  | .list item, value => coerced kind item value

/-- The constant of an argument's value for its type string and the kind of its base type. -/
def ofValue (value : Option Json) (type : String) (kind : Option TypeKind) : Constant :=
  match value with
  | none => .null
  | some value => coerced kind (.ofTypeString type.toList) value

/-! ## Simple literals -/

theorem spells_null : Spells Literal.null .null := @Spells.word "null".toList (by decide)

theorem spells_boolean (value : Bool) : Spells (Literal.boolean value) (.boolean value) := by
  cases value with
  | true => exact @Spells.word "true".toList (by decide)
  | false => exact @Spells.word "false".toList (by decide)

theorem spells_quoted (chars : List Char) :
    Spells (quoted chars) (.text (String.ofList chars)) :=
  .text (Text.quotes_flatMap_escaped chars)

theorem spells_text (value : String) : Spells (quoted value.toList) (.text value) := by
  simpa using spells_quoted value.toList

theorem ofWord_of_isEnumValue {word : List Char} (h : Text.isEnumValue word = true) :
    ofWord word = .enum word := by
  simp only [Text.isEnumValue, Text.reservedValues, Bool.and_eq_true, Bool.not_eq_true',
    List.contains_eq_mem, decide_eq_false_iff_not, List.mem_cons, List.not_mem_nil, or_false,
    not_or] at h
  obtain ⟨_, htrue, hfalse, hnull⟩ := h
  rw [ofWord, if_neg hnull, if_neg htrue, if_neg hfalse]

theorem spells_enum {word : List Char} (h : Text.isEnumValue word = true) :
    Spells word (.enum word) := by
  rw [← ofWord_of_isEnumValue h]
  rw [Text.isEnumValue, Bool.and_eq_true] at h
  exact .word h.1

/-! ## Lists and objects -/

theorem IsBlank.separated {blank : List Char} (h : IsBlank blank) :
    IsBlank (',' :: ' ' :: blank) := by
  intro c hc
  simp only [List.mem_cons] at hc
  rcases hc with rfl | rfl | hc
  · rfl
  · rfl
  · exact h c hc

/-- A comma and a blank in front of the items change nothing. -/
theorem SpellsItems.separated {inner : List Char} {items : List Constant}
    (h : SpellsItems inner items) : SpellsItems (',' :: ' ' :: inner) items := by
  cases h with
  | nil h => exact .nil h.separated
  | cons h hitem hapart hrest => exact .cons h.separated hitem hapart hrest

theorem SpellsMembers.separated {inner : List Char} {members : List (List Char × Constant)}
    (h : SpellsMembers inner members) : SpellsMembers (',' :: ' ' :: inner) members := by
  cases h with
  | nil h => exact .nil h.separated
  | cons h hname hbefore hafter hvalue hapart hrest =>
    exact .cons h.separated hname hbefore hafter hvalue hapart hrest

theorem isBlank_nil : IsBlank [] := fun _ h => by cases h

theorem isApart_nil : IsApart [] := isBlank_nil.isApart

theorem isApart_separator (rest : List Char) : IsApart (',' :: ' ' :: rest) := by
  rintro c ⟨⟩
  rfl

theorem spellsItems_commaSeparated {texts : List (List Char)} {items : List Constant}
    (h : List.Forall₂ Spells texts items) : SpellsItems (Literal.commaSeparated texts) items := by
  induction h with
  | nil => exact .nil isBlank_nil
  | @cons text item texts items hitem hrest ih =>
    cases hrest with
    | nil =>
      have hspells := SpellsItems.cons isBlank_nil hitem isApart_nil (.nil isBlank_nil)
      simpa [Literal.commaSeparated] using hspells
    | cons hnext hmore =>
      have hspells := SpellsItems.cons isBlank_nil hitem (isApart_separator _) ih.separated
      simpa [Literal.commaSeparated] using hspells

/-- The text is a name, a colon and a constant. -/
inductive SpellsMember : List Char → List Char × Constant → Prop
  | mk {name text : List Char} {value : Constant} (hname : isName name = true)
    (h : Spells text value) : SpellsMember (name ++ ':' :: ' ' :: text) (name, value)

theorem spellsMembers_commaSeparated {texts : List (List Char)}
    {members : List (List Char × Constant)} (h : List.Forall₂ SpellsMember texts members) :
    SpellsMembers (Literal.commaSeparated texts) members := by
  have hblank : IsBlank [' '] := by
    intro c hc
    rw [List.mem_singleton] at hc
    subst hc
    rfl
  induction h with
  | nil => exact .nil isBlank_nil
  | cons hmember hrest ih =>
    obtain ⟨hname, hvalue⟩ := hmember
    cases hrest with
    | nil =>
      have hspells := SpellsMembers.cons isBlank_nil hname isBlank_nil hblank hvalue isApart_nil
        (.nil isBlank_nil)
      simpa [Literal.commaSeparated] using hspells
    | cons hnext hmore =>
      have hspells := SpellsMembers.cons isBlank_nil hname isBlank_nil hblank hvalue
        (isApart_separator _) ih.separated
      simpa [Literal.commaSeparated] using hspells

theorem spells_list {texts : List (List Char)} {items : List Constant}
    (h : List.Forall₂ Spells texts items) : Spells (Literal.list texts) (.list items) :=
  .list (spellsItems_commaSeparated h)

theorem spells_object {texts : List (List Char)} {members : List (List Char × Constant)}
    (h : List.Forall₂ SpellsMember texts members) : Spells (Literal.object texts) (.object members) :=
  .object (spellsMembers_commaSeparated h)

/-! ## Literals -/

mutual

theorem spells_untyped : ∀ value : Json, Spells (Literal.untyped value) (untyped value)
  | .null => spells_null
  | .boolean value => spells_boolean value
  | .number value => .number (Number.isNumeral_spell value)
  | .text value => spells_text value
  | .array items => spells_list (spells_untypedItems items)
  | .object members => by
    rw [Literal.untyped, untyped]
    split
    · next hnames => exact spells_object (spells_untypedMembers members (List.all_eq_true.1 hnames))
    · exact spells_null

theorem spells_untypedItems : ∀ items : List Json,
    List.Forall₂ Spells (Literal.untypedItems items) (untypedItems items)
  | [] => .nil
  | item :: rest => .cons (spells_untyped item) (spells_untypedItems rest)

theorem spells_untypedMembers : ∀ members : List (String × Json),
    (∀ member ∈ members, isName member.1.toList = true) →
      List.Forall₂ SpellsMember (Literal.untypedMembers members) (untypedMembers members)
  | [], _ => .nil
  | (key, value) :: rest, hnames => by
    have hkey := hnames (key, value) List.mem_cons_self
    have hrest := fun member hmember => hnames member (List.mem_cons_of_mem _ hmember)
    exact .cons (.mk hkey (spells_untyped value)) (spells_untypedMembers rest hrest)

end

/-- What is read off a text is written as a constant, and nothing is written as null. -/
theorem spells_map_getD {α : Type} (found : Option α) {write : α → List Char}
    {constant : α → Constant} (h : ∀ value, Spells (write value) (constant value)) :
    Spells ((found.map write).getD Literal.null) ((found.map constant).getD .null) := by
  cases found with
  | none => exact spells_null
  | some value => exact h value

theorem spells_asText (value : Json) : Spells (Literal.asText value) (asText value) := by
  cases value with
  | text value => exact spells_text value
  | number value => exact spells_quoted value.spell
  | boolean value => exact spells_quoted (Literal.boolean value)
  | null | array | object => exact spells_null

theorem spells_asInt (value : Json) : Spells (Literal.asInt value) (asInt value) := by
  cases value with
  | number value =>
    cases value with
    | whole value _ => exact .number (Number.isNumeral_integer value)
    | real value => exact spells_null
  | text value => exact spells_map_getD _ fun n => .number (Number.isNumeral_integer n)
  | null | boolean | array | object => exact spells_null

theorem spells_asFloat (value : Json) : Spells (Literal.asFloat value) (asFloat value) := by
  cases value with
  | number value => exact .number (Number.isNumeral_spell value)
  | text value => exact spells_map_getD _ fun n => .number (Number.isNumeral_spell n)
  | null | boolean | array | object => exact spells_null

theorem spells_asBoolean (value : Json) : Spells (Literal.asBoolean value) (asBoolean value) := by
  cases value with
  | boolean value => exact spells_boolean value
  | text value => exact spells_map_getD _ spells_boolean
  | null | number | array | object => exact spells_null

theorem spells_asNamed (kind : Option TypeKind) (value : Json) :
    Spells (Literal.asNamed kind value) (asNamed kind value) := by
  cases value with
  | text value =>
    rw [Literal.asNamed, asNamed]
    split
    · next h => exact spells_enum h.2
    · exact spells_text value
  | null | boolean | number | array | object => exact spells_untyped _

theorem spells_coerced (kind : Option TypeKind) (coercion : Coercion) (value : Json) :
    Spells (Literal.coerced kind coercion value) (coerced kind coercion value) := by
  induction coercion generalizing value with
  | int => cases value <;> first | exact spells_null | exact spells_asInt _
  | float => cases value <;> first | exact spells_null | exact spells_asFloat _
  | text => cases value <;> first | exact spells_null | exact spells_asText _
  | boolean => cases value <;> first | exact spells_null | exact spells_asBoolean _
  | named => cases value <;> first | exact spells_null | exact spells_asNamed kind _
  | list item ih =>
    cases value with
    | null => exact spells_null
    | array items =>
      rw [Literal.coerced, coerced]
      apply spells_list
      rw [List.forall₂_map_left_iff, List.forall₂_map_right_iff, List.forall₂_same]
      exact fun value _ => ih value
    | boolean value => exact ih (.boolean value)
    | number value => exact ih (.number value)
    | text value => exact ih (.text value)
    | object members => exact ih (.object members)

/-- Every literal spells the constant of its value. -/
theorem spells_render (value : Option Json) (type : String) (kind : Option TypeKind) :
    Spells (Literal.render value type kind) (ofValue value type kind) := by
  cases value with
  | none => exact spells_null
  | some value => exact spells_coerced kind _ value

end Constant

end QueryTree
