import QueryTree.Proofs.Literal.ByType
import QueryTree.Proofs.Literal.Texts

/-! # Whole numbers and their texts

An argument may hold a whole number or its text. Both become the same literal where the type is
`Int`, `Float`, `String` or `ID`, under any wrappers, with one exception. `Int` takes any number of
64 bits, but only the texts of signed ones. -/

namespace QueryTree

open Decimal (digits integer)
open Text (isBlank quoted trim)

/-! ## Reading the text of a whole number -/

theorem Decimal.spellsSigned_integer (n : Int) : SpellsSigned (integer n) n := by
  have hdigits := Number.isDigits_digits n.natAbs
  unfold integer
  split
  · next hnegative =>
    have hminus := SpellsSigned.minus hdigits
    rwa [value_digits, show -(n.natAbs : Int) = n by omega] at hminus
  · next hpositive =>
    have hunsigned := SpellsSigned.unsigned hdigits
    rwa [value_digits, show (n.natAbs : Int) = n by omega] at hunsigned

theorem Number.numeral_of_spells {text : List Char} {number : Number} (h : Spells text number) :
    ∃ s, Numeral text s ∧ s.number? = some number := by
  cases h with
  | positive hs h hnumber => exact ⟨_, ⟨_, h, by simp [hs]⟩, hnumber⟩
  | negative hs h hnumber => exact ⟨_, ⟨_, h, by simp [hs]⟩, hnumber⟩

namespace Literal

/-- The texts that stand for a number under a type: its digits, and for `Int` and `Float` also its
digits with white space around them. -/
inductive TextOf (name : String) (n : Int) : List Char → Prop
  | bare : TextOf name n (integer n)
  | spaced {before after : List Char} (hname : name = "Int" ∨ name = "Float")
    (hbefore : before.all isBlank = true) (hafter : after.all isBlank = true) :
    TextOf name n (before ++ (integer n ++ after))

section Numbers

variable {n : Int} (fits : -2 ^ 63 ≤ n ∧ n < 2 ^ 64)

include fits in
theorem TextOf.trim_eq {name : String} {text : List Char} (h : TextOf name n text) :
    trim text = integer n := by
  obtain ⟨s, hs, -⟩ := Number.numeral_of_spells (Number.spells_integer n fits)
  have hbare := Default.isBare_of_numeral hs
  cases h with
  | bare => simpa using @Default.trim_append [] (integer n) [] rfl rfl hbare
  | spaced _ hbefore hafter => exact Default.trim_append hbefore hafter hbare

include fits in
theorem asInt_text {name : String} {text : List Char} (h : TextOf name n text) :
    asInt (.text (String.ofList text)) = if n < 2 ^ 63 then integer n else null := by
  have hsigned : (-2 ^ 63 ≤ n ∧ n < 2 ^ 63) ↔ n < 2 ^ 63 := and_iff_right fits.1
  rw [asInt, intOfText?, String.toList_ofList, h.trim_eq fits,
    Decimal.signed?_eq_some_iff.2 (Decimal.spellsSigned_integer n), Option.filter_some]
  simp only [hsigned, decide_eq_true_eq]
  split <;> rfl

include fits in
theorem asFloat_text {name : String} {text : List Char} (h : TextOf name n text) :
    asFloat (.text (String.ofList text)) = integer n := by
  obtain ⟨s, hs, hnumber⟩ := Number.numeral_of_spells (Number.spells_integer n fits)
  rw [asFloat, String.toList_ofList, h.trim_eq fits, Number.ofText?_of_numeral hs, hnumber]
  rfl

theorem asText_text {name : String} {text : List Char} (h : TextOf name n text)
    (hname : ¬ (name = "Int" ∨ name = "Float")) :
    asText (.text (String.ofList text)) = quoted (integer n) := by
  cases h with
  | bare => rw [asText, String.toList_ofList]
  | spaced hspaced => exact absurd hspaced hname

include fits in
theorem integer_ne_null : integer n ≠ null := by
  obtain ⟨s, hs, -⟩ := Number.numeral_of_spells (Number.spells_integer n fits)
  exact fun heq => Default.not_numeral_null (heq ▸ hs)

/-! ## Under wrappers -/

/-- Wrappers do not matter for a value that is no list. -/
theorem coerced_of_single (kind : Option TypeKind) (type : TypeRef) {value : Json}
    (hsingle : ∀ items, value ≠ .array items) :
    coerced kind type.coercion value = coerced kind (.ofName type.baseName.toList) value := by
  induction type with
  | named _ name => rfl
  | list inner ih =>
    rw [TypeRef.baseName, ← ih, TypeRef.coercion]
    cases value with
    | array items => exact absurd rfl (hsingle items)
    | null => cases inner.coercion <;> rfl
    | boolean | number | text | object => rfl
  | nonNull inner ih => exact ih

theorem render_of_single {type : TypeRef} (hproper : type.isProper = true)
    (hname : type.baseName ∈ ["Int", "Float", "String", "ID"]) (kind : Option TypeKind)
    {value : Json} (hsingle : ∀ items, value ≠ .array items) :
    render (some value) type.typeString kind =
      coerced kind (.ofName type.baseName.toList) value := by
  have hisName : Text.isName type.baseName.toList = true := by
    generalize type.baseName = name at hname
    revert name
    decide
  rw [render, TypeRef.typeString, String.toList_ofList, Coercion.ofTypeString_spell hproper hisName,
    coerced_of_single kind type hsingle]

/-- A whole number and its text become the same literal, unless the type is `Int` and the number is
too large for a signed one: then the number is written and the text becomes `null`. -/
theorem render_whole_eq_render_text_iff {type : TypeRef} (hproper : type.isProper = true)
    (hname : type.baseName ∈ ["Int", "Float", "String", "ID"]) {text : List Char}
    (htext : TextOf type.baseName n text) (kind : Option TypeKind) :
    (render (some (.number (.whole n fits))) type.typeString kind =
        render (some (.text (String.ofList text))) type.typeString kind ↔
      ¬ (type.baseName = "Int" ∧ 2 ^ 63 ≤ n)) ∧
    (type.baseName = "Int" → 2 ^ 63 ≤ n →
      render (some (.number (.whole n fits))) type.typeString kind = integer n ∧
        render (some (.text (String.ofList text))) type.typeString kind = null) := by
  have hnumber : Json.number (.whole n fits) ≠ .null := by simp
  have hvalue : Json.text (String.ofList text) ≠ .null := by simp
  obtain ⟨hnumberInt, hnumberFloat, hnumberText, -⟩ := coerced_of_ne_null kind hnumber
  obtain ⟨hint, hfloat, hquoted, -⟩ := coerced_of_ne_null kind hvalue
  rw [render_of_single hproper hname kind (by simp), render_of_single hproper hname kind (by simp)]
  generalize type.baseName = name at hname htext ⊢
  simp only [List.mem_cons, List.not_mem_nil, or_false] at hname
  rcases hname with rfl | rfl | rfl | rfl
  · have hname : Coercion.ofName "Int".toList = .int := by decide
    rw [hname, hnumberInt, hint, asInt_text fits htext, asInt]
    split
    · next hn =>
      exact ⟨iff_of_true rfl fun h => absurd hn (Int.not_lt.2 h.2),
        fun _ h => absurd hn (Int.not_lt.2 h)⟩
    · next hn =>
      exact ⟨iff_of_false (integer_ne_null fits) fun h => h ⟨rfl, Int.not_lt.1 hn⟩,
        fun _ _ => ⟨rfl, rfl⟩⟩
  · have hname : Coercion.ofName "Float".toList = .float := by decide
    rw [hname, hnumberFloat, hfloat, asFloat_text fits htext]
    simp [asFloat, Number.spell]
  · have hname : Coercion.ofName "String".toList = .text := by decide
    rw [hname, hnumberText, hquoted, asText_text htext (by decide)]
    simp [asText, Number.spell]
  · have hname : Coercion.ofName "ID".toList = .text := by decide
    rw [hname, hnumberText, hquoted, asText_text htext (by decide)]
    simp [asText, Number.spell]

end Numbers

/-- The smallest number and its text, under two lists. -/
theorem render_whole_smallest :
    TextOf "Int" (-2 ^ 63) " -9223372036854775808\n".toList ∧
      render (some (.number (.whole (-2 ^ 63) (by decide)))) "[[Int!]]!" none =
        render (some (.text " -9223372036854775808\n")) "[[Int!]]!" none := by
  let type : TypeRef := .nonNull (.list (.list (.nonNull (.named .scalar "Int"))))
  have hdigits : " -9223372036854775808\n".toList = [' '] ++ (integer (-2 ^ 63) ++ ['\n']) := by
    decide +kernel
  have htext : TextOf "Int" (-2 ^ 63) " -9223372036854775808\n".toList := by
    rw [hdigits]
    exact .spaced (Or.inl rfl) (by decide) (by decide)
  have hrender := (@render_whole_eq_render_text_iff (-2 ^ 63) (by decide) type (by decide)
    (by decide) " -9223372036854775808\n".toList htext none).1.2 (by decide)
  exact ⟨htext, hrender⟩

/-- The first number beyond the signed ones is written, and its text is not. -/
theorem render_text_beyond_signed :
    TextOf "Int" (2 ^ 63) "9223372036854775808".toList ∧
      render (some (.number (.whole (2 ^ 63) (by decide)))) "Int" none =
        "9223372036854775808".toList ∧
      render (some (.text "9223372036854775808")) "Int" none = "null".toList := by
  have hdigits : "9223372036854775808".toList = integer (2 ^ 63) := by decide +kernel
  refine ⟨hdigits ▸ .bare, ?_, ?_⟩
  · decide +kernel
  · decide +kernel

end Literal

end QueryTree
