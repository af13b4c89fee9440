import QueryTree.Proofs.Json.Numerals
import QueryTree.Proofs.Literal.Strings
import QueryTree.Text.Blank

/-! # Constants of the built-in scalars

What the constants of the five built-in scalars mean. A constant has one meaning and no white space
at its ends, so that it is what is left of a text that has it between white space. -/

namespace QueryTree.Default

open Text (isBlank trim)
open Decimal (Binary64)
open Number (Numeral IsDouble)

/-! ## Meanings -/

inductive BuiltIn where
  | boolean
  | int
  | float
  | string
  | id

def BuiltIn.name : BuiltIn → String
  | .boolean => "Boolean"
  | .int => "Int"
  | .float => "Float"
  | .string => "String"
  | .id => "ID"

inductive Meaning where
  | null
  | boolean (value : Bool)
  | integer (value : Int)
  | double (value : Binary64)
  | text (value : List Char)

/-- The text is a constant of the type and has the meaning. -/
inductive Denotes : BuiltIn → List Char → Meaning → Prop
  | null (type : BuiltIn) : Denotes type "null".toList .null
  | isTrue : Denotes .boolean "true".toList (.boolean true)
  | isFalse : Denotes .boolean "false".toList (.boolean false)
  /-- integers have 32 bits -/
  | int {text : List Char} {s : Number.Spelling} {n : Int} (h : Numeral text s)
    (hn : s.integer? = some n) (hbits : -2 ^ 31 ≤ n ∧ n < 2 ^ 31) : Denotes .int text (.integer n)
  | float {text : List Char} {x : Binary64} (h : IsDouble text x) : Denotes .float text (.double x)
  | string {text value : List Char} (h : StringValue.Denotes text value) :
    Denotes .string text (.text value)
  | id {text value : List Char} (h : StringValue.Denotes text value) :
    Denotes .id text (.text value)
  /-- an integer is an identifier too, and stands for its text -/
  | idInteger {text : List Char} {s : Number.Spelling} {n : Int} (h : Numeral text s)
    (hn : s.integer? = some n) : Denotes .id text (.text text)

/-! ## A constant has one meaning -/

theorem not_numeral_of_quote {text : List Char} {s : Number.Spelling}
    (h : Numeral ('"' :: text) s) : False := by
  obtain ⟨c, more, heq, hc⟩ := h.exists_cons
  obtain ⟨rfl, -⟩ := List.cons.inj heq
  rcases hc with hc | hc
  · exact absurd hc (by decide)
  · exact absurd hc (by decide)

theorem not_numeral_null {s : Number.Spelling} (h : Numeral "null".toList s) : False := by
  obtain ⟨c, more, heq, hc⟩ := h.exists_cons
  obtain ⟨rfl, -⟩ := List.cons.inj (show 'n' :: ['u', 'l', 'l'] = c :: more from heq)
  rcases hc with hc | hc
  · exact absurd hc (by decide)
  · exact absurd hc (by decide)

theorem exists_quote_of_string {text value : List Char} (h : StringValue.Denotes text value) :
    ∃ more, text = '"' :: more := by
  cases h with
  | quoted => exact ⟨_, rfl⟩
  | block => exact ⟨_, rfl⟩

theorem not_string_null {value : List Char} (h : StringValue.Denotes "null".toList value) :
    False := by
  obtain ⟨more, heq⟩ := exists_quote_of_string h
  exact absurd (List.cons.inj (show 'n' :: ['u', 'l', 'l'] = '"' :: more from heq)).1 (by decide)

theorem Denotes.eq_null {type : BuiltIn} {meaning : Meaning}
    (h : Denotes type "null".toList meaning) : meaning = .null := by
  generalize htext : "null".toList = text at h
  cases h with
  | null => rfl
  | isTrue => exact absurd htext (by decide)
  | isFalse => exact absurd htext (by decide)
  | int h => exact (not_numeral_null (htext ▸ h)).elim
  | float h =>
    obtain ⟨s, hs, -⟩ := h
    exact (not_numeral_null (htext ▸ hs)).elim
  | string h => exact (not_string_null (htext ▸ h)).elim
  | id h => exact (not_string_null (htext ▸ h)).elim
  | idInteger h => exact (not_numeral_null (htext ▸ h)).elim

theorem Denotes.unique {type : BuiltIn} {text : List Char} {meaning other : Meaning}
    (h : Denotes type text meaning) (hother : Denotes type text other) : meaning = other := by
  by_cases hnull : text = "null".toList
  · subst hnull
    rw [h.eq_null, hother.eq_null]
  have hstring : ∀ {value : List Char} {s : Number.Spelling}, StringValue.Denotes text value →
      ¬ Numeral text s := by
    intro value s hvalue hs
    obtain ⟨more, rfl⟩ := exists_quote_of_string hvalue
    exact not_numeral_of_quote hs
  -- Apart from `null`, only identifiers have two kinds of constants, and a quote tells them apart.
  generalize htext : text = same at hother
  cases h with
  | null => exact absurd rfl hnull
  | isTrue =>
    cases hother with
    | null => exact absurd htext hnull
    | isTrue => rfl
    | isFalse => exact absurd htext (by decide)
  | isFalse =>
    cases hother with
    | null => exact absurd htext hnull
    | isTrue => exact absurd htext (by decide)
    | isFalse => rfl
  | int h hn =>
    cases hother with
    | null => exact absurd htext hnull
    | int hother hothern =>
      subst htext
      obtain rfl := h.unique hother
      rw [Option.some.inj (hn.symm.trans hothern)]
  | float h =>
    cases hother with
    | null => exact absurd htext hnull
    | float hother => rw [h.unique (htext ▸ hother)]
  | string h =>
    cases hother with
    | null => exact absurd htext hnull
    | string hother => rw [h.unique (htext ▸ hother)]
  | id h =>
    cases hother with
    | null => exact absurd htext hnull
    | id hother => rw [h.unique (htext ▸ hother)]
    | idInteger hother => exact absurd (htext ▸ hother) (hstring h)
  | idInteger h =>
    cases hother with
    | null => exact absurd htext hnull
    | id hother => exact absurd h (hstring (htext ▸ hother))
    | idInteger => rw [htext]

theorem denotes_text_iff {type : BuiltIn} (h : type = .string ∨ type = .id)
    {value other : List Char} : Denotes type (Text.quoted value) (.text other) ↔ value = other := by
  have hwritten := StringValue.denotes_quoted value
  have hdenotes : Denotes type (Text.quoted value) (.text value) := by
    rcases h with rfl | rfl
    · exact .string hwritten
    · exact .id hwritten
  constructor
  · intro hother
    exact Meaning.text.inj (hdenotes.unique hother)
  · rintro rfl
    exact hdenotes

/-! ## White space around a constant -/

theorem isBlank_of_visible {c : Char} (h : 33 ≤ c.toNat ∧ c.toNat ≤ 126) : isBlank c = false := by
  simp only [isBlank, Bool.or_eq_false_iff, Bool.and_eq_false_iff, decide_eq_false_iff_not,
    beq_eq_false_iff_ne]
  omega

theorem isBlank_of_isDigit {c : Char} (h : c.isDigit = true) : isBlank c = false := by
  have hbounds := Number.toNat_of_isDigit h
  exact isBlank_of_visible ⟨by omega, by omega⟩

theorem isBlank_of_mem_numeral {text : List Char} {s : Number.Spelling} (h : Numeral text s) :
    ∀ c ∈ text, isBlank c = false := by
  have hspelling : ∀ {unsigned : List Char}, Number.SpellsUnsigned unsigned s →
      ∀ c ∈ unsigned, isBlank c = false := by
    rintro _ ⟨hwhole, hfraction, hexponent⟩ c hc
    rw [List.mem_append, List.mem_append] at hc
    rcases hc with hc | hc | hc
    · exact isBlank_of_isDigit (hwhole.1.2 c hc)
    · cases hfraction with
      | none => cases hc
      | some hds =>
        rcases List.mem_cons.1 hc with rfl | hc
        · decide
        · exact isBlank_of_isDigit (hds.2 c hc)
    · cases hexponent with
      | none => cases hc
      | some hletter hsign hds =>
        rcases List.mem_cons.1 hc with rfl | hc
        · rcases hletter with rfl | rfl <;> decide
        · rcases List.mem_append.1 hc with hc | hc
          · cases hsign with
            | unsigned => cases hc
            | plus =>
              rw [List.mem_singleton.1 hc]
              decide
            | minus =>
              rw [List.mem_singleton.1 hc]
              decide
          · exact isBlank_of_isDigit (hds.2 c hc)
  obtain ⟨unsigned, hspells, rfl⟩ := h
  intro c hc
  split at hc
  · rcases List.mem_cons.1 hc with rfl | hc
    · decide
    · exact hspelling hspells c hc
  · exact hspelling hspells c hc

/-- The text begins and ends with something else than white space. -/
def IsBare (text : List Char) : Prop :=
  ∃ first last, text.head? = some first ∧ text.getLast? = some last ∧ isBlank first = false ∧
    isBlank last = false

theorem isBare_of_numeral {text : List Char} {s : Number.Spelling} (h : Numeral text s) :
    IsBare text := by
  have hchars := isBlank_of_mem_numeral h
  obtain ⟨c, more, rfl, -⟩ := h.exists_cons
  have hne : c :: more ≠ [] := List.cons_ne_nil c more
  exact ⟨c, (c :: more).getLast hne, rfl, List.getLast?_eq_some_getLast hne,
    hchars c List.mem_cons_self, hchars _ (List.getLast_mem hne)⟩

theorem isBare_of_string {text value : List Char} (h : StringValue.Denotes text value) :
    IsBare text := by
  cases h with
  | quoted htext h =>
    subst htext
    refine ⟨'"', '"', rfl, ?_, rfl, rfl⟩
    rw [← List.cons_append, List.getLast?_concat]
  | block h =>
    refine ⟨'"', '"', rfl, ?_, rfl, rfl⟩
    rw [List.getLast?_cons, List.getLast?_cons, List.getLast?_cons, h.getLast?]
    rfl

theorem Denotes.isBare {type : BuiltIn} {text : List Char} {meaning : Meaning}
    (h : Denotes type text meaning) : IsBare text := by
  cases h with
  | null => exact ⟨'n', 'l', rfl, rfl, rfl, rfl⟩
  | isTrue => exact ⟨'t', 'e', rfl, rfl, rfl, rfl⟩
  | isFalse => exact ⟨'f', 'e', rfl, rfl, rfl, rfl⟩
  | int h => exact isBare_of_numeral h
  | float h =>
    obtain ⟨s, hs, -⟩ := h
    exact isBare_of_numeral hs
  | string h => exact isBare_of_string h
  | id h => exact isBare_of_string h
  | idInteger h => exact isBare_of_numeral h

theorem dropWhile_isBlank_append {blank text : List Char} {first : Char}
    (hblank : blank.all isBlank = true) (hfirst : text.head? = some first)
    (h : isBlank first = false) : (blank ++ text).dropWhile isBlank = text := by
  obtain ⟨more, rfl⟩ := List.head?_eq_some_iff.1 hfirst
  rw [List.dropWhile_append_of_pos (List.all_eq_true.1 hblank), List.dropWhile_cons_of_neg (by simp [h])]

theorem trim_append {before text after : List Char} (hbefore : before.all isBlank = true)
    (hafter : after.all isBlank = true) (h : IsBare text) :
    trim (before ++ (text ++ after)) = text := by
  obtain ⟨first, last, hfirst, hlast, hhead, htail⟩ := h
  have hfront : (text ++ after).head? = some first := by rw [List.head?_append, hfirst]; rfl
  have hback : text.reverse.head? = some last := by rw [List.head?_reverse, hlast]
  rw [trim, dropWhile_isBlank_append hbefore hfront hhead, List.reverse_append,
    dropWhile_isBlank_append (by rwa [List.all_reverse]) hback htail,
    List.reverse_reverse]

end QueryTree.Default
