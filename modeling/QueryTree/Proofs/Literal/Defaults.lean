import QueryTree.Proofs.Literal.BuiltIn
import QueryTree.Proofs.Literal.ByType

/-! # What becomes of a default

A default is the text of a constant. A fresh argument has the value that was read from it, and the
value is written as a constant again. The main statement says of which defaults the written constant
means the same. -/

namespace QueryTree.Default

open Text (isBlank)
open Decimal (Binary64 IsNearest)
open Number (Numeral IsDouble IsShort)

/-! ## Reading and writing -/

/-- What a value is written as. -/
def write : BuiltIn → Json → List Char
  | .boolean => Literal.asBoolean
  | .int => Literal.asInt
  | .float => Literal.asFloat
  | .string | .id => Literal.asText

theorem ofNamed_name (type : BuiltIn) (kind : TypeKind) :
    Literal.ofNamed kind type.name = write type := by
  cases type <;> rfl

theorem ofTrimmed?_null (type : BuiltIn) :
    Scalar.ofTrimmed? type.name "null".toList = none := by
  cases type <;> rfl

theorem ofTrimmed?_number {type : BuiltIn} (h : type = .int ∨ type = .float) (text : List Char) :
    Scalar.ofTrimmed? type.name text = (Number.ofText? text).map .number := by
  rcases h with rfl | rfl <;> rfl

theorem ofTrimmed?_text {type : BuiltIn} (h : type = .string ∨ type = .id) (text : List Char) :
    Scalar.ofTrimmed? type.name text = (Scalar.textOfDefault? text).map .text := by
  rcases h with rfl | rfl <;> rfl

theorem write_text {type : BuiltIn} (h : type = .string ∨ type = .id) (value : List Char) :
    write type (Scalar.text (String.ofList value)).toJson = Text.quoted value := by
  have hvalue : (String.ofList value).toList = value := String.toList_ofList
  rcases h with rfl | rfl
  · exact congrArg Text.quoted hvalue
  · exact congrArg Text.quoted hvalue

/-! ## What is kept -/

/-- The defaults that come out as something else. -/
inductive Loses : BuiltIn → List Char → Prop
  /-- zero with a minus sign is read as a double, which is no integer -/
  | minusZero : Loses .int ['-', '0']
  /-- the reader rounds more than once -/
  | double {text : List Char} {x : Binary64} (hread : Number.ofText? text = some (.real x))
    (h : ¬ IsDouble text x) : Loses .float text
  /-- escapes stay as they are if JSON refuses anything in the quotes -/
  | escapes {type : BuiltIn} {inner : List Char} (hslash : '\\' ∈ inner)
    (h : StringValue.isJson inner = false) : Loses type ('"' :: (inner ++ ['"']))
  /-- a block keeps two of its three quotes at each end -/
  | block {type : BuiltIn} (text : List Char) : Loses type ('"' :: '"' :: '"' :: text)

section

variable {type : BuiltIn} {text : List Char} {literal : Scalar}

theorem loses_quoted_iff {inner value : List Char} (h : StringValue.Spells inner value)
    (htype : type = .string ∨ type = .id) : Loses type ('"' :: (inner ++ ['"'])) ↔
      '\\' ∈ inner ∧ StringValue.isJson inner = false := by
  constructor
  · intro hloses
    generalize htext : '"' :: (inner ++ ['"']) = text at hloses
    cases hloses with
    | minusZero => rcases htype with htype | htype <;> cases htype
    | double => rcases htype with htype | htype <;> cases htype
    | escapes hslash hjson =>
      obtain rfl := List.append_cancel_right (List.cons.inj htext).2
      exact ⟨hslash, hjson⟩
    | block => exact absurd (List.cons.inj htext).2 h.not_block
  · rintro ⟨hslash, hjson⟩
    exact .escapes hslash hjson

/-- A string is kept unless it is a block, or has an escape and is refused by JSON. -/
theorem string_kept_iff (htype : type = .string ∨ type = .id) {value : List Char}
    (h : StringValue.Denotes text value) (hread : Scalar.ofTrimmed? type.name text = some literal) :
    Denotes type (write type literal.toJson) (.text value) ↔ ¬ Loses type text := by
  rw [ofTrimmed?_text htype] at hread
  cases h with
  | @quoted _ inner _ htext h =>
    subst htext
    rw [StringValue.textOfDefault?_of_spells h] at hread
    obtain rfl := Option.some.inj hread
    rw [write_text htype, denotes_text_iff htype, loses_quoted_iff h htype]
    cases hjson : StringValue.isJson inner with
    | true => simp
    | false => simp [h.eq_iff]
  | block h =>
    rw [StringValue.textOfDefault?_of_spellsBlock h] at hread
    obtain rfl := Option.some.inj hread
    rw [write_text htype, denotes_text_iff htype]
    have hlost := StringValue.blockValue_ne h
    exact ⟨fun heq => absurd heq hlost, fun hkept => absurd (.block _) hkept⟩

theorem cases_of_loses_numeral {s : Number.Spelling} (h : Numeral text s)
    (hloses : Loses type text) :
    type = .int ∧ text = ['-', '0'] ∨
      type = .float ∧ ∃ x, Number.ofText? text = some (.real x) ∧ ¬ IsDouble text x := by
  cases hloses with
  | minusZero => exact Or.inl ⟨rfl, rfl⟩
  | double hread hfar => exact Or.inr ⟨rfl, _, hread, hfar⟩
  | escapes => exact (not_numeral_of_quote h).elim
  | block => exact (not_numeral_of_quote h).elim

theorem numeral_minusZero : Numeral ['-', '0'] ⟨true, ['0'], none, none⟩ := by
  have hwhole : Number.IsWhole ['0'] := ⟨⟨by simp, by simp⟩, fun _ => rfl⟩
  exact ⟨['0'], .mk hwhole .none .none, rfl⟩

/-- An integer is kept unless it is zero with a minus sign. -/
theorem int_kept_iff {s : Number.Spelling} {n : Int} (h : Numeral text s) (hn : s.integer? = some n)
    (hbits : -2 ^ 31 ≤ n ∧ n < 2 ^ 31)
    (hread : Scalar.ofTrimmed? BuiltIn.int.name text = some literal) :
    Denotes .int (write .int literal.toJson) (.integer n) ↔ ¬ Loses .int text := by
  rw [ofTrimmed?_number (Or.inl rfl), Number.ofText?_of_numeral h] at hread
  obtain ⟨number, hnumber, rfl⟩ := Option.map_eq_some_iff.1 hread
  rcases Number.Spelling.number?_cases hnumber with ⟨x, rfl, -⟩ | ⟨m, fits, rfl, hm, hzero⟩
  · -- Only zero with a minus sign is read as a double.
    have hwritten : ¬ Denotes .int (write .int (Scalar.number (.real x)).toJson) (.integer n) := by
      intro hdenotes
      cases hdenotes.eq_null
    have hloses : Loses .int text := by
      by_cases hzero : s.negative = true → n ≠ 0
      · obtain ⟨_, hspells, _⟩ := h
        rw [hspells.number?_of_integer? hn (by omega) hzero] at hnumber
        cases hnumber
      · obtain ⟨hminus, rfl⟩ : s.negative = true ∧ n = 0 := by simpa using hzero
        rw [h.eq_minusZero hn hminus]
        exact .minusZero
    exact ⟨fun hdenotes => absurd hdenotes hwritten, fun hkept => absurd hloses hkept⟩
  · -- Any other integer is written as it was.
    obtain rfl := Option.some.inj (hm.symm.trans hn)
    have hwritten : write .int (Scalar.number (.whole m fits)).toJson = text :=
      (h.eq_integer hn hzero).symm
    have hkept : ¬ Loses .int text := by
      intro hloses
      rcases cases_of_loses_numeral h hloses with ⟨-, rfl⟩ | ⟨hfloat, -⟩
      · obtain rfl := h.unique numeral_minusZero
        exact hzero rfl (Option.some.inj hn).symm
      · cases hfloat
    rw [hwritten]
    exact ⟨fun _ => hkept, fun _ => .int h hn hbits⟩

/-- A double is kept if it is the one that was read. -/
theorem float_kept_iff {x : Binary64} (h : IsDouble text x)
    (hread : Scalar.ofTrimmed? BuiltIn.float.name text = some literal) :
    Denotes .float (write .float literal.toJson) (.double x) ↔ ¬ Loses .float text := by
  have ⟨s, hs, _⟩ := h
  rw [ofTrimmed?_number (Or.inr rfl)] at hread
  obtain ⟨number, hnumber, rfl⟩ := Option.map_eq_some_iff.1 hread
  have hparts := hnumber
  rw [Number.ofText?_of_numeral hs] at hparts
  have hloses : Loses .float text ↔ ∃ y, number = .real y ∧ ¬ IsDouble text y := by
    constructor
    · intro hloses
      rcases cases_of_loses_numeral hs hloses with ⟨hint, -⟩ | ⟨-, y, hy, hfar⟩
      · cases hint
      · exact ⟨y, Option.some.inj (hnumber.symm.trans hy), hfar⟩
    · rintro ⟨y, rfl, hfar⟩
      exact .double hnumber hfar
  rw [hloses]
  rcases Number.Spelling.number?_cases hparts with ⟨y, rfl, -⟩ | ⟨n, fits, rfl, hn, hzero⟩
  · -- The double that was read is written so that it is denoted.
    have hwritten : Denotes .float (write .float (Scalar.number (.real y)).toJson) (.double y) :=
      .float (Number.isDouble_realText y)
    constructor
    · intro hdenotes
      obtain rfl := Meaning.double.inj (hwritten.unique hdenotes)
      rintro ⟨z, hz, hfar⟩
      cases hz
      exact hfar h
    · intro hkept
      have hread : IsDouble text y := by
        by_contra hfar
        exact hkept ⟨y, rfl, hfar⟩
      rwa [h.unique hread]
  · have hwritten : write .float (Scalar.number (.whole n fits)).toJson = text :=
      (hs.eq_integer hn hzero).symm
    rw [hwritten]
    constructor
    · rintro - ⟨y, hy, -⟩
      cases hy
    · exact fun _ => .float h

/-- An integer is kept as an identifier. -/
theorem identifier_kept {s : Number.Spelling} (h : Numeral text s)
    (hread : Scalar.ofTrimmed? BuiltIn.id.name text = some literal) :
    Denotes .id (write .id literal.toJson) (.text text) ∧ ¬ Loses .id text := by
  have hnumeral := h
  obtain ⟨c, more, rfl, hc⟩ := h.exists_cons
  have hletter : c ≠ 'n' := by
    rintro rfl
    exact absurd hc (by decide)
  have hquote : c ≠ '"' := by
    rintro rfl
    exact absurd hc (by decide)
  have htext : Scalar.textOfDefault? (c :: more) = some (String.ofList (c :: more)) := by
    rw [StringValue.textOfDefault?_cons hletter, Scalar.unquoted?, Scalar.stripQuotes]
    · rfl
    · rintro _ heq
      exact hquote (List.cons.inj heq).1
    · rintro _ heq
      exact hquote (List.cons.inj heq).1
  rw [ofTrimmed?_text (Or.inr rfl), htext] at hread
  obtain rfl := Option.some.inj hread
  rw [write_text (Or.inr rfl), denotes_text_iff (Or.inr rfl)]
  refine ⟨rfl, fun hloses => ?_⟩
  rcases cases_of_loses_numeral hnumeral hloses with ⟨hint, -⟩ | ⟨hfloat, -⟩
  · cases hint
  · cases hfloat

/-- A short numeral is read as the double that it denotes. -/
theorem not_loses_short (h : IsShort text) : ¬ Loses .float text := by
  intro hloses
  have ⟨s, hs, _⟩ := h
  rcases cases_of_loses_numeral hs hloses with ⟨hint, -⟩ | ⟨-, x, hx, hfar⟩
  · cases hint
  · exact hfar (h.isDouble hx)

theorem not_loses_boolean (h : text.head? ≠ some '"') : ¬ Loses .boolean text := by
  intro hloses
  cases hloses with
  | escapes => exact h rfl
  | block => exact h rfl

/-- The written constant means the same, unless the default is one of those that are lost. -/
theorem kept_iff {meaning : Meaning} (h : Denotes type text meaning)
    (hread : Scalar.ofTrimmed? type.name text = some literal) :
    Denotes type (write type literal.toJson) meaning ↔ ¬ Loses type text := by
  cases h with
  | null =>
    rw [ofTrimmed?_null] at hread
    cases hread
  | isTrue =>
    cases hread
    exact ⟨fun _ => not_loses_boolean (by decide), fun _ => .isTrue⟩
  | isFalse =>
    cases hread
    exact ⟨fun _ => not_loses_boolean (by decide), fun _ => .isFalse⟩
  | int h hn hbits => exact int_kept_iff h hn hbits hread
  | float h => exact float_kept_iff h hread
  | string h => exact string_kept_iff (Or.inl rfl) h hread
  | id h => exact string_kept_iff (Or.inr rfl) h hread
  | idInteger h =>
    obtain ⟨hdenotes, hkept⟩ := identifier_kept h hread
    exact ⟨fun _ => hkept, fun _ => hdenotes⟩

end

/-! ## Fresh arguments -/

section

variable {argument : ArgumentDef} {type : BuiltIn} {kind : TypeKind}

theorem nameOf?_eq
    (h : argument.type = .named kind type.name ∨ argument.type = .nonNull (.named kind type.name)) :
    Scalar.nameOf? argument.type = some type.name := by
  rcases h with h | h
  · rw [h]
    rfl
  · rw [h]
    rfl

theorem ofType_eq {value : Json} (hne : value ≠ .null)
    (h : argument.type = .named kind type.name ∨ argument.type = .nonNull (.named kind type.name)) :
    Literal.ofType argument.type value = write type value := by
  have hnamed : Literal.ofType (.named kind type.name) value = write type value := by
    rw [← ofNamed_name type kind]
    cases value with
    | null => exact absurd rfl hne
    | boolean | number | text | array | object => rfl
  rcases h with h | h
  · rw [h, hnamed]
  · rw [h, ← hnamed]
    cases value with
    | null => exact absurd rfl hne
    | boolean | number | text | array | object => rfl

/-- A fresh argument is written with what its default was read as. -/
theorem spell_toArgument
    (h : argument.type = .named kind type.name ∨ argument.type = .nonNull (.named kind type.name))
    {literal : Scalar} (hliteral : argument.entry.literalDefault = some literal) :
    argument.entry.toArgument.spell =
      argument.name.toList ++ ':' :: ' ' :: write type literal.toJson := by
  have hproper : argument.type.isProper = true := by
    rcases h with h | h
    · rw [h]
      rfl
    · rw [h]
      rfl
  have hbase : argument.type.baseName = type.name := by
    rcases h with h | h
    · rw [h]
      rfl
    · rw [h]
      rfl
  have hname : Text.isName argument.type.baseName.toList = true := by
    rw [hbase]
    cases type <;> decide
  have hne : literal.toJson ≠ .null := by
    cases literal <;> simp [Scalar.toJson]
  have hrender : Literal.render (some literal.toJson) argument.type.typeString
      (some argument.type.baseKind) = write type literal.toJson := by
    rw [Literal.render, TypeRef.typeString, String.toList_ofList,
      Coercion.ofTypeString_spell hproper hname, Literal.coerced_coercion, ofType_eq hne h]
  rw [← hrender, Argument.spell, ArgumentEntry.toArgument, hliteral]
  rfl

theorem literalDefault_eq
    (h : argument.type = .named kind type.name ∨ argument.type = .nonNull (.named kind type.name))
    {before text after : List Char} (hbefore : before.all isBlank = true)
    (hafter : after.all isBlank = true) (hbare : IsBare text)
    (hdefault : argument.defaultValue = some (String.ofList (before ++ (text ++ after)))) :
    argument.entry.literalDefault = Scalar.ofTrimmed? type.name text := by
  simp only [ArgumentDef.entry, Scalar.ofDefault?, hdefault, nameOf?_eq h, bind, Option.bind,
    String.toList_ofList, trim_append hbefore hafter hbare]

/-- A fresh argument whose default was read means the same as its default, unless the default is one
of those that are lost; a short numeral is none of them. -/
theorem default_kept_iff {field : FieldDef} {index : Nat}
    (hargument : field.arguments[index]? = some argument)
    (htype : argument.type = .named kind type.name ∨
      argument.type = .nonNull (.named kind type.name))
    {before text after : List Char} (hbefore : before.all isBlank = true)
    (hafter : after.all isBlank = true)
    (hdefault : argument.defaultValue = some (String.ofList (before ++ (text ++ after))))
    {meaning : Meaning} (hmeaning : Denotes type text meaning) {literal : Scalar}
    (hliteral : argument.entry.literalDefault = some literal) (typeName url : String) :
    ∃ fresh written,
      ((CatalogEntry.field (field.entry typeName)).toNode url).arguments[index]? = some fresh ∧
      fresh.spell = argument.name.toList ++ ':' :: ' ' :: written ∧
      (Denotes type written meaning ↔ ¬ Loses type text) ∧
      (type = .float → IsShort text → ¬ Loses type text) := by
  have hread := literalDefault_eq htype hbefore hafter hmeaning.isBare hdefault
  rw [hliteral] at hread
  have hfresh : ((CatalogEntry.field (field.entry typeName)).toNode url).arguments[index]? =
      some argument.entry.toArgument := by
    simp [CatalogEntry.toNode, FieldDef.entry, hargument]
  refine ⟨_, _, hfresh, spell_toArgument htype hliteral, kept_iff hmeaning hread.symm, ?_⟩
  rintro rfl hshort
  exact not_loses_short hshort

end

/-! ### Arguments of a search

The default of the first one is kept, and those of the others are lost in the four ways. -/

namespace Search

def word : ArgumentDef :=
  ⟨"word", none, .nonNull (.named .scalar "String"), some " \"a\\\"b\"\n"⟩

def phrase : ArgumentDef := ⟨"phrase", none, .named .scalar "String", some "\"\"\"abc\"\"\""⟩

def letter : ArgumentDef := ⟨"letter", none, .named .scalar "ID", some "\"\\u\x7b41\x7d\""⟩

def offset : ArgumentDef := ⟨"offset", none, .named .scalar "Int", some "-0"⟩

def scale : ArgumentDef := ⟨"scale", none, .named .scalar "Float", some "1e-23"⟩

def field : FieldDef where
  name := "search"
  description := none
  arguments := [word, phrase, letter, offset, scale]
  type := .named .scalar "String"
  isDeprecated := false
  deprecationReason := none

def fresh : Node := (CatalogEntry.field (field.entry "Query")).toNode "http://a.test/graphql"

theorem spells_word : StringValue.Spells "a\\\"b".toList "a\"b".toList := by
  have hend : StringValue.Spells ['b'] ['b'] := .plain (by decide) (by decide) (by decide) .nil
  exact .plain (by decide) (by decide) (by decide) (.escape (.letter rfl) hend)

theorem denotes_word : Denotes .string "\"a\\\"b\"".toList (.text "a\"b".toList) :=
  .string (.quoted rfl spells_word)

theorem literalDefault_word : word.entry.literalDefault = some (.text "a\"b") := by
  have hread := @literalDefault_eq word .string .scalar (Or.inr rfl) [' '] "\"a\\\"b\"".toList
    ['\n'] (by decide) (by decide) denotes_word.isBare (by decide)
  have htext := StringValue.textOfDefault?_of_spells spells_word
  exact hread.trans (congrArg (Option.map Scalar.text) htext)

theorem default_kept_word :
    field.arguments[0]? = some word ∧
      word.type = .nonNull (.named .scalar BuiltIn.string.name) ∧
      word.defaultValue = some (String.ofList ([' '] ++ ("\"a\\\"b\"".toList ++ ['\n']))) ∧
      Denotes .string "\"a\\\"b\"".toList (.text "a\"b".toList) ∧
      word.entry.literalDefault = some (.text "a\"b") ∧
      ∃ argument written, fresh.arguments[0]? = some argument ∧
        argument.spell = "word: ".toList ++ written ∧
        Denotes .string written (.text "a\"b".toList) := by
  have hdefault : word.defaultValue =
      some (String.ofList ([' '] ++ ("\"a\\\"b\"".toList ++ ['\n']))) := by decide
  obtain ⟨argument, written, hargument, hspell, hkept, -⟩ :=
    @default_kept_iff word .string .scalar field 0 rfl (Or.inr rfl) _ _ _ (by decide) (by decide)
      hdefault _ denotes_word _ literalDefault_word "Query" "http://a.test/graphql"
  have hloses : ¬ Loses .string "\"a\\\"b\"".toList := by
    intro hloses
    have hjson := ((loses_quoted_iff spells_word (Or.inl rfl)).1 hloses).2
    exact absurd hjson (by decide)
  exact ⟨rfl, rfl, hdefault, denotes_word, literalDefault_word, argument, written, hargument, hspell,
    hkept.2 hloses⟩

/-- The double nearest to `10 ^ -23`. -/
def tiny : Binary64 := ⟨false, 4262707295203537489, by decide⟩

/-- The next larger one. -/
def read : Binary64 := ⟨false, 4262707295203537490, by decide⟩

theorem isDouble_tiny : IsDouble "1e-23".toList tiny := by
  have hwhole : Number.IsWhole ['1'] := ⟨⟨by simp, by simp⟩, by simp⟩
  have hdigits : Number.IsDigits ['2', '3'] := ⟨by simp, by simp⟩
  have hspells := @Number.SpellsUnsigned.mk false _ _ _ _ _ hwhole .none
    (.some (Or.inl rfl) .minus hdigits)
  have hrounds : Decimal.roundsTo tiny.rank (2 ^ 1075) (10 ^ 23) = true := by decide +kernel
  have hnearest := Decimal.isNearest_of_roundsTo (by decide) hrounds
  have hmagnitude : Number.Spelling.magnitude ⟨false, ['1'], none, some (true, ['2', '3'])⟩ =
      1 / 10 ^ 23 := by
    have hpower : Number.Spelling.power ⟨false, ['1'], none, some (true, ['2', '3'])⟩ = -23 := rfl
    have hvalue : Decimal.value ['1'] = 1 := rfl
    rw [Number.Spelling.magnitude, hpower, Number.Spelling.allDigits, Option.getD_none,
      List.append_nil, hvalue, zpow_neg]
    norm_num
  refine ⟨_, ⟨_, hspells, rfl⟩, rfl, ?_⟩
  rw [hmagnitude]
  generalize 1075 = exponent at hnearest
  rwa [Nat.cast_pow, Nat.cast_pow, Nat.cast_ofNat, Nat.cast_ofNat,
    div_mul_cancel_right₀ (by positivity), ← one_div] at hnearest

/-- The written constants do not mean what the defaults mean. -/
theorem defaults_lost :
    fresh.query = "search(word: \"a\\\"b\", phrase: \"\\\"\\\"abc\\\"\\\"\", " ++
        "letter: \"\\\\u\x7b41\x7d\", offset: null, scale: 1.0000000000000001e-23)" ∧
      Denotes .string "\"\"\"abc\"\"\"".toList (.text "abc".toList) ∧
      ¬ Denotes .string "\"\\\"\\\"abc\\\"\\\"\"".toList (.text "abc".toList) ∧
      Denotes .id "\"\\u\x7b41\x7d\"".toList (.text ['A']) ∧
      ¬ Denotes .id "\"\\\\u\x7b41\x7d\"".toList (.text ['A']) ∧
      Denotes .int ['-', '0'] (.integer 0) ∧ ¬ Denotes .int "null".toList (.integer 0) ∧
      Denotes .float "1e-23".toList (.double tiny) ∧
      ¬ Denotes .float "1.0000000000000001e-23".toList (.double tiny) := by
  have hphrase : Denotes .string "\"\"\"abc\"\"\"".toList (.text "abc".toList) := by
    have hblock : StringValue.SpellsBlock "abc\"\"\"".toList "abc".toList :=
      .plain (by decide) (by decide) (.plain (by decide) (by decide)
        (.plain (by decide) (by decide) .close))
    exact .string (.block hblock)
  have hphraseWritten :
      ¬ Denotes .string (Text.quoted "\"\"abc\"\"".toList) (.text "abc".toList) := by
    rw [denotes_text_iff (Or.inl rfl)]
    decide
  have hletter : Denotes .id "\"\\u\x7b41\x7d\"".toList (.text ['A']) := by
    have hbraced : StringValue.Braced "u\x7b41\x7d".toList 'A' [] :=
      @StringValue.Braced.mk ['4', '1'] [] (by decide) (List.all_eq_true.1 rfl) (by decide)
    exact .id (.quoted rfl (.braced hbraced .nil))
  have hletterWritten : ¬ Denotes .id (Text.quoted "\\u\x7b41\x7d".toList) (.text ['A']) := by
    rw [denotes_text_iff (Or.inr rfl)]
    decide
  have hoffsetWritten : ¬ Denotes .int "null".toList (.integer 0) := by
    intro hdenotes
    cases hdenotes.eq_null
  have hscaleWritten : ¬ Denotes .float "1.0000000000000001e-23".toList (.double tiny) := by
    intro hdenotes
    have hread : Denotes .float (Number.realText read) (.double read) :=
      .float (Number.isDouble_realText read)
    have hwritten : Number.realText read = "1.0000000000000001e-23".toList := by decide +kernel
    rw [hwritten] at hread
    exact absurd (Meaning.double.inj (hread.unique hdenotes)) (by decide)
  exact ⟨by decide +kernel, hphrase, hphraseWritten, hletter, hletterWritten,
    .int numeral_minusZero rfl (by decide), hoffsetWritten, .float isDouble_tiny, hscaleWritten⟩

end Search

end QueryTree.Default
