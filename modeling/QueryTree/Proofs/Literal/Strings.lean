import Mathlib.Data.List.DropRight
import QueryTree.Literal.Default
import QueryTree.Proofs.Json.Quotation

/-! # GraphQL strings

The grammar of strings, in quotes and in blocks, and what they stand for. A default is read as JSON,
whose strings are fewer: no escape with braces, no control character, no block. What JSON refuses
keeps the text between its outermost quotes. -/

namespace QueryTree.StringValue

open Text (Quotes hexValue? ofHex)

/-! ## In quotes -/

/-- After a backslash, the text begins with an escape for the character and goes on with the rest.
These are the escapes that JSON has too. -/
inductive Escape : List Char → Char → List Char → Prop
  | letter {letter c : Char} {rest : List Char} (hletter : Reader.escapeOf? letter = some c) :
    Escape (letter :: rest) c rest
  | unit {digits rest : List Char} {unit : Nat} (hunit : Text.IsUnit digits unit)
    (hlow : Reader.isLowSurrogate unit = false) (hhigh : Reader.isHighSurrogate unit = false) :
    Escape ('u' :: (digits ++ rest)) (Char.ofNat unit) rest
  | pair {leading trailing rest : List Char} {high low : Nat} (hleading : Text.IsUnit leading high)
    (htrailing : Text.IsUnit trailing low) (hhigh : Reader.isHighSurrogate high = true)
    (hlow : Reader.isLowSurrogate low = true) :
    Escape ('u' :: (leading ++ '\\' :: 'u' :: (trailing ++ rest)))
      (Char.ofNat ((high - 0xD800) * 0x400 + (low - 0xDC00) + 0x10000)) rest

/-- An escape with any number of digits, in braces. -/
inductive Braced : List Char → Char → List Char → Prop
  | mk {digits rest : List Char} (hne : digits ≠ [])
    (hdigits : ∀ c ∈ digits, (hexValue? c).isSome = true) (hvalid : (ofHex digits).isValidChar) :
    Braced ('u' :: '\x7b' :: (digits ++ '\x7d' :: rest)) (Char.ofNat (ofHex digits)) rest

/-- The first text, between quotes on one line, stands for the second one. -/
inductive Spells : List Char → List Char → Prop
  | nil : Spells [] []
  | plain {c : Char} {inner value : List Char} (hquote : c ≠ '"') (hslash : c ≠ '\\')
    (hline : c ≠ '\n' ∧ c ≠ '\r') (h : Spells inner value) : Spells (c :: inner) (c :: value)
  | escape {text inner value : List Char} {c : Char} (hescape : Escape text c inner)
    (h : Spells inner value) : Spells ('\\' :: text) (c :: value)
  | braced {text inner value : List Char} {c : Char} (hbraced : Braced text c inner)
    (h : Spells inner value) : Spells ('\\' :: text) (c :: value)

/-- No escape has braces, and no character is a control character. -/
def isJson : List Char → Bool
  | [] => true
  | '\\' :: 'u' :: '\x7b' :: _ => false
  | '\\' :: _ :: rest => isJson rest
  | c :: rest => 32 ≤ c.toNat && isJson rest

/-! ### Escapes -/

theorem Escape.append {text rest : List Char} {c : Char} (h : Escape text c rest)
    (more : List Char) : Escape (text ++ more) c (rest ++ more) := by
  cases h with
  | letter hletter => exact .letter hletter
  | unit hunit hlow hhigh =>
    rw [List.cons_append, List.append_assoc]
    exact .unit hunit hlow hhigh
  | pair hleading htrailing hhigh hlow =>
    rw [List.cons_append, List.append_assoc, List.cons_append, List.cons_append, List.append_assoc]
    exact .pair hleading htrailing hhigh hlow

theorem Escape.read {text rest : List Char} {c : Char} (h : Escape text c rest) :
    Reader.readEscape text = .ok (c, rest) := by
  cases h with
  | letter hletter => exact Text.readEscape_letter hletter rest
  | unit hunit hlow hhigh => exact Text.readEscape_unit hunit hlow hhigh rest
  | @pair leading trailing rest high low hleading htrailing hhigh hlow =>
    have hnotlow : Reader.isLowSurrogate high = false := by
      simp only [Reader.isHighSurrogate, Reader.isLowSurrogate, Bool.and_eq_true,
        decide_eq_true_eq, Bool.and_eq_false_iff, decide_eq_false_iff_not] at hhigh ⊢
      omega
    rw [Reader.readEscape, if_pos rfl, Reader.readHexEscape, Text.readUnit_append hleading]
    simp only [bind, Except.bind, hnotlow, hhigh, Bool.false_eq_true, if_false, if_true]
    rw [Reader.readPair, Text.readUnit_append htrailing]
    simp only [bind, Except.bind, hlow, if_true]

theorem Escape.shorter {text rest : List Char} {c : Char} (h : Escape text c rest) :
    rest.length < text.length :=
  Reader.readEscape_shorter h.read

theorem Braced.append {text rest : List Char} {c : Char} (h : Braced text c rest)
    (more : List Char) : Braced (text ++ more) c (rest ++ more) := by
  cases h with
  | mk hne hdigits hvalid =>
    rw [List.cons_append, List.cons_append, List.append_assoc]
    exact .mk hne hdigits hvalid

theorem Braced.exists_cons {text rest : List Char} {c : Char} (h : Braced text c rest) :
    ∃ more, text = 'u' :: '\x7b' :: more := by
  cases h
  exact ⟨_, rfl⟩

theorem Braced.shorter {text rest : List Char} {c : Char} (h : Braced text c rest) :
    rest.length < text.length := by
  cases h
  simp only [List.length_cons, List.length_append]
  omega

/-- JSON has no escape with braces. -/
theorem Braced.refused {text rest : List Char} {c : Char} (h : Braced text c rest) :
    ∃ fault, Reader.readEscape text = .error fault := by
  obtain ⟨more, rfl⟩ := h.exists_cons
  have hunit : ∃ fault, Reader.readUnit ('\x7b' :: more) = .error fault := by
    unfold Reader.readUnit
    split
    · next heq =>
      obtain ⟨rfl, _⟩ := List.cons.inj heq
      exact ⟨_, rfl⟩
    · exact ⟨_, rfl⟩
  obtain ⟨fault, hfault⟩ := hunit
  refine ⟨fault, ?_⟩
  rw [Reader.readEscape, if_pos rfl, Reader.readHexEscape, hfault]
  rfl

theorem toNat_of_hexValue? {c : Char} (h : (hexValue? c).isSome = true) :
    48 ≤ c.toNat ∧ c.toNat ≤ 102 ∧ c.toNat ≠ 92 := by
  simp only [hexValue?] at h
  split at h
  · omega
  · split at h
    · omega
    · split at h
      · omega
      · cases h

theorem Braced.unique {text rest other : List Char} {c d : Char} (h : Braced text c rest)
    (hother : Braced text d other) : c = d ∧ rest = other := by
  have hsplit : ∀ {text rest : List Char} {c : Char}, Braced text c rest →
      c = Char.ofNat (ofHex ((text.drop 2).takeWhile (· ≠ '\x7d'))) ∧
        rest = ((text.drop 2).dropWhile (· ≠ '\x7d')).tail := by
    intro text rest c h
    obtain @⟨digits, rest, -, hdigits, -⟩ := h
    have hinside : ∀ c ∈ digits, decide (c ≠ '\x7d') = true := by
      intro c hc
      have hbound := toNat_of_hexValue? (hdigits c hc)
      rw [decide_eq_true_eq]
      rintro rfl
      exact absurd hbound (by decide)
    simp only [List.drop_succ_cons, List.drop_zero]
    rw [List.takeWhile_append_of_pos hinside, List.dropWhile_append_of_pos hinside]
    simp
  obtain ⟨hc, hrest⟩ := hsplit h
  obtain ⟨hd, hotherrest⟩ := hsplit hother
  exact ⟨hc.trans hd.symm, hrest.trans hotherrest.symm⟩

/-! ### What quotes stand for -/

/-- A text between quotes stands for one text at most. -/
theorem Spells.unique {inner value other : List Char} (h : Spells inner value)
    (hother : Spells inner other) : value = other := by
  induction h generalizing other with
  | nil =>
    cases hother
    rfl
  | plain _ hslash _ _ ih =>
    cases hother with
    | plain _ _ _ hother => rw [ih hother]
    | escape => exact absurd rfl hslash
    | braced => exact absurd rfl hslash
  | escape hescape _ ih =>
    cases hother with
    | plain _ hslash => exact absurd rfl hslash
    | escape hotherescape hother =>
      -- What JSON reads is one character and one rest.
      have hread := hescape.read.symm.trans hotherescape.read
      obtain ⟨rfl, rfl⟩ := Prod.mk.inj (Except.ok.inj hread)
      rw [ih hother]
    | braced hbraced _ =>
      obtain ⟨fault, hfault⟩ := hbraced.refused
      cases hescape.read.symm.trans hfault
  | braced hbraced _ ih =>
    cases hother with
    | plain _ hslash => exact absurd rfl hslash
    | escape hescape _ =>
      obtain ⟨fault, hfault⟩ := hbraced.refused
      cases hescape.read.symm.trans hfault
    | braced hotherbraced hother =>
      obtain ⟨rfl, rfl⟩ := hbraced.unique hotherbraced
      rw [ih hother]

theorem Spells.length_le {inner value : List Char} (h : Spells inner value) :
    value.length ≤ inner.length := by
  induction h with
  | nil => exact Nat.le_refl _
  | plain _ _ _ _ ih => exact Nat.succ_le_succ ih
  | escape hescape _ ih =>
    have hshorter := hescape.shorter
    simp only [List.length_cons]
    omega
  | braced hbraced _ ih =>
    have hshorter := hbraced.shorter
    simp only [List.length_cons]
    omega

/-- A text between quotes stands for itself exactly if there is no backslash in it. -/
theorem Spells.eq_iff {inner value : List Char} (h : Spells inner value) :
    inner = value ↔ '\\' ∉ inner := by
  induction h with
  | nil => simp
  | plain _ hslash _ _ ih => simp [ih, hslash.symm]
  | escape hescape h =>
    have hshorter := hescape.shorter
    have hlength := h.length_le
    refine ⟨fun heq => ?_, fun hslash => absurd List.mem_cons_self hslash⟩
    have hsame := congrArg List.length heq
    simp only [List.length_cons] at hsame
    omega
  | braced hbraced h =>
    have hshorter := hbraced.shorter
    have hlength := h.length_le
    refine ⟨fun heq => ?_, fun hslash => absurd List.mem_cons_self hslash⟩
    have hsame := congrArg List.length heq
    simp only [List.length_cons] at hsame
    omega

theorem Spells.ne_quote {c : Char} {inner value : List Char} (h : Spells (c :: inner) value) :
    c ≠ '"' := by
  cases h with
  | plain hquote => exact hquote
  | escape => decide
  | braced => decide

/-! ### Writing -/

theorem spells_of_quotes {inner value : List Char} (h : Quotes inner value) :
    Spells inner value := by
  induction h with
  | nil => exact .nil
  | @plain c _ _ hquote hslash hspace _ ih =>
    have hline : c ≠ '\n' ∧ c ≠ '\r' := by
      constructor
      · rintro rfl
        exact absurd hspace (by decide)
      · rintro rfl
        exact absurd hspace (by decide)
    exact .plain hquote hslash hline ih
  | letter hletter _ ih => exact .escape (.letter hletter) ih
  | unit hunit hlow hhigh _ ih => exact .escape (.unit hunit hlow hhigh) ih

/-! ### Reading as JSON -/

theorem isJson_plain {c : Char} (h : c ≠ '\\') (rest : List Char) :
    isJson (c :: rest) = (decide (32 ≤ c.toNat) && isJson rest) := by
  rw [isJson]
  · rintro _ rfl
    exact absurd rfl h
  · rintro _ _ rfl
    exact absurd rfl h

theorem isJson_hex {digits : List Char} (h : ∀ c ∈ digits, (hexValue? c).isSome = true)
    (rest : List Char) : isJson (digits ++ rest) = isJson rest := by
  induction digits with
  | nil => rfl
  | cons c digits ih =>
    have hbound := toNat_of_hexValue? (h c List.mem_cons_self)
    have hslash : c ≠ '\\' := by
      rintro rfl
      exact absurd hbound (by decide)
    have hspace : 32 ≤ c.toNat := by omega
    rw [List.cons_append, isJson_plain hslash, ih fun d hd => h d (List.mem_cons_of_mem _ hd)]
    simp [hspace]

theorem hex_of_isUnit {digits : List Char} {unit : Nat} (h : Text.IsUnit digits unit) :
    ∃ first more, digits = first :: more ∧ ∀ c ∈ digits, (hexValue? c).isSome = true := by
  unfold Text.IsUnit Reader.readUnit at h
  split at h
  · next a b c d after =>
    split at h
    · next p q r s hp hq hr hs =>
      obtain ⟨-, rfl⟩ := Prod.mk.inj (Except.ok.inj h)
      exact ⟨a, _, rfl, by simp [hp, hq, hr, hs]⟩
    · cases h
  · cases h

theorem isJson_letter {letter : Char} (h : letter ≠ 'u') (rest : List Char) :
    isJson ('\\' :: letter :: rest) = isJson rest := by
  rw [isJson]
  rintro _ rfl
  exact absurd rfl h

theorem isJson_unit {digits : List Char} {unit : Nat} (h : Text.IsUnit digits unit)
    (rest : List Char) : isJson ('\\' :: 'u' :: (digits ++ rest)) = isJson rest := by
  obtain ⟨first, more, rfl, hdigits⟩ := hex_of_isUnit h
  have hbrace : first ≠ '\x7b' := by
    rintro rfl
    exact absurd (hdigits _ List.mem_cons_self) (by decide)
  rw [List.cons_append, isJson, ← List.cons_append, isJson_hex hdigits]
  rintro _ _ heq
  exact hbrace (List.cons.inj heq).1

theorem Escape.isJson_eq {text rest : List Char} {c : Char} (h : Escape text c rest) :
    isJson ('\\' :: text) = isJson rest := by
  cases h with
  | letter hletter =>
    refine isJson_letter ?_ rest
    rintro rfl
    simp [Reader.escapeOf?] at hletter
  | unit hunit => exact isJson_unit hunit rest
  | pair hleading htrailing => rw [isJson_unit hleading, isJson_unit htrailing]

theorem Braced.isJson_eq {text rest : List Char} {c : Char} (h : Braced text c rest) :
    isJson ('\\' :: text) = false := by
  obtain ⟨more, rfl⟩ := h.exists_cons
  rw [isJson]

theorem readTextFrom_of_isJson {inner value : List Char} (h : Spells inner value)
    (hjson : isJson inner = true) (back rest : List Char) :
    Reader.readTextFrom back (inner ++ '"' :: rest) =
      .ok (String.ofList (back.reverse ++ value), rest) := by
  induction h generalizing back with
  | nil => rw [List.nil_append, Text.readTextFrom_quote, List.append_nil]
  | plain hquote hslash _ _ ih =>
    rw [isJson_plain hslash, Bool.and_eq_true, decide_eq_true_eq] at hjson
    rw [List.cons_append, Text.readTextFrom_plain hquote hslash hjson.1, ih hjson.2]
    simp
  | escape hescape _ ih =>
    rw [hescape.isJson_eq] at hjson
    rw [List.cons_append, Text.readTextFrom_escape (hescape.append _).read, ih hjson]
    simp
  | braced hbraced =>
    rw [hbraced.isJson_eq] at hjson
    cases hjson

theorem readTextFrom_fault {text : List Char} {fault : Json.Fault}
    (h : Reader.readEscape text = .error fault) (back : List Char) :
    Reader.readTextFrom back ('\\' :: text) = .error fault := by
  rw [Reader.readTextFrom, if_neg (by decide), if_pos rfl]
  split
  · next hfault =>
    rw [h] at hfault
    cases hfault
    rfl
  · next hok =>
    rw [h] at hok
    cases hok

theorem exists_fault_of_not_isJson {inner value : List Char} (h : Spells inner value)
    (hjson : isJson inner = false) (back rest : List Char) :
    ∃ fault, Reader.readTextFrom back (inner ++ '"' :: rest) = .error fault := by
  induction h generalizing back with
  | nil => cases hjson
  | @plain c inner value hquote hslash _ _ ih =>
    rw [isJson_plain hslash] at hjson
    -- The reader stops here or has the fault still before it.
    by_cases hspace : 32 ≤ c.toNat
    · rw [decide_eq_true hspace, Bool.true_and] at hjson
      rw [List.cons_append, Text.readTextFrom_plain hquote hslash hspace]
      exact ih hjson (c :: back)
    · rw [List.cons_append, Reader.readTextFrom, if_neg hquote, if_neg hslash,
        if_pos (Nat.not_le.1 hspace)]
      exact ⟨_, rfl⟩
  | @escape _ _ _ c hescape _ ih =>
    rw [hescape.isJson_eq] at hjson
    rw [List.cons_append, Text.readTextFrom_escape (hescape.append _).read]
    exact ih hjson (c :: back)
  | braced hbraced =>
    obtain ⟨fault, hfault⟩ := (hbraced.append ('"' :: rest)).refused
    exact ⟨fault, readTextFrom_fault hfault back⟩

/-! ## In blocks -/

/-- The first text, up to and with the three closing quotes, is a block of the second one. Three
quotes inside have a backslash in front of them. -/
inductive SpellsBlock : List Char → List Char → Prop
  | close : SpellsBlock ['"', '"', '"'] []
  | quotes {text raw : List Char} (h : SpellsBlock text raw) :
    SpellsBlock ('\\' :: '"' :: '"' :: '"' :: text) ('"' :: '"' :: '"' :: raw)
  | plain {c : Char} {text raw : List Char} (hclose : ¬ ['"', '"', '"'] <+: c :: text)
    (hquotes : ¬ ['\\', '"', '"', '"'] <+: c :: text) (h : SpellsBlock text raw) :
    SpellsBlock (c :: text) (c :: raw)

/-- The lines of a text, which end with a line feed, a carriage return or both. -/
def lines : List Char → List (List Char)
  | [] => [[]]
  | '\r' :: '\n' :: rest => [] :: lines rest
  | c :: rest =>
    if c = '\n' ∨ c = '\r' then [] :: lines rest
    else match lines rest with
      | [] => [[c]]
      | line :: others => (c :: line) :: others

def isIndent (c : Char) : Bool := c == ' ' || c == '\t'

/-- The width of the white space that all lines but the first begin with, lines of nothing but white
space apart. -/
def commonIndent (others : List (List Char)) : Nat :=
  ((others.filter fun line => !line.all isIndent).map
    fun line => (line.takeWhile isIndent).length).min?.getD 0

def unindented : List (List Char) → List (List Char)
  | [] => []
  | first :: others => first :: others.map (List.drop (commonIndent others))

/-- What a block stands for: its lines without their common indentation, and without the lines of
nothing but white space at the two ends. -/
def blockValue (raw : List Char) : List Char :=
  ['\n'].intercalate
    (((unindented (lines raw)).dropWhile (·.all isIndent)).rdropWhile (·.all isIndent))

theorem SpellsBlock.unique {text raw other : List Char} (h : SpellsBlock text raw)
    (hother : SpellsBlock text other) : raw = other := by
  induction h generalizing other with
  | close =>
    cases hother with
    | close => rfl
    | plain hclose => exact absurd (List.prefix_refl _) hclose
  | quotes _ ih =>
    cases hother with
    | quotes hother => rw [ih hother]
    | plain _ hquotes => exact absurd (List.prefix_append ['\\', '"', '"', '"'] _) hquotes
  | plain hclose hquotes _ ih =>
    cases hother with
    | close => exact absurd (List.prefix_refl _) hclose
    | quotes => exact absurd (List.prefix_append ['\\', '"', '"', '"'] _) hquotes
    | plain _ _ hother => rw [ih hother]

theorem SpellsBlock.getLast? {text raw : List Char} (h : SpellsBlock text raw) :
    text.getLast? = some '"' := by
  induction h with
  | close => rfl
  | quotes _ ih =>
    rw [List.getLast?_cons, List.getLast?_cons, List.getLast?_cons, List.getLast?_cons, ih]
    rfl
  | plain _ _ _ ih =>
    rw [List.getLast?_cons, ih]
    rfl

theorem SpellsBlock.count_quote {text raw : List Char} (h : SpellsBlock text raw) :
    text.count '"' = raw.count '"' + 3 := by
  induction h with
  | close => rfl
  | quotes _ ih =>
    simp only [List.count_cons, ih]
    simp
  | plain _ _ _ ih =>
    rw [List.count_cons, List.count_cons, ih]
    omega

/-! ### A block has at least the quotes of its value -/

theorem count_flatten_lines (text : List Char) :
    (lines text).flatten.count '"' = text.count '"' := by
  fun_induction lines text with
  | case1 => rfl
  | case2 rest ih => simp [ih]
  | case3 c rest _ hline ih =>
    have hne : c ≠ '"' := by
      rcases hline with rfl | rfl <;> decide
    simp [ih, hne]
  | case4 c rest _ _ hnil ih =>
    rw [hnil] at ih
    simp at ih
    simp [List.count_cons, ← ih]
  | case5 c rest _ _ line others hlines ih =>
    rw [hlines] at ih
    simp [List.count_cons, ← ih]

theorem count_intercalate (all : List (List Char)) :
    (['\n'].intercalate all).count '"' = all.flatten.count '"' := by
  induction all with
  | nil => rfl
  | cons line others ih =>
    cases others with
    | nil => simp
    | cons next others =>
      rw [List.intercalate_cons_cons, List.count_append, List.count_append, ih, List.flatten_cons,
        List.count_append]
      simp

theorem count_unindented_le (all : List (List Char)) :
    (unindented all).flatten.count '"' ≤ all.flatten.count '"' := by
  cases all with
  | nil => exact Nat.le_refl _
  | cons first others =>
    have hothers : ∀ (width : Nat) (others : List (List Char)),
        (others.map (List.drop width)).flatten.count '"' ≤ others.flatten.count '"' := by
      intro width others
      induction others with
      | nil => exact Nat.le_refl _
      | cons line others ih =>
        have hline := (List.drop_sublist width line).count_le '"'
        simp only [List.map_cons, List.flatten_cons, List.count_append]
        omega
    have hmore := hothers (commonIndent others) others
    simp only [unindented, List.flatten_cons, List.count_append]
    omega

theorem count_blockValue_le (raw : List Char) : (blockValue raw).count '"' ≤ raw.count '"' := by
  obtain ⟨behind, hbehind⟩ := List.rdropWhile_prefix (fun line : List Char => line.all isIndent)
    ((unindented (lines raw)).dropWhile (·.all isIndent))
  obtain ⟨before, hbefore⟩ := List.dropWhile_suffix (fun line : List Char => line.all isIndent)
    (l := unindented (lines raw))
  -- Of the quotes of all lines, some may be in the lines that are dropped at the ends.
  have hlines := count_unindented_le (lines raw)
  rw [count_flatten_lines, ← hbefore, ← hbehind, List.flatten_append, List.flatten_append,
    List.count_append, List.count_append] at hlines
  rw [blockValue, count_intercalate]
  omega

/-! ## Strings -/

/-- The text is a string, in quotes or as a block, that stands for the value. -/
inductive Denotes : List Char → List Char → Prop
  | quoted {text inner value : List Char} (htext : text = inner ++ ['"']) (h : Spells inner value) :
    Denotes ('"' :: text) value
  | block {text raw : List Char} (h : SpellsBlock text raw) :
    Denotes ('"' :: '"' :: '"' :: text) (blockValue raw)

theorem Spells.not_block {inner value text : List Char} (h : Spells inner value) :
    inner ++ ['"'] ≠ '"' :: '"' :: text := by
  cases inner with
  | nil => simp
  | cons c inner =>
    intro heq
    exact h.ne_quote (List.cons.inj heq).1

theorem Denotes.unique {text value other : List Char} (h : Denotes text value)
    (hother : Denotes text other) : value = other := by
  cases h with
  | quoted htext h =>
    cases hother with
    | quoted hothertext hother =>
      obtain rfl := List.append_cancel_right (htext.symm.trans hothertext)
      exact h.unique hother
    | block => exact absurd htext.symm h.not_block
  | block h =>
    cases hother with
    | quoted htext hother => exact absurd htext.symm hother.not_block
    | block hother => rw [h.unique hother]

/-- A text is written as a string that stands for it. -/
theorem denotes_quoted (text : List Char) : Denotes (Text.quoted text) text :=
  .quoted rfl (spells_of_quotes (Text.quotes_flatMap_escaped text))

/-! ## Strings as defaults -/

open Scalar (textOfDefault? unquoted? stripQuotes)

theorem textOfDefault?_cons {c : Char} {text : List Char} (h : c ≠ 'n') :
    textOfDefault? (c :: text) =
      (unquoted? (c :: text)).or (some (String.ofList (stripQuotes (c :: text)))) := by
  rw [textOfDefault?, if_neg]
  intro heq
  exact h (List.cons.inj heq).1

theorem stripQuotes_append (inner : List Char) :
    stripQuotes ('"' :: (inner ++ ['"'])) = inner := by
  simp [stripQuotes]

/-- What quotes stand for is found if JSON has it; else their inside is kept as it is. -/
theorem textOfDefault?_of_spells {inner value : List Char} (h : Spells inner value) :
    textOfDefault? ('"' :: (inner ++ ['"'])) =
      some (String.ofList (if isJson inner then value else inner)) := by
  rw [textOfDefault?_cons (by decide), stripQuotes_append, unquoted?]
  cases hjson : isJson inner with
  | true =>
    rw [Reader.readText, readTextFrom_of_isJson h hjson]
    rfl
  | false =>
    obtain ⟨fault, hfault⟩ := exists_fault_of_not_isJson h hjson [] []
    rw [Reader.readText, hfault]
    rfl

/-- A block loses one quote at each end. -/
theorem textOfDefault?_of_spellsBlock {text raw : List Char} (h : SpellsBlock text raw) :
    textOfDefault? ('"' :: '"' :: '"' :: text) =
      some (String.ofList ('"' :: '"' :: text.dropLast)) := by
  have hne : text ≠ [] := by
    rintro rfl
    cases h
  -- JSON reads the first two quotes as an empty text and refuses the third one.
  have hread : unquoted? ('"' :: '"' :: '"' :: text) = none := by
    rw [unquoted?, Reader.readText, Text.readTextFrom_quote]
    rfl
  have hlast : ('"' :: '"' :: text).getLast? = some '"' := by
    rw [List.getLast?_cons, List.getLast?_cons, h.getLast?]
    rfl
  rw [textOfDefault?_cons (by decide), hread, stripQuotes, if_pos hlast,
    List.dropLast_cons_of_ne_nil (by simp), List.dropLast_cons_of_ne_nil hne]
  rfl

/-- So it has more quotes than the block has. -/
theorem blockValue_ne {text raw : List Char} (h : SpellsBlock text raw) :
    '"' :: '"' :: text.dropLast ≠ blockValue raw := by
  intro heq
  have hcount := count_blockValue_le raw
  have hsplit : text.dropLast ++ ['"'] = text := by
    have hlast := h.getLast?
    rwa [List.dropLast_append_getLast?]
  have hquotes := h.count_quote
  rw [← hsplit, List.count_append] at hquotes
  rw [← heq, List.count_cons_self, List.count_cons_self] at hcount
  simp only [List.count_singleton_self] at hquotes
  omega

end QueryTree.StringValue
