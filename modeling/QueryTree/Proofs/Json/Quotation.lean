import Mathlib.Tactic.IntervalCases
import QueryTree.Json.Reader
import QueryTree.Text.Quoted

/-! # Quoted text is read back

The grammar of what may stand between two quotes. The reader takes in whatever the grammar allows, up
to the closing quote and no further, and a quoted text is read back as it was. -/

namespace QueryTree.Text

/-! ## The grammar -/

/-- Four hexadecimal digits. -/
def IsUnit (digits : List Char) (unit : Nat) : Prop := Reader.readUnit digits = .ok (unit, [])

/-- The first text, between quotes, stands for the second one. -/
inductive Quotes : List Char → List Char → Prop
  | nil : Quotes [] []
  | plain {c : Char} {inner value : List Char} (hquote : c ≠ '"') (hslash : c ≠ '\\')
    (hspace : 32 ≤ c.toNat) (h : Quotes inner value) : Quotes (c :: inner) (c :: value)
  | letter {letter c : Char} {inner value : List Char} (hletter : Reader.escapeOf? letter = some c)
    (h : Quotes inner value) : Quotes ('\\' :: letter :: inner) (c :: value)
  | unit {digits inner value : List Char} {unit : Nat} (hunit : IsUnit digits unit)
    (hlow : Reader.isLowSurrogate unit = false) (hhigh : Reader.isHighSurrogate unit = false)
    (h : Quotes inner value) :
    Quotes ('\\' :: 'u' :: (digits ++ inner)) (Char.ofNat unit :: value)

/-! ## Reading -/

theorem readUnit_append {digits : List Char} {unit : Nat} (h : IsUnit digits unit)
    (rest : List Char) : Reader.readUnit (digits ++ rest) = .ok (unit, rest) := by
  unfold IsUnit Reader.readUnit at h
  split at h
  · next a b c d after =>
    split at h
    · next p q r s hp hq hr hs =>
      simp only [Except.ok.injEq, Prod.mk.injEq] at h
      obtain ⟨rfl, rfl⟩ := h
      simp [Reader.readUnit, hp, hq, hr, hs]
    · cases h
  · cases h

theorem readEscape_unit {digits : List Char} {unit : Nat} (h : IsUnit digits unit)
    (hlow : Reader.isLowSurrogate unit = false) (hhigh : Reader.isHighSurrogate unit = false)
    (rest : List Char) :
    Reader.readEscape ('u' :: (digits ++ rest)) = .ok (Char.ofNat unit, rest) := by
  rw [Reader.readEscape, if_pos rfl, Reader.readHexEscape, readUnit_append h]
  simp [bind, Except.bind, hlow, hhigh]

theorem readEscape_letter {letter c : Char} (h : Reader.escapeOf? letter = some c)
    (rest : List Char) : Reader.readEscape (letter :: rest) = .ok (c, rest) := by
  have hne : letter ≠ 'u' := by
    rintro rfl
    simp [Reader.escapeOf?] at h
  rw [Reader.readEscape, if_neg hne, h]

theorem readTextFrom_quote (back rest : List Char) :
    Reader.readTextFrom back ('"' :: rest) = .ok (String.ofList back.reverse, rest) := by
  rw [Reader.readTextFrom]
  rfl

theorem readTextFrom_plain {c : Char} (hquote : c ≠ '"') (hslash : c ≠ '\\')
    (hspace : 32 ≤ c.toNat) (back rest : List Char) :
    Reader.readTextFrom back (c :: rest) = Reader.readTextFrom (c :: back) rest := by
  rw [Reader.readTextFrom, if_neg hquote, if_neg hslash, if_neg (Nat.not_lt.2 hspace)]

theorem readTextFrom_escape {c : Char} {text rest : List Char}
    (h : Reader.readEscape text = .ok (c, rest)) (back : List Char) :
    Reader.readTextFrom back ('\\' :: text) = Reader.readTextFrom (c :: back) rest := by
  rw [Reader.readTextFrom, if_neg (by decide), if_pos rfl]
  split
  · next hfault => rw [h] at hfault; cases hfault
  · next decoded after hok =>
    rw [h] at hok
    cases hok
    rfl

theorem readTextFrom_append {inner value : List Char} (h : Quotes inner value)
    (back rest : List Char) :
    Reader.readTextFrom back (inner ++ '"' :: rest) =
      .ok (String.ofList (back.reverse ++ value), rest) := by
  induction h generalizing back with
  | nil => rw [List.nil_append, readTextFrom_quote, List.append_nil]
  | plain hquote hslash hspace _ ih =>
    rw [List.cons_append, readTextFrom_plain hquote hslash hspace, ih]
    simp
  | letter hletter _ ih =>
    rw [List.cons_append, List.cons_append, readTextFrom_escape (readEscape_letter hletter _), ih]
    simp
  | unit hunit hlow hhigh _ ih =>
    rw [List.cons_append, List.cons_append, List.append_assoc,
      readTextFrom_escape (readEscape_unit hunit hlow hhigh _), ih]
    simp

/-- The reader goes on up to the closing quote and no further. -/
theorem readText_append {inner value : List Char} (h : Quotes inner value) (rest : List Char) :
    Reader.readText (inner ++ '"' :: rest) = .ok (String.ofList value, rest) :=
  readTextFrom_append h [] rest

/-! ## Writing -/

theorem isUnit_control {n : Nat} (h : n < 32) :
    IsUnit ['0', '0', hexDigit (n / 16), hexDigit (n % 16)] n := by
  unfold IsUnit
  interval_cases n <;> rfl

theorem quotes_letter {letter c d : Char} (h : c = d) (hletter : Reader.escapeOf? letter = some d)
    {inner value : List Char} (hinner : Quotes inner value) :
    Quotes ('\\' :: letter :: inner) (c :: value) := by
  rw [h]
  exact .letter hletter hinner

theorem quotes_escaped (c : Char) {inner value : List Char} (h : Quotes inner value) :
    Quotes (escaped c ++ inner) (c :: value) := by
  unfold escaped
  split
  · next heq => exact quotes_letter heq rfl h
  split
  · next heq => exact quotes_letter heq rfl h
  split
  · next heq => exact quotes_letter heq rfl h
  split
  · next heq => exact quotes_letter heq rfl h
  split
  · next heq => exact quotes_letter heq rfl h
  split
  · next heq => exact quotes_letter heq rfl h
  split
  · next heq => exact quotes_letter heq rfl h
  split
  · next hcontrol =>
    have hlow : Reader.isLowSurrogate c.toNat = false := by
      simp [Reader.isLowSurrogate]
      omega
    have hhigh : Reader.isHighSurrogate c.toNat = false := by
      simp [Reader.isHighSurrogate]
      omega
    have hunit := Quotes.unit (isUnit_control hcontrol) hlow hhigh h
    rwa [Char.ofNat_toNat] at hunit
  · next hquote hslash _ _ _ _ _ hspace =>
    exact .plain hquote hslash (Nat.not_lt.1 hspace) h

theorem quotes_flatMap_escaped (text : List Char) : Quotes (text.flatMap escaped) text := by
  induction text with
  | nil => exact .nil
  | cons c text ih =>
    rw [List.flatMap_cons]
    exact quotes_escaped c ih

end QueryTree.Text
