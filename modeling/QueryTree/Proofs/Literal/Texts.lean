import QueryTree.Literal.Render
import QueryTree.Proofs.Json.Numbers
import QueryTree.Proofs.Literal.BuiltIn

/-! # Texts that are numbers, booleans and names

The text of an argument may stand for an integer, a number or a boolean, with white space around it
or without. An integer may have a sign and leading zeros; any other number is a numeral as it stands
in a query. A name has nothing around it. -/

namespace QueryTree

open Text (isBlank trim)

/-! ## White space -/

/-- The second text is the first one, with white space around it or without. -/
inductive Text.Pads (inner : List Char) : List Char → Prop
  | mk {before after : List Char} (hbefore : before.all isBlank = true)
    (hafter : after.all isBlank = true) : Pads inner (before ++ (inner ++ after))

namespace Text

theorem exists_dropWhile (text : List Char) :
    ∃ blank, text = blank ++ text.dropWhile isBlank ∧ blank.all isBlank = true :=
  ⟨text.takeWhile isBlank, List.takeWhile_append_dropWhile.symm, List.all_takeWhile⟩

theorem pads_trim (text : List Char) : Pads (trim text) text := by
  obtain ⟨before, hbefore, hblank⟩ := exists_dropWhile text
  obtain ⟨back, hback, hafter⟩ := exists_dropWhile (text.dropWhile isBlank).reverse
  have hsplit : text.dropWhile isBlank = trim text ++ back.reverse := by
    rw [trim, ← List.reverse_append, ← hback, List.reverse_reverse]
  have hpads := @Pads.mk (trim text) before back.reverse hblank (by rwa [List.all_reverse])
  rwa [← hsplit, ← hbefore] at hpads

theorem Pads.trim_eq {inner text : List Char} (h : Pads inner text) (hbare : Default.IsBare inner) :
    trim text = inner := by
  obtain ⟨hbefore, hafter⟩ := h
  exact Default.trim_append hbefore hafter hbare

theorem isBlank_of_getLast?_trim {text : List Char} {c : Char}
    (h : (trim text).getLast? = some c) : isBlank c = false := by
  rw [trim, List.getLast?_reverse] at h
  have hfirst := List.head?_dropWhile_not isBlank (text.dropWhile isBlank).reverse
  rw [h] at hfirst
  exact hfirst

/-- What has no white space at its ends is the trimmed text of all that it is padded to. -/
theorem pads_iff {inner text : List Char} (hbare : Default.IsBare inner) :
    Pads inner text ↔ trim text = inner := by
  constructor
  · exact fun h => h.trim_eq hbare
  · rintro rfl
    exact pads_trim text

theorem isBlank_of_isSpace {c : Char} (h : Reader.isSpace c = true) : isBlank c = true := by
  simp only [Reader.isSpace, Bool.or_eq_true, beq_iff_eq] at h
  obtain ((rfl | rfl) | rfl) | rfl := h
  · rfl
  · rfl
  · rfl
  · rfl

end Text

/-! ## Integers -/

namespace Decimal

/-- Digits with at most one sign in front. -/
inductive SpellsSigned : List Char → Int → Prop
  | unsigned {ds : List Char} (h : Number.IsDigits ds) : SpellsSigned ds (value ds)
  | plus {ds : List Char} (h : Number.IsDigits ds) : SpellsSigned ('+' :: ds) (value ds)
  | minus {ds : List Char} (h : Number.IsDigits ds) : SpellsSigned ('-' :: ds) (-(value ds : Int))

theorem natural?_of_isDigits {text : List Char} (h : Number.IsDigits text) :
    natural? text = some (value text) :=
  if_pos ⟨h.1, List.all_eq_true.2 h.2⟩

theorem isDigits_of_natural? {text : List Char} {n : Nat} (h : natural? text = some n) :
    Number.IsDigits text ∧ value text = n := by
  unfold natural? at h
  split at h
  · next hdigits => exact ⟨⟨hdigits.1, List.all_eq_true.1 hdigits.2⟩, Option.some.inj h⟩
  · cases h

theorem signed?_eq_some_iff {text : List Char} {n : Int} :
    signed? text = some n ↔ SpellsSigned text n := by
  constructor
  · intro h
    have hread : ∀ {ds : List Char} {k : Int}, (natural? ds >>= fun n => pure (n : Int)) = some k →
        Number.IsDigits ds ∧ (value ds : Int) = k := by
      intro ds k hk
      obtain ⟨m, hm, hcast⟩ := Option.bind_eq_some_iff.1 hk
      obtain ⟨hdigits, rfl⟩ := isDigits_of_natural? hm
      exact ⟨hdigits, Option.some.inj hcast⟩
    unfold signed? at h
    split at h
    · obtain ⟨k, hk, rfl⟩ := Option.map_eq_some_iff.1 h
      obtain ⟨hdigits, rfl⟩ := hread hk
      exact .minus hdigits
    · obtain ⟨k, hk, rfl⟩ := Option.map_eq_some_iff.1 h
      obtain ⟨hdigits, rfl⟩ := hread hk
      exact .plus hdigits
    · obtain ⟨k, hk, rfl⟩ := Option.map_eq_some_iff.1 h
      obtain ⟨hdigits, rfl⟩ := hread hk
      exact .unsigned hdigits
  · intro h
    cases h with
    | plus h => simp [signed?, natural?_of_isDigits h]
    | minus h => simp [signed?, natural?_of_isDigits h]
    | unsigned h =>
      -- The first digit is no sign.
      obtain ⟨d, more, rfl, hd⟩ := h.exists_cons
      have hnatural := natural?_of_isDigits h
      unfold signed?
      split
      · next heq =>
        obtain ⟨rfl, -⟩ := List.cons.inj heq
        exact absurd hd (by decide)
      · next heq =>
        obtain ⟨rfl, -⟩ := List.cons.inj heq
        exact absurd hd (by decide)
      · rw [hnatural]
        rfl

theorem SpellsSigned.isBare {text : List Char} {n : Int} (h : SpellsSigned text n) :
    Default.IsBare text := by
  have hdigits : ∀ {ds : List Char}, Number.IsDigits ds →
      ∃ last, ds.getLast? = some last ∧ isBlank last = false := by
    intro ds hds
    exact ⟨ds.getLast hds.1, List.getLast?_eq_some_getLast hds.1,
      Default.isBlank_of_isDigit (hds.2 _ (List.getLast_mem hds.1))⟩
  have hsigned : ∀ {sign : Char} {ds : List Char}, Number.IsDigits ds → isBlank sign = false →
      Default.IsBare (sign :: ds) := by
    intro sign ds hds hsign
    obtain ⟨last, hlast, hblank⟩ := hdigits hds
    exact ⟨sign, last, rfl, by rw [List.getLast?_cons, hlast]; rfl, hsign, hblank⟩
  cases h with
  | plus h => exact hsigned h rfl
  | minus h => exact hsigned h rfl
  | unsigned h =>
    obtain ⟨last, hlast, hblank⟩ := hdigits h
    obtain ⟨d, more, rfl, hd⟩ := h.exists_cons
    exact ⟨d, last, rfl, hlast, Default.isBlank_of_isDigit hd, hblank⟩

end Decimal

namespace Literal

/-- The text is an integer of 64 bits with a sign. -/
def IsInteger (text : List Char) (n : Int) : Prop :=
  (∃ inner, Text.Pads inner text ∧ Decimal.SpellsSigned inner n) ∧ -2 ^ 63 ≤ n ∧ n < 2 ^ 63

theorem intOfText?_eq_some_iff {text : List Char} {n : Int} :
    intOfText? text = some n ↔ IsInteger text n := by
  rw [intOfText?, Option.filter_eq_some_iff, decide_eq_true_eq, Decimal.signed?_eq_some_iff,
    IsInteger]
  refine and_congr_left fun _ => ?_
  constructor
  · exact fun h => ⟨_, Text.pads_trim text, h⟩
  · rintro ⟨inner, hpads, h⟩
    rwa [hpads.trim_eq h.isBare]

/-! ## Numbers -/

def IsNumber (text : List Char) (number : Number) : Prop :=
  ∃ inner, Text.Pads inner text ∧ number.IsSpelledBy inner

theorem isBare_of_isSpelledBy {text : List Char} {number : Number} (h : number.IsSpelledBy text) :
    Default.IsBare text := by
  obtain ⟨s, hs, -⟩ := Number.exists_number?_of_isSpelledBy h
  exact Default.isBare_of_numeral hs

theorem ofText?_trim_eq_some_iff {text : List Char} {number : Number} :
    Number.ofText? (trim text) = some number ↔ IsNumber text number := by
  have hlast : ∀ c, (trim text).getLast? = some c → Reader.isSpace c = false := by
    intro c hc
    have hblank := Text.isBlank_of_getLast?_trim hc
    by_contra hspace
    rw [Text.isBlank_of_isSpace (by simpa using hspace)] at hblank
    cases hblank
  rw [Number.ofText?_eq_some_iff_isSpelledBy hlast]
  constructor
  · exact fun h => ⟨_, Text.pads_trim text, h⟩
  · rintro ⟨inner, hpads, h⟩
    rwa [hpads.trim_eq (isBare_of_isSpelledBy h)]

/-! ## Booleans -/

def IsBoolean (text : List Char) (value : Bool) : Prop :=
  Text.Pads (if value then "true".toList else "false".toList) text

theorem booleanOfText?_eq_some_iff {text : List Char} {value : Bool} :
    booleanOfText? text = some value ↔ IsBoolean text value := by
  have hbare : Default.IsBare (if value then "true".toList else "false".toList) := by
    cases value with
    | true => exact ⟨'t', 'e', rfl, rfl, rfl, rfl⟩
    | false => exact ⟨'f', 'e', rfl, rfl, rfl, rfl⟩
  rw [IsBoolean, Text.pads_iff hbare, booleanOfText?]
  generalize trim text = inner
  split
  · next htrue =>
    subst htrue
    cases value <;> decide
  · next htrue =>
    split
    · next hfalse =>
      subst hfalse
      cases value <;> decide
    · next hfalse =>
      cases value with
      | true => exact iff_of_false (by simp) htrue
      | false => exact iff_of_false (by simp) hfalse

end Literal

/-! ## Names -/

namespace Text

/-- A letter or an underscore, then letters, digits and underscores. -/
def IsName (text : List Char) : Prop :=
  ∃ first rest, text = first :: rest ∧ (first = '_' ∨ first.isAlpha = true) ∧
    ∀ c ∈ rest, c = '_' ∨ c.isAlpha = true ∨ c.isDigit = true

theorem isName_iff {text : List Char} : isName text = true ↔ IsName text := by
  cases text with
  | nil => simp [isName, IsName]
  | cons first rest =>
    simp [isName, IsName, isNameStart, isNameContinue, Char.isAlphanum, and_assoc]

theorem all_isName_iff {α : Type} {members : List (String × α)} :
    (members.all fun member => isName member.1.toList) = true ↔
      ∀ member ∈ members, IsName member.1.toList := by
  simp only [List.all_eq_true, isName_iff]

instance (text : List Char) : Decidable (IsName text) := decidable_of_iff _ isName_iff

end Text

end QueryTree
