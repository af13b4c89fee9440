import QueryTree.Proofs.Decimal.Shortest
import QueryTree.Proofs.Json.Grammar

/-! # What numerals denote

A numeral stands for a decimal number and denotes the double nearest to it. A double is written as a
numeral that denotes it. The reader finds the denoted double where a numeral has few digits and a
small power of ten; elsewhere it rounds more than once and may end at a neighbour. -/

namespace QueryTree.Number

open QueryTree.Decimal

/-! ## Values of digits -/

theorem toNat_of_isDigit {c : Char} (h : c.isDigit = true) : 48 ≤ c.toNat ∧ c.toNat ≤ 57 := by
  simpa [Char.isDigit, UInt32.le_iff_toNat_le] using h

theorem digit_digitValue {c : Char} (h : c.isDigit = true) : digit (digitValue c) = c := by
  obtain ⟨hlow, hhigh⟩ := toNat_of_isDigit h
  have hmod : (c.toNat - 48) % 10 = c.toNat - 48 := Nat.mod_eq_of_lt (by omega)
  rw [digit, digitValue, hmod, Nat.add_sub_cancel' hlow, Char.ofNat_toNat]

theorem value_append (ds more : List Char) :
    value (ds ++ more) = value ds * 10 ^ more.length + value more := by
  induction more using List.reverseRecOn with
  | nil => simp [value]
  | append_singleton more d ih =>
    rw [← List.append_assoc, value_append_singleton, value_append_singleton, ih,
      List.length_append, List.length_singleton, Nat.pow_succ]
    ring

theorem value_replicate_zero (count : Nat) : value (List.replicate count '0') = 0 := by
  induction count with
  | zero => rfl
  | succ count ih =>
    rw [List.replicate_succ', value_append_singleton, ih]
    rfl

theorem IsWhole.front {front : List Char} {d : Char} (h : IsWhole (front ++ [d]))
    (hfront : front ≠ []) : IsWhole front ∧ front.head? ≠ some '0' := by
  have hdigits : IsDigits front := ⟨hfront, fun c hc => h.1.2 c (List.mem_append_left _ hc)⟩
  have hnonzero : front.head? ≠ some '0' := by
    intro hzero
    have hone := h.2 (by rw [List.head?_append, hzero]; rfl)
    have hlength := congrArg List.length hone
    simp only [List.length_append, List.length_singleton] at hlength
    exact hfront (List.length_eq_zero_iff.1 (by omega))
  exact ⟨⟨hdigits, fun hzero => absurd hzero hnonzero⟩, hnonzero⟩

/-- Digits without leading zeros are the digits of their value. -/
theorem digits_value {ds : List Char} (h : IsWhole ds) : digits (value ds) = ds := by
  induction ds using List.reverseRecOn with
  | nil => exact absurd rfl h.1.1
  | append_singleton front d ih =>
    have hd : d.isDigit = true := h.1.2 d (by simp)
    have hsmall : digitValue d < 10 := by
      have hhigh := (toNat_of_isDigit hd).2
      unfold digitValue
      omega
    rw [value_append_singleton]
    by_cases hfront : front = []
    · subst hfront
      have hvalue : 10 * value [] + digitValue d = digitValue d := by simp [value]
      rw [hvalue, digits, if_pos hsmall, digit_digitValue hd]
      rfl
    · -- The digits in front do not begin with a zero, so that their value is not zero either.
      obtain ⟨hwhole, hnonzero⟩ := h.front hfront
      have hback := ih hwhole
      have hpositive : value front ≠ 0 := by
        intro hzero
        rw [hzero] at hback
        rw [← hback] at hnonzero
        exact hnonzero (by decide +kernel)
      have hquotient : (10 * value front + digitValue d) / 10 = value front := by omega
      have hremainder : (10 * value front + digitValue d) % 10 = digitValue d := by omega
      rw [digits, if_neg (by omega), hquotient, hremainder, hback, digit_digitValue hd]

/-! ## Numerals and their parts -/

/-- The text spells the parts, with a minus sign in front if they say so. -/
def Numeral (text : List Char) (s : Spelling) : Prop :=
  ∃ unsigned, SpellsUnsigned unsigned s ∧ text = if s.negative then '-' :: unsigned else unsigned

theorem ofText?_of_numeral {text : List Char} {s : Spelling} (h : Numeral text s) :
    ofText? text = s.number? := by
  obtain ⟨unsigned, hspells, rfl⟩ := h
  exact ofText?_of_spells hspells

theorem Numeral.exists_cons {text : List Char} {s : Spelling} (h : Numeral text s) :
    ∃ c more, text = c :: more ∧ (c = '-' ∨ c.isDigit = true) := by
  obtain ⟨unsigned, hspells, rfl⟩ := h
  split
  · exact ⟨'-', unsigned, rfl, Or.inl rfl⟩
  · obtain ⟨c, more, rfl, hc⟩ := hspells.exists_cons
    exact ⟨c, more, rfl, Or.inr hc⟩

/-- A text is a numeral in one way at most. -/
theorem Numeral.unique {text : List Char} {s t : Spelling} (h : Numeral text s)
    (hother : Numeral text t) : s = t := by
  obtain ⟨unsigned, hs, htext⟩ := h
  obtain ⟨other, ht, hothertext⟩ := hother
  have hminus : ∀ {u : Spelling} {unsigned : List Char}, SpellsUnsigned unsigned u →
      text = (if u.negative then '-' :: unsigned else unsigned) →
      (u.negative = true ↔ text.head? = some '-') := by
    rintro u _ hu rfl
    obtain ⟨c, more, rfl, hc⟩ := hu.exists_cons
    have hne : c ≠ '-' := by
      rintro rfl
      exact absurd hc (by decide)
    cases u.negative <;> simp [hne]
  -- The first character tells the sign, and the reader tells the rest.
  have hsign : s.negative = t.negative :=
    Bool.eq_iff_iff.2 ((hminus hs htext).trans (hminus ht hothertext).symm)
  have hsame : unsigned = other := by
    rw [htext, hsign] at hothertext
    split at hothertext
    · exact (List.cons.inj hothertext).2
    · exact hothertext
  have hread := readSpelling_append hs endsNumber_nil .endOfValue
  rw [hsign, hsame, readSpelling_append ht endsNumber_nil .endOfValue] at hread
  exact (congrArg Prod.fst (Except.ok.inj hread)).symm

/-! ## Integers -/

/-- The integer of a numeral without a fraction and an exponent. -/
def Spelling.integer? (s : Spelling) : Option Int :=
  match s.fraction, s.exponent with
  | none, none => some (if s.negative then -(value s.whole : Int) else value s.whole)
  | _, _ => none

theorem Spelling.eq_of_integer? {s : Spelling} {n : Int} (h : s.integer? = some n) :
    s = ⟨s.negative, s.whole, none, none⟩ ∧
      n = if s.negative then -(value s.whole : Int) else value s.whole := by
  obtain ⟨negative, whole, fraction, exponent⟩ := s
  unfold integer? at h
  split at h
  · next hfraction hexponent =>
    cases hfraction
    cases hexponent
    exact ⟨rfl, (Option.some.inj h).symm⟩
  · cases h

theorem SpellsUnsigned.eq_whole {text : List Char} {s : Spelling} (h : SpellsUnsigned text s)
    {n : Int} (hn : s.integer? = some n) : text = s.whole ∧ IsWhole s.whole := by
  have hparts := (Spelling.eq_of_integer? hn).1
  cases h with
  | mk hwhole hfraction hexponent =>
    cases hparts
    cases hfraction
    cases hexponent
    exact ⟨by simp, hwhole⟩

/-- A numeral without a fraction and an exponent is written as its integer is, unless it is zero
with a minus sign. -/
theorem Numeral.eq_integer {text : List Char} {s : Spelling} (h : Numeral text s) {n : Int}
    (hn : s.integer? = some n) (hzero : s.negative = true → n ≠ 0) : text = integer n := by
  obtain ⟨unsigned, hspells, rfl⟩ := h
  obtain ⟨rfl, hwhole⟩ := hspells.eq_whole hn
  obtain ⟨-, rfl⟩ := Spelling.eq_of_integer? hn
  unfold integer
  cases hs : s.negative with
  | true =>
    have hne := hzero hs
    rw [hs, if_pos rfl] at hne
    rw [if_pos rfl, if_pos rfl, if_pos (by omega), Int.natAbs_neg, Int.natAbs_natCast,
      digits_value hwhole]
  | false =>
    rw [if_neg Bool.false_ne_true, if_neg Bool.false_ne_true, if_neg (by omega),
      Int.natAbs_natCast, digits_value hwhole]

theorem Numeral.eq_minusZero {text : List Char} {s : Spelling} (h : Numeral text s)
    (hn : s.integer? = some 0) (hs : s.negative = true) : text = ['-', '0'] := by
  obtain ⟨unsigned, hspells, rfl⟩ := h
  obtain ⟨rfl, hwhole⟩ := hspells.eq_whole hn
  have hvalue := (Spelling.eq_of_integer? hn).2
  rw [hs, if_pos rfl] at hvalue
  have hzero : value s.whole = 0 := by omega
  have hdigits := digits_value hwhole
  rw [hzero] at hdigits
  rw [hs, if_pos rfl, ← hdigits]
  decide +kernel

theorem foldl_eq_of_absorb {ds : List Char} {start n : Nat} (h : absorb start ds = (n, [])) :
    ds.foldl (fun n c => 10 * n + digitValue c) start = n := by
  induction ds generalizing start with
  | nil => exact congrArg Prod.fst h
  | cons d rest ih =>
    rw [absorb] at h
    split at h
    · rw [Nat.mul_comm] at h
      exact ih h
    · cases h

/-- Digits that a number of 64 bits can hold are all taken in. -/
theorem SpellsUnsigned.scaled_eq {text : List Char} {s : Spelling} (h : SpellsUnsigned text s)
    (hsmall : value s.allDigits < 2 ^ 64) : s.scaled = (value s.allDigits, s.power) := by
  obtain @⟨negative, whole, f, e, fraction, exponent, hwhole, hfraction, hexponent⟩ := h
  have hdigits : ∀ c ∈ fraction.getD [], c.isDigit = true := by
    cases hfraction with
    | none => exact fun c hc => by cases hc
    | some hds => exact hds.2
  have hfold : (fraction.getD []).foldl (fun n c => 10 * n + digitValue c) (value whole) =
      value (whole ++ fraction.getD []) := (List.foldl_append ..).symm
  have hless : value whole < 2 ^ 64 := by
    have hgrows := value_append whole (fraction.getD [])
    have hpos := Nat.le_mul_of_pos_right (value whole)
      (Nat.pow_pos (by omega : 0 < 10) : 0 < 10 ^ (fraction.getD []).length)
    simp only [Spelling.allDigits] at hsmall
    omega
  have hfirst : absorb 0 whole = (value whole, []) := absorb_of_lt hwhole.1.2 hless
  have hsecond : absorb (value whole) (fraction.getD []) =
      (value (whole ++ fraction.getD []), []) := by
    rw [absorb_of_lt hdigits (by rw [hfold]; exact hsmall), hfold]
  simp only [Spelling.scaled, Spelling.allDigits, Spelling.power, hfirst, hsecond]
  cases exponent with
  | none => simp
  | some signed =>
    obtain ⟨minus, ds⟩ := signed
    cases minus <;> simp <;> ring

/-- An integer of 64 bits is read as it is. -/
theorem SpellsUnsigned.number?_of_integer? {text : List Char} {s : Spelling}
    (h : SpellsUnsigned text s) {n : Int} (hn : s.integer? = some n)
    (fits : -2 ^ 63 ≤ n ∧ n < 2 ^ 64) (hzero : s.negative = true → n ≠ 0) :
    s.number? = some (.whole n fits) := by
  obtain ⟨hs, hvalue⟩ := Spelling.eq_of_integer? hn
  have hdigits : s.allDigits = s.whole := by
    rw [hs]
    exact List.append_nil _
  have hpower : s.power = 0 := by
    rw [hs]
    rfl
  have hscaled := h.scaled_eq (by rw [hdigits]; split at hvalue <;> omega)
  rw [hdigits, hpower] at hscaled
  have hfraction : s.fraction = none := congrArg Spelling.fraction hs
  have hexponent : s.exponent = none := congrArg Spelling.exponent hs
  simp only [Spelling.number?, hscaled, hfraction, hexponent]
  cases hsign : s.negative with
  | true =>
    have hne := hzero hsign
    rw [hsign, if_pos rfl] at hvalue
    subst hvalue
    have hnumber : ofInt? (-(value s.whole : Int)) = some (.whole (-(value s.whole : Int)) fits) :=
      dif_pos fits
    have hpositive : value s.whole ≠ 0 := by omega
    simp [hpositive, hnumber]
  | false =>
    rw [hsign, if_neg Bool.false_ne_true] at hvalue
    subst hvalue
    have hnumber : ofNat? (value s.whole) = some (.whole (value s.whole) fits) := dif_pos fits
    simp [hnumber]

/-! ## What is read as a whole number and as a double -/

theorem ofNat?_eq_some {n : Nat} {number : Number} (h : ofNat? n = some number) :
    ∃ fits, number = .whole n fits := by
  unfold ofNat? at h
  split at h
  · next fits => exact ⟨fits, (Option.some.inj h).symm⟩
  · cases h

theorem ofInt?_eq_some {n : Int} {number : Number} (h : ofInt? n = some number) :
    ∃ fits, number = .whole n fits := by
  unfold ofInt? at h
  split at h
  · next fits => exact ⟨fits, (Option.some.inj h).symm⟩
  · cases h

theorem Spelling.scaled_of_none {s : Spelling} (hfraction : s.fraction = none)
    (hexponent : s.exponent = none) (h : s.scaled.2 = 0) : s.scaled.1 = value s.whole := by
  have hscaled : s.scaled = ((absorb 0 s.whole).1, ((absorb 0 s.whole).2.length : Int)) := by
    simp [scaled, hfraction, hexponent, absorb]
  rw [hscaled] at h ⊢
  have hleft : (absorb 0 s.whole).2 = [] := List.length_eq_zero_iff.1 (by simpa using h)
  exact (foldl_eq_of_absorb (Prod.ext rfl hleft)).symm

/-- A number that is read is the double for the parts as they were scaled, or the integer. -/
theorem Spelling.number?_cases {s : Spelling} {number : Number} (h : s.number? = some number) :
    (∃ x, number = .real x ∧ Binary64.ofDecimal? s.negative s.scaled.1 s.scaled.2 = some x) ∨
      ∃ n fits, number = .whole n fits ∧ s.integer? = some n ∧ (s.negative = true → n ≠ 0) := by
  have hreal (hmap : (Binary64.ofDecimal? s.negative s.scaled.1 s.scaled.2).map Number.real =
      some number) : ∃ x, number = .real x ∧
        Binary64.ofDecimal? s.negative s.scaled.1 s.scaled.2 = some x := by
    obtain ⟨x, hx, rfl⟩ := Option.map_eq_some_iff.1 hmap
    exact ⟨x, rfl, hx⟩
  unfold number? at h
  simp only at h
  split at h
  · next hfraction hexponent =>
    split at h
    · exact Or.inl (hreal h)
    next hzero =>
    -- No digit was dropped, so that the significand is the value of the digits.
    have hvalue := scaled_of_none hfraction hexponent (not_not.1 hzero)
    have hinteger : s.integer? =
        some (if s.negative then -(value s.whole : Int) else value s.whole) := by
      simp only [integer?, hfraction, hexponent]
    split at h
    · next hs =>
      rw [hs, if_pos rfl, ← hvalue] at hinteger
      split at h
      · exact Or.inl (hreal h)
      next hne =>
      rcases Option.or_eq_some_iff.1 h with hwhole | ⟨-, hdouble⟩
      · obtain ⟨fits, rfl⟩ := ofInt?_eq_some hwhole
        exact Or.inr ⟨_, fits, rfl, hinteger, fun _ => by omega⟩
      · exact Or.inl (hreal hdouble)
    · next hs =>
      rw [if_neg hs, ← hvalue] at hinteger
      rcases Option.or_eq_some_iff.1 h with hwhole | ⟨-, hdouble⟩
      · obtain ⟨fits, rfl⟩ := ofNat?_eq_some hwhole
        exact Or.inr ⟨_, fits, rfl, hinteger, fun hminus => absurd hminus hs⟩
      · exact Or.inl (hreal hdouble)
  · exact Or.inl (hreal h)

/-! ## The double of a numeral -/

/-- The number without its sign. -/
def Spelling.magnitude (s : Spelling) : ℚ := value s.allDigits * 10 ^ s.power

/-- The text is a numeral, and the double is the nearest one to its number and has its sign. -/
def IsDouble (text : List Char) (x : Binary64) : Prop :=
  ∃ s, Numeral text s ∧ x.negative = s.negative ∧ IsNearest x.rank s.magnitude

theorem IsDouble.unique {text : List Char} {x y : Binary64} (h : IsDouble text x)
    (hother : IsDouble text y) : x = y := by
  obtain ⟨s, hs, hsign, hnearest⟩ := h
  obtain ⟨t, ht, hothersign, hothernearest⟩ := hother
  obtain rfl := hs.unique ht
  have hrank := hnearest.unique hothernearest
  obtain ⟨negative, rank, finite⟩ := x
  obtain ⟨othernegative, otherrank, otherfinite⟩ := y
  cases hrank
  cases hsign.trans hothersign.symm
  rfl

theorem Spelling.Places.magnitude_eq {s : Spelling} {ds : List Char} {power : Int}
    (h : s.Places ds power) : s.magnitude = value ds * 10 ^ power := by
  obtain ⟨before, after, hdigits, rfl⟩ := h
  have hvalue : value s.allDigits = value ds * 10 ^ after := by
    rw [hdigits, value_append, value_append, value_replicate_zero, value_replicate_zero,
      List.length_replicate]
    ring
  rw [magnitude, hvalue, zpow_add₀ (by norm_num), zpow_natCast]
  push_cast
  ring

/-- A double is written as a numeral that denotes it. -/
theorem isDouble_realText (x : Binary64) : IsDouble (realText x) x := by
  obtain ⟨text, s, htext, hsign, hspells, hplaces⟩ := exists_spelling_realText x
  refine ⟨s, ⟨text, hspells, by rw [htext, hsign]⟩, hsign.symm, ?_⟩
  rw [hplaces.magnitude_eq, value_digits]
  exact isNearest_shortest x.rank

/-- The significand and the power of ten are doubles. -/
def IsShort (text : List Char) : Prop :=
  ∃ s, Numeral text s ∧ value s.allDigits < 2 ^ 53 ∧ s.power.natAbs ≤ 22

/-- A short numeral is read as an integer or as the double that it denotes. -/
theorem IsShort.isDouble {text : List Char} (h : IsShort text) {x : Binary64}
    (hread : ofText? text = some (.real x)) : IsDouble text x := by
  obtain ⟨s, hs, hdigits, hpower⟩ := h
  rw [ofText?_of_numeral hs] at hread
  rcases Spelling.number?_cases hread with ⟨y, hy, hdecimal⟩ | ⟨n, fits, hwhole, -, -⟩
  · cases hy
    have ⟨unsigned, hspells, _⟩ := hs
    rw [hspells.scaled_eq (by omega)] at hdecimal
    obtain ⟨z, hz, hsign, hnearest⟩ := exists_ofDecimal? hdigits hpower s.negative
    cases hz.symm.trans hdecimal
    exact ⟨s, hs, hsign, hnearest⟩
  · cases hwhole

end QueryTree.Number
