import QueryTree.Json.Number
import QueryTree.Json.Reader

/-! # Spellings of numbers

JSON and GraphQL write numbers in the same way. The grammar of these spellings is stated here; the
reader takes in every spelling that is followed by something else, and every number is written as a
spelling. -/

namespace QueryTree.Number

open QueryTree.Decimal

/-! ## The grammar -/

def IsDigits (ds : List Char) : Prop := ds ≠ [] ∧ ∀ c ∈ ds, c.isDigit = true

/-- Digits without leading zeros. -/
def IsWhole (ds : List Char) : Prop := IsDigits ds ∧ (ds.head? = some '0' → ds = ['0'])

inductive SpellsFraction : List Char → Option (List Char) → Prop
  | none : SpellsFraction [] none
  | some {ds : List Char} (h : IsDigits ds) : SpellsFraction ('.' :: ds) (some ds)

/-- The sign of an exponent: a plus sign need not be written. -/
inductive SpellsSign : List Char → Bool → Prop
  | unsigned : SpellsSign [] false
  | plus : SpellsSign ['+'] false
  | minus : SpellsSign ['-'] true

inductive SpellsExponent : List Char → Option (Bool × List Char) → Prop
  | none : SpellsExponent [] none
  | some {letter : Char} {sign ds : List Char} {negative : Bool}
    (hletter : letter = 'e' ∨ letter = 'E') (hsign : SpellsSign sign negative) (h : IsDigits ds) :
    SpellsExponent (letter :: (sign ++ ds)) (some (negative, ds))

/-- The text spells the parts of a number after its sign. -/
inductive SpellsUnsigned : List Char → Spelling → Prop
  | mk {negative : Bool} {whole f e : List Char} {fraction : Option (List Char)}
    {exponent : Option (Bool × List Char)} (hwhole : IsWhole whole)
    (hfraction : SpellsFraction f fraction) (hexponent : SpellsExponent e exponent) :
    SpellsUnsigned (whole ++ (f ++ e)) ⟨negative, whole, fraction, exponent⟩

/-- The text is a number with at most a minus sign in front. -/
inductive IsNumeral : List Char → Prop
  | positive {text : List Char} {s : Spelling} (hs : s.negative = false)
    (h : SpellsUnsigned text s) : IsNumeral text
  | negative {text : List Char} {s : Spelling} (hs : s.negative = true)
    (h : SpellsUnsigned text s) : IsNumeral ('-' :: text)

/-- What follows the text cannot belong to a number. -/
def EndsNumber (rest : List Char) : Prop :=
  ∀ c, rest.head? = some c → c.isDigit = false ∧ c ≠ '.' ∧ c ≠ 'e' ∧ c ≠ 'E'

/-! ## Places -/

namespace Spelling

/-- All digits, without the point. -/
def allDigits (s : Spelling) : List Char := s.whole ++ s.fraction.getD []

/-- The power of ten that the last digit stands for. -/
def power (s : Spelling) : Int :=
  (match s.exponent with
    | none => 0
    | some (negative, ds) => if negative then -(value ds : Int) else value ds) -
    (s.fraction.getD []).length

/-- Zeros in front and behind apart, the spelling has the digits, and the last one of them stands
for the power of ten. -/
def Places (s : Spelling) (ds : List Char) (power : Int) : Prop :=
  ∃ before after, s.allDigits = List.replicate before '0' ++ (ds ++ List.replicate after '0') ∧
    s.power + (after : Nat) = power

end Spelling

/-! ## Digits -/

theorem IsDigits.exists_cons {ds : List Char} (h : IsDigits ds) :
    ∃ d more, ds = d :: more ∧ d.isDigit = true := by
  cases ds with
  | nil => exact absurd rfl h.1
  | cons d more => exact ⟨d, more, rfl, h.2 d List.mem_cons_self⟩

theorem IsDigits.append {ds more : List Char} (h : IsDigits ds)
    (hmore : ∀ c ∈ more, c.isDigit = true) : IsDigits (ds ++ more) := by
  refine ⟨by simp [h.1], ?_⟩
  intro c hc
  rw [List.mem_append] at hc
  rcases hc with hc | hc
  · exact h.2 c hc
  · exact hmore c hc

theorem isDigits_digits (n : Nat) : IsDigits (digits n) :=
  ⟨digits_ne_nil n, List.all_eq_true.1 (digits_all_isDigit n)⟩

theorem isDigit_of_mem_replicate {n : Nat} {c : Char} (h : c ∈ List.replicate n '0') :
    c.isDigit = true := by
  rw [(List.mem_replicate.1 h).2]
  decide

theorem head?_digits_ne_zero {n : Nat} (h : 0 < n) : (digits n).head? ≠ some '0' := by
  induction n using Nat.strongRecOn with
  | ind n ih =>
    unfold digits
    split
    · next hsmall =>
      simp only [List.head?_cons, ne_eq, Option.some.injEq]
      intro heq
      have hvalue := digitValue_digit hsmall
      rw [heq] at hvalue
      have : digitValue '0' = 0 := rfl
      omega
    · next hlarge =>
      have hfront := ih (n / 10) (by omega) (by omega)
      obtain ⟨d, more, hds, _⟩ := (isDigits_digits (n / 10)).exists_cons
      rw [hds] at hfront ⊢
      exact hfront

theorem isWhole_digits (n : Nat) : IsWhole (digits n) := by
  refine ⟨isDigits_digits n, ?_⟩
  intro hzero
  by_cases h : 0 < n
  · exact absurd hzero (head?_digits_ne_zero h)
  · obtain rfl : n = 0 := by omega
    simp [digits, digit]

/-- A spelling begins with a digit. -/
theorem SpellsUnsigned.exists_cons {text : List Char} {s : Spelling} (h : SpellsUnsigned text s) :
    ∃ c more, text = c :: more ∧ c.isDigit = true := by
  obtain ⟨hwhole, _, _⟩ := h
  obtain ⟨d, more, rfl, hd⟩ := hwhole.1.exists_cons
  exact ⟨d, _, rfl, hd⟩

/-! ## Reading spellings -/

theorem splitDigits_append {ds rest : List Char} (h : ∀ c ∈ ds, c.isDigit = true)
    (hrest : ∀ c, rest.head? = some c → c.isDigit = false) :
    Reader.splitDigits (ds ++ rest) = (ds, rest) := by
  induction ds with
  | nil =>
    cases rest with
    | nil => rfl
    | cons c rest => simp [Reader.splitDigits, hrest c rfl]
  | cons d ds ih =>
    have hd := h d List.mem_cons_self
    have hmore := ih fun c hc => h c (List.mem_cons_of_mem _ hc)
    simp only [Reader.splitDigits, Prod.mk.injEq] at hmore
    simp [Reader.splitDigits, hd, hmore]

theorem readWhole_append {ds rest : List Char} (h : IsWhole ds)
    (hrest : ∀ c, rest.head? = some c → c.isDigit = false) (atEnd : Json.Cause) :
    Reader.readWhole atEnd (ds ++ rest) = .ok (ds, rest) := by
  obtain ⟨d, more, rfl, hd⟩ := h.1.exists_cons
  by_cases hzero : d = '0'
  · subst hzero
    obtain ⟨rfl⟩ : more = [] := by simpa using h.2 rfl
    cases rest with
    | nil => rfl
    | cons c rest => simp [Reader.readWhole, hrest c rfl]
  · have hsplit := splitDigits_append h.1.2 hrest
    rw [List.cons_append] at hsplit ⊢
    unfold Reader.readWhole
    split
    · next heq => cases heq
    · next heq => exact absurd (List.cons.inj heq).1 hzero
    · next c tail _ heq =>
      obtain ⟨rfl, rfl⟩ := List.cons.inj heq
      rw [if_pos hd, hsplit]

theorem readFraction_append {text rest : List Char} {fraction : Option (List Char)}
    (h : SpellsFraction text fraction) (hdigit : ∀ c, rest.head? = some c → c.isDigit = false)
    (hpoint : rest.head? ≠ some '.') (atEnd : Json.Cause) :
    Reader.readFraction atEnd (text ++ rest) = .ok (fraction, rest) := by
  cases h with
  | none =>
    unfold Reader.readFraction
    split
    · next heq =>
      rw [List.nil_append] at heq
      rw [heq] at hpoint
      exact absurd rfl hpoint
    · rfl
  | some h =>
    rw [List.cons_append, Reader.readFraction, splitDigits_append h.2 hdigit]
    obtain ⟨d, more, rfl, _⟩ := h.exists_cons
    rfl

theorem readExponentDigits_append {ds rest : List Char} (h : IsDigits ds)
    (hrest : ∀ c, rest.head? = some c → c.isDigit = false) (atEnd : Json.Cause) (negative : Bool) :
    Reader.readExponentDigits atEnd negative (ds ++ rest) = .ok (some (negative, ds), rest) := by
  rw [Reader.readExponentDigits, splitDigits_append h.2 hrest]
  obtain ⟨d, more, rfl, _⟩ := h.exists_cons
  rfl

theorem readExponent_append {text rest : List Char} {exponent : Option (Bool × List Char)}
    (h : SpellsExponent text exponent) (hrest : EndsNumber rest) (atEnd : Json.Cause) :
    Reader.readExponent atEnd (text ++ rest) = .ok (exponent, rest) := by
  have hdigit : ∀ c, rest.head? = some c → c.isDigit = false := fun c hc => (hrest c hc).1
  cases h with
  | none =>
    cases rest with
    | nil => rfl
    | cons c rest =>
      have hc := (hrest c rfl).2.2
      simp [Reader.readExponent, hc.1, hc.2]
  | @some letter sign ds negative hletter hsign h =>
    rw [List.cons_append]
    unfold Reader.readExponent
    simp only [if_pos hletter]
    cases hsign with
    | plus => exact readExponentDigits_append h hdigit atEnd false
    | minus => exact readExponentDigits_append h hdigit atEnd true
    | unsigned =>
      rw [List.nil_append, ← readExponentDigits_append h hdigit atEnd false]
      obtain ⟨d, more, rfl, hd⟩ := h.exists_cons
      split
      · next heq =>
        obtain ⟨rfl, _⟩ := List.cons.inj heq
        exact absurd hd (by decide)
      · next heq =>
        obtain ⟨rfl, _⟩ := List.cons.inj heq
        exact absurd hd (by decide)
      · rfl

/-- The reader takes in a whole spelling. -/
theorem readSpelling_append {text rest : List Char} {s : Spelling} (h : SpellsUnsigned text s)
    (hrest : EndsNumber rest) (atEnd : Json.Cause) :
    Reader.readSpelling atEnd s.negative (text ++ rest) = .ok (s, rest) := by
  obtain @⟨negative, whole, f, e, fraction, exponent, hwhole, hfraction, hexponent⟩ := h
  have hpoint : ('.' : Char).isDigit = false := by decide
  have hexp : ∀ c, (e ++ rest).head? = some c → c.isDigit = false ∧ c ≠ '.' := by
    intro c hc
    cases hexponent with
    | none => exact ⟨(hrest c hc).1, (hrest c hc).2.1⟩
    | some hletter =>
      rw [List.cons_append, List.head?_cons, Option.some.injEq] at hc
      subst hc
      rcases hletter with rfl | rfl <;> decide
  have hfrac : ∀ c, (f ++ (e ++ rest)).head? = some c → c.isDigit = false := by
    intro c hc
    cases hfraction with
    | none => exact (hexp c hc).1
    | some h =>
      rw [List.cons_append, List.head?_cons, Option.some.injEq] at hc
      rw [← hc, hpoint]
  rw [List.append_assoc, List.append_assoc, Reader.readSpelling, readWhole_append hwhole hfrac]
  simp only [bind, Except.bind]
  rw [readFraction_append hfraction (fun c hc => (hexp c hc).1) fun hc => (hexp '.' hc).2 rfl]
  simp only
  rw [readExponent_append hexponent hrest]

/-! ## Writing numbers -/

theorem isNumeral_digits (n : Nat) : IsNumeral (digits n) := by
  have h := @SpellsUnsigned.mk false _ _ _ _ _ (isWhole_digits n) .none .none
  simpa using IsNumeral.positive rfl h

theorem isNumeral_integer (n : Int) : IsNumeral (integer n) := by
  unfold integer
  split
  · have h := @SpellsUnsigned.mk true _ _ _ _ _ (isWhole_digits n.natAbs) .none .none
    simpa using IsNumeral.negative rfl h
  · exact isNumeral_digits n.natAbs

/-- Digits that begin with a zero only if they are one of a kind that stands for zero. -/
def IsCoefficient (ds : List Char) (leading : Int) : Prop :=
  IsDigits ds ∧ (ds.head? = some '0' → ds = ['0'] ∧ leading = 0)

theorem spellsUnsigned_positional {ds : List Char} {leading : Int} (h : IsCoefficient ds leading)
    (negative : Bool) : ∃ s : Spelling, s.negative = negative ∧
      SpellsUnsigned (positional ds leading) s ∧ s.Places ds (leading + 1 - ds.length) := by
  obtain ⟨hds, hzero⟩ := h
  unfold positional
  split
  · next hsmall =>
    have hfraction : IsDigits (List.replicate (-leading - 1).toNat '0' ++ ds) := by
      refine ⟨by simp [hds.1], ?_⟩
      intro c hc
      rw [List.mem_append] at hc
      rcases hc with hc | hc
      · exact isDigit_of_mem_replicate hc
      · exact hds.2 c hc
    have hs := @SpellsUnsigned.mk negative ['0'] _ _ _ _ ⟨⟨by simp, by simp⟩, fun _ => rfl⟩
      (.some hfraction) .none
    rw [List.append_nil] at hs
    refine ⟨_, rfl, hs, (-leading - 1).toNat + 1, 0, ?_, ?_⟩
    · simp [Spelling.allDigits, List.replicate_succ]
    · simp only [Spelling.power, Option.getD_some, List.length_append, List.length_replicate]
      omega
  · next hlarge =>
    simp only
    split
    · next hshort =>
      have hwhole : IsWhole (ds ++ List.replicate (leading.toNat + 1 - ds.length) '0') := by
        refine ⟨hds.append fun c hc => isDigit_of_mem_replicate hc, ?_⟩
        intro hhead
        obtain ⟨d, more, rfl, _⟩ := hds.exists_cons
        obtain ⟨hone, hleading⟩ := hzero hhead
        obtain ⟨rfl, rfl⟩ := List.cons.inj hone
        subst hleading
        rfl
      have hzeros : IsDigits ['0'] := ⟨by simp, by simp⟩
      refine ⟨_, rfl, @SpellsUnsigned.mk negative _ _ _ _ _ hwhole (.some hzeros) .none, 0,
        leading.toNat + 1 - ds.length + 1, ?_, ?_⟩
      · simp [Spelling.allDigits, List.replicate_succ']
      · simp only [Spelling.power, Option.getD_some, List.length_singleton]
        omega
    · next hlong =>
      obtain ⟨d, more, rfl, hd⟩ := hds.exists_cons
      have hwhole : IsWhole ((d :: more).take (leading.toNat + 1)) := by
        refine ⟨⟨by simp, fun c hc => hds.2 c (List.mem_of_mem_take hc)⟩, ?_⟩
        intro hhead
        obtain ⟨hone, _⟩ := hzero hhead
        rw [hone] at hlong
        simp at hlong
      have hfraction : IsDigits ((d :: more).drop (leading.toNat + 1)) := by
        refine ⟨?_, fun c hc => hds.2 c (List.mem_of_mem_drop hc)⟩
        rw [ne_eq, List.drop_eq_nil_iff]
        omega
      have hs := @SpellsUnsigned.mk negative _ _ _ _ _ hwhole (.some hfraction) .none
      rw [List.append_nil] at hs
      refine ⟨_, rfl, hs, 0, 0, ?_, ?_⟩
      · rw [Spelling.allDigits, Option.getD_some, List.take_append_drop]
        simp
      · simp only [Spelling.power, Option.getD_some, List.length_drop]
        omega

theorem spellsUnsigned_exponential {ds : List Char} {leading : Int} (h : IsDigits ds)
    (negative : Bool) : ∃ s : Spelling, s.negative = negative ∧
      SpellsUnsigned (exponential ds leading) s ∧ s.Places ds (leading + 1 - ds.length) := by
  have hsign : ∃ minus, SpellsSign [if leading < 0 then '-' else '+'] minus ∧
      (if minus then -(value (digits leading.natAbs) : Int) else value (digits leading.natAbs)) =
        leading := by
    rw [value_digits]
    split
    · next hnegative =>
      refine ⟨true, .minus, ?_⟩
      rw [if_pos rfl]
      omega
    · next hpositive =>
      refine ⟨false, .plus, ?_⟩
      rw [if_neg Bool.false_ne_true]
      omega
  obtain ⟨minus, hminus, hleading⟩ := hsign
  have hexponent := SpellsExponent.some (Or.inl rfl) hminus (isDigits_digits leading.natAbs)
  obtain ⟨d, more, rfl, hd⟩ := h.exists_cons
  have hwhole : IsWhole [d] := ⟨⟨by simp, by simpa using hd⟩, by simp⟩
  cases more with
  | nil =>
    refine ⟨_, rfl, @SpellsUnsigned.mk negative _ _ _ _ _ hwhole .none hexponent, 0, 0, rfl, ?_⟩
    simp only [Spelling.power, hleading, Option.getD_none, List.length_nil, List.length_singleton]
    omega
  | cons second rest =>
    have hfraction : IsDigits (second :: rest) :=
      ⟨by simp, fun c hc => h.2 c (List.mem_cons_of_mem _ hc)⟩
    refine ⟨_, rfl, @SpellsUnsigned.mk negative _ _ _ _ _ hwhole (.some hfraction) hexponent, 0, 0,
      by simp [Spelling.allDigits], ?_⟩
    simp only [Spelling.power, hleading, Option.getD_some, List.length_cons]
    omega

theorem isCoefficient_shortest (rank : Nat) :
    IsCoefficient (digits (shortest rank).coefficient)
      ((shortest rank).exponent + ((digits (shortest rank).coefficient).length - 1 : Nat)) := by
  refine ⟨isDigits_digits _, ?_⟩
  intro hhead
  rcases shortest_eq_zero_or_pos rank with hzero | hpos
  · rw [hzero]
    simp [digits, digit]
  · exact absurd hhead (head?_digits_ne_zero hpos)

/-- What a double is written as. -/
theorem exists_spelling_realText (x : Binary64) :
    ∃ text s, realText x = (if x.negative then '-' :: text else text) ∧ s.negative = x.negative ∧
      SpellsUnsigned text s ∧
      s.Places (digits (shortest x.rank).coefficient) (shortest x.rank).exponent := by
  have hcoefficient := isCoefficient_shortest x.rank
  have hplace : (shortest x.rank).exponent +
      ((digits (shortest x.rank).coefficient).length - 1 : Nat) + 1 -
        (digits (shortest x.rank).coefficient).length = (shortest x.rank).exponent := by
    have hpos := List.length_pos_iff.2 (digits_ne_nil (shortest x.rank).coefficient)
    omega
  unfold realText
  simp only
  generalize (shortest x.rank).exponent +
    ((digits (shortest x.rank).coefficient).length - 1 : Nat) = leading at hcoefficient hplace ⊢
  have hspells : ∃ s : Spelling, s.negative = x.negative ∧ SpellsUnsigned
      (if -5 ≤ leading ∧ leading < 16 then positional (digits (shortest x.rank).coefficient) leading
        else exponential (digits (shortest x.rank).coefficient) leading) s ∧
      s.Places (digits (shortest x.rank).coefficient) (shortest x.rank).exponent := by
    rw [← hplace]
    split
    · exact spellsUnsigned_positional hcoefficient x.negative
    · exact spellsUnsigned_exponential hcoefficient.1 x.negative
  obtain ⟨s, hsign, hs, hplaces⟩ := hspells
  exact ⟨_, s, rfl, hsign, hs, hplaces⟩

theorem isNumeral_realText (x : Binary64) : IsNumeral (realText x) := by
  obtain ⟨text, s, htext, hsign, hs, _⟩ := exists_spelling_realText x
  rw [htext]
  split
  · next hminus => exact .negative (hsign.trans hminus) hs
  · next hplus => exact .positive (hsign.trans (Bool.eq_false_iff.2 hplus)) hs

/-- Every number is written as JSON and GraphQL read it. -/
theorem isNumeral_spell (n : Number) : IsNumeral n.spell := by
  cases n with
  | whole value _ => exact isNumeral_integer value
  | real x => exact isNumeral_realText x

end QueryTree.Number
