import Mathlib.Data.List.TakeWhile
import QueryTree.Proofs.Json.Numerals
import QueryTree.Proofs.Json.Records

/-! # Which numbers are spelled

Only numerals are read as numbers. An integer of 64 bits is spelled by its numeral and written as
that, and a double is written as a numeral that denotes it. A short numeral that is no such integer
spells the double that it denotes. -/

namespace QueryTree.Number

open QueryTree.Decimal

/-! ## Only numerals are read -/

theorem splitDigits_sound {text ds rest : List Char} (h : Reader.splitDigits text = (ds, rest)) :
    text = ds ++ rest ∧ ∀ c ∈ ds, c.isDigit = true := by
  obtain ⟨rfl, rfl⟩ := Prod.mk.inj h
  exact ⟨List.takeWhile_append_dropWhile.symm, fun c hc => List.mem_takeWhile_imp hc⟩

theorem readWhole_sound {text ds rest : List Char} {atEnd : Json.Cause}
    (h : Reader.readWhole atEnd text = .ok (ds, rest)) : text = ds ++ rest ∧ IsWhole ds := by
  have hzero : IsWhole ['0'] :=
    ⟨⟨List.cons_ne_nil _ _, fun c hc => @isDigit_of_mem_replicate 1 c hc⟩, fun _ => rfl⟩
  unfold Reader.readWhole at h
  split at h
  · cases h
  · split at h
    · cases h
      exact ⟨rfl, hzero⟩
    · split at h
      · cases h
      · cases h
        exact ⟨rfl, hzero⟩
  · next c tail hc =>
    split at h
    · next hdigit =>
      have hsplit := Except.ok.inj h
      obtain ⟨htext, hdigits⟩ := splitDigits_sound hsplit
      -- The first character is a digit and no zero, so there are digits, and they begin with it.
      obtain ⟨more, rfl⟩ : ∃ more, ds = c :: more := by
        rw [Reader.splitDigits, List.takeWhile_cons_of_pos hdigit] at hsplit
        exact ⟨_, (congrArg Prod.fst hsplit).symm⟩
      refine ⟨htext, ⟨List.cons_ne_nil c more, hdigits⟩, fun hfirst => absurd ?_ hc⟩
      exact Option.some.inj hfirst
    · cases h

theorem readFraction_sound {text rest : List Char} {fraction : Option (List Char)}
    {atEnd : Json.Cause} (h : Reader.readFraction atEnd text = .ok (fraction, rest)) :
    ∃ front, text = front ++ rest ∧ SpellsFraction front fraction := by
  unfold Reader.readFraction at h
  split at h
  · split at h
    · cases h
    · cases h
    · next ds after _ hne hsplit =>
      cases h
      obtain ⟨rfl, hdigits⟩ := splitDigits_sound hsplit
      exact ⟨'.' :: ds, rfl, .some ⟨hne, hdigits⟩⟩
  · cases h
    exact ⟨[], rfl, .none⟩

theorem readExponentDigits_sound {text rest : List Char} {exponent : Option (Bool × List Char)}
    {atEnd : Json.Cause} {negative : Bool}
    (h : Reader.readExponentDigits atEnd negative text = .ok (exponent, rest)) :
    ∃ ds, text = ds ++ rest ∧ IsDigits ds ∧ exponent = some (negative, ds) := by
  unfold Reader.readExponentDigits at h
  split at h
  · cases h
  · cases h
  · next ds after _ hne hsplit =>
    cases h
    obtain ⟨rfl, hdigits⟩ := splitDigits_sound hsplit
    exact ⟨ds, rfl, ⟨hne, hdigits⟩, rfl⟩

theorem readExponent_sound {text rest : List Char} {exponent : Option (Bool × List Char)}
    {atEnd : Json.Cause} (h : Reader.readExponent atEnd text = .ok (exponent, rest)) :
    ∃ front, text = front ++ rest ∧ SpellsExponent front exponent := by
  unfold Reader.readExponent at h
  split at h
  · next letter tail =>
    split at h
    · next hletter =>
      have hsigned : ∀ sign negative ds, SpellsSign sign negative →
          Reader.readExponentDigits atEnd negative ds = .ok (exponent, rest) →
          ∃ front, letter :: (sign ++ ds) = front ++ rest ∧ SpellsExponent front exponent := by
        intro sign negative ds hsign hread
        obtain ⟨digits, rfl, hdigits, rfl⟩ := readExponentDigits_sound hread
        exact ⟨letter :: (sign ++ digits), by simp, .some hletter hsign hdigits⟩
      split at h
      · next after => exact hsigned ['+'] false after .plus h
      · next after => exact hsigned ['-'] true after .minus h
      · exact hsigned [] false _ .unsigned h
    · cases h
      exact ⟨[], rfl, .none⟩
  · cases h
    exact ⟨[], rfl, .none⟩

/-- What is read is a spelling. -/
theorem readSpelling_sound {text rest : List Char} {s : Spelling} {atEnd : Json.Cause}
    {negative : Bool} (h : Reader.readSpelling atEnd negative text = .ok (s, rest)) :
    s.negative = negative ∧ ∃ front, text = front ++ rest ∧ SpellsUnsigned front s := by
  unfold Reader.readSpelling at h
  simp only [Json.bind_eq_ok_iff] at h
  obtain ⟨⟨whole, afterWhole⟩, hwhole, ⟨fraction, afterFraction⟩, hfraction, ⟨exponent, after⟩,
    hexponent, ⟨⟩⟩ := h
  obtain ⟨rfl, hds⟩ := readWhole_sound hwhole
  obtain ⟨f, rfl, hf⟩ := readFraction_sound hfraction
  obtain ⟨e, rfl, he⟩ := readExponent_sound hexponent
  exact ⟨rfl, whole ++ (f ++ e), by simp, .mk hds hf he⟩

theorem readNumber_sound {text rest : List Char} {number : Number} {negative : Bool}
    (h : Reader.readNumber negative text = .ok (number, rest)) :
    ∃ s front, s.negative = negative ∧ text = front ++ rest ∧ SpellsUnsigned front s ∧
      s.number? = some number := by
  unfold Reader.readNumber at h
  simp only [Json.bind_eq_ok_iff] at h
  obtain ⟨⟨s, after⟩, hspelling, hnumber⟩ := h
  obtain ⟨hsign, front, rfl, hspells⟩ := readSpelling_sound hspelling
  simp only at hnumber
  split at hnumber
  · next found hfound =>
    cases hnumber
    exact ⟨s, front, hsign, rfl, hspells, hfound⟩
  · cases hnumber

/-- A text that does not end in white space is read as a number only if it is a numeral. -/
theorem ofText?_eq_some_iff {text : List Char} {number : Number}
    (hlast : ∀ c, text.getLast? = some c → Reader.isSpace c = false) :
    ofText? text = some number ↔ ∃ s, Numeral text s ∧ s.number? = some number := by
  constructor
  · intro h
    have hread : ∃ front rest s, text = front ++ rest ∧ Numeral front s ∧
        s.number? = some number ∧ rest.all Reader.isSpace = true := by
      unfold ofText? at h
      simp only at h
      split at h
      · next found rest hfound =>
        split at h
        · next hrest =>
          cases h
          split at hfound
          · obtain ⟨s, front, hsign, rfl, hspells, hnumber⟩ := readNumber_sound hfound
            exact ⟨'-' :: front, rest, s, rfl, ⟨front, hspells, by rw [hsign, if_pos rfl]⟩, hnumber,
              hrest⟩
          · obtain ⟨s, front, hsign, rfl, hspells, hnumber⟩ := readNumber_sound hfound
            exact ⟨front, rest, s, rfl,
              ⟨front, hspells, by rw [hsign, if_neg Bool.false_ne_true]⟩, hnumber, hrest⟩
        · cases h
      · cases h
    obtain ⟨front, rest, s, rfl, hnumeral, hnumber, hrest⟩ := hread
    obtain rfl : rest = [] := by
      rcases List.eq_nil_or_concat rest with rfl | ⟨more, c, rfl⟩
      · rfl
      · have hspace := List.all_eq_true.1 hrest c (by simp)
        rw [hlast c (by simp)] at hspace
        cases hspace
    rw [List.append_nil]
    exact ⟨s, hnumeral, hnumber⟩
  · rintro ⟨s, hnumeral, hnumber⟩
    rw [ofText?_of_numeral hnumeral, hnumber]

/-! ## The number of a numeral -/

/-- The numeral spells the number. A numeral that is an integer of 64 bits spells that, and any
other short one the double that it denotes; what a longer one is rounded to is up to the reader. -/
inductive IsSpelledBy : Number → List Char → Prop
  | whole {text : List Char} {s : Spelling} {n : Int} {fits : -2 ^ 63 ≤ n ∧ n < 2 ^ 64}
    (h : Numeral text s) (hn : s.integer? = some n) (hzero : s.negative = true → n ≠ 0) :
    IsSpelledBy (.whole n fits) text
  | short {text : List Char} {x : Binary64} (hshort : IsShort text) (hx : IsDouble text x)
    (hreal : ∀ s n, Numeral text s → s.integer? = some n → s.negative = true ∧ n = 0) :
    IsSpelledBy (.real x) text
  | long {text : List Char} {s : Spelling} {x : Binary64} (h : Numeral text s)
    (hlong : ¬ IsShort text) (hx : s.number? = some (.real x)) : IsSpelledBy (.real x) text

theorem Numeral.number?_of_integer? {text : List Char} {s : Spelling} (h : Numeral text s) {n : Int}
    (hn : s.integer? = some n) (fits : -2 ^ 63 ≤ n ∧ n < 2 ^ 64)
    (hzero : s.negative = true → n ≠ 0) : s.number? = some (.whole n fits) := by
  obtain ⟨unsigned, hspells, -⟩ := h
  exact hspells.number?_of_integer? hn fits hzero

/-- A short numeral that is an integer has 64 bits. -/
theorem IsShort.fits {text : List Char} (h : IsShort text) {s : Spelling} (hs : Numeral text s)
    {n : Int} (hn : s.integer? = some n) : -2 ^ 63 ≤ n ∧ n < 2 ^ 64 := by
  obtain ⟨t, ht, hdigits, -⟩ := h
  obtain rfl := ht.unique hs
  obtain ⟨hparts, hvalue⟩ := Spelling.eq_of_integer? hn
  have hwhole : t.allDigits = t.whole := by
    rw [hparts]
    exact List.append_nil _
  rw [hwhole] at hdigits
  split at hvalue <;> omega

theorem IsShort.exists_number? {text : List Char} (h : IsShort text) {s : Spelling}
    (hs : Numeral text s) : ∃ number, s.number? = some number := by
  obtain ⟨t, ht, hdigits, hpower⟩ := h
  obtain rfl := ht.unique hs
  obtain ⟨unsigned, hspells, -⟩ := hs
  obtain ⟨x, hx, -⟩ := exists_ofDecimal? hdigits hpower t.negative
  have hscaled := hspells.scaled_eq (by omega)
  rw [← Option.isSome_iff_exists]
  unfold Spelling.number?
  simp only [hscaled, hx, Option.map_some]
  split
  · split
    · rfl
    · split
      · split
        · rfl
        · simp
      · simp
  · rfl

theorem isSpelledBy_of_number? {text : List Char} {s : Spelling} (h : Numeral text s)
    {number : Number} (hnumber : s.number? = some number) : number.IsSpelledBy text := by
  rcases Spelling.number?_cases hnumber with ⟨x, rfl, -⟩ | ⟨n, fits, rfl, hn, hzero⟩
  · by_cases hshort : IsShort text
    · have hread : ofText? text = some (.real x) := by rw [ofText?_of_numeral h, hnumber]
      refine .short hshort (hshort.isDouble hread) fun t n ht hn => ?_
      obtain rfl := h.unique ht
      -- Any other integer would have been read as one.
      refine Classical.not_not.1 fun hother => ?_
      have hzero : s.negative = true → n ≠ 0 := fun hsign hn => hother ⟨hsign, hn⟩
      have hwhole := h.number?_of_integer? hn (hshort.fits h hn) hzero
      rw [hnumber] at hwhole
      cases hwhole
    · exact .long h hshort hnumber
  · exact .whole h hn hzero

theorem exists_number?_of_isSpelledBy {text : List Char} {number : Number}
    (h : number.IsSpelledBy text) : ∃ s, Numeral text s ∧ s.number? = some number := by
  cases h with
  | whole h hn hzero => exact ⟨_, h, h.number?_of_integer? hn _ hzero⟩
  | short hshort hx hreal =>
    have ⟨s, hs, _⟩ := hx
    obtain ⟨number, hnumber⟩ := hshort.exists_number? hs
    refine ⟨s, hs, ?_⟩
    rw [hnumber]
    rcases Spelling.number?_cases hnumber with ⟨y, rfl, -⟩ | ⟨n, fits, rfl, hn, hzero⟩
    · have hread : ofText? text = some (.real y) := by rw [ofText?_of_numeral hs, hnumber]
      rw [(hshort.isDouble hread).unique hx]
    · obtain ⟨hsign, hn⟩ := hreal s n hs hn
      exact absurd hn (hzero hsign)
  | long h _ hx => exact ⟨_, h, hx⟩

/-- The reader finds just the number that is spelled. -/
theorem ofText?_eq_some_iff_isSpelledBy {text : List Char} {number : Number}
    (hlast : ∀ c, text.getLast? = some c → Reader.isSpace c = false) :
    ofText? text = some number ↔ number.IsSpelledBy text := by
  rw [ofText?_eq_some_iff hlast]
  constructor
  · rintro ⟨s, hs, hnumber⟩
    exact isSpelledBy_of_number? hs hnumber
  · exact exists_number?_of_isSpelledBy

/-! ## The numeral of a number -/

/-- The number is written as the text. The text is a numeral that denotes the number, for an integer
the one without a sign that says nothing. -/
inductive IsWrittenAs : Number → List Char → Prop
  | whole {text : List Char} {s : Spelling} {n : Int} {fits : -2 ^ 63 ≤ n ∧ n < 2 ^ 64}
    (h : Numeral text s) (hn : s.integer? = some n) (hzero : s.negative = true → n ≠ 0) :
    IsWrittenAs (.whole n fits) text
  | real {x : Binary64} (h : IsDouble (realText x) x) : IsWrittenAs (.real x) (realText x)

theorem exists_numeral_integer (n : Int) :
    ∃ s, Numeral (integer n) s ∧ s.integer? = some n ∧ (s.negative = true → n ≠ 0) := by
  have hspells := fun negative =>
    @SpellsUnsigned.mk negative _ _ _ _ _ (isWhole_digits n.natAbs) .none .none
  simp only [List.append_nil] at hspells
  unfold integer
  split
  · next hnegative =>
    refine ⟨_, ⟨_, hspells true, rfl⟩, ?_, fun _ => by omega⟩
    rw [Spelling.integer?, value_digits]
    exact congrArg some (by omega : -(n.natAbs : Int) = n)
  · next hpositive =>
    refine ⟨_, ⟨_, hspells false, rfl⟩, ?_, by rintro ⟨⟩⟩
    rw [Spelling.integer?, value_digits]
    exact congrArg some (by omega : (n.natAbs : Int) = n)

theorem isWrittenAs_iff {number : Number} {text : List Char} :
    number.IsWrittenAs text ↔ text = number.spell := by
  constructor
  · intro h
    cases h with
    | whole h hn hzero => exact h.eq_integer hn hzero
    | real => rfl
  · rintro rfl
    cases number with
    | whole n fits =>
      obtain ⟨s, hs, hn, hzero⟩ := exists_numeral_integer n
      exact .whole hs hn hzero
    | real x => exact .real (isDouble_realText x)

end QueryTree.Number
