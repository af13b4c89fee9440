import Mathlib.Data.List.Forall2
import QueryTree.Json.Record
import QueryTree.Proofs.Json.Grammar

/-! # JSON text is read back

A reader finds something for a value if it finds it in whatever spells the value, with white space in
front and with anything behind. Readers of arrays, objects and records find what the readers of their
parts find. -/

namespace QueryTree.Reader

open Json (IsBlank Spells SpellsItems SpellsMember SpellsMembers)
open Number (EndsNumber)

variable {α σ δ : Type}

/-! ## White space -/

theorem skipSpace_append {blank : List Char} (h : IsBlank blank) (rest : List Char) :
    skipSpace (blank ++ rest) = skipSpace rest := by
  induction blank with
  | nil => rfl
  | cons c blank ih =>
    rw [List.cons_append, skipSpace, List.dropWhile_cons, if_pos (h c List.mem_cons_self)]
    exact ih fun d hd => h d (List.mem_cons_of_mem _ hd)

theorem skipSpace_cons {c : Char} (h : isSpace c = false) (rest : List Char) :
    skipSpace (c :: rest) = c :: rest := by
  rw [skipSpace, List.dropWhile_cons, h, if_neg Bool.false_ne_true]

theorem skipSpace_append_cons {blank : List Char} (hblank : IsBlank blank) {c : Char}
    (h : isSpace c = false) (rest : List Char) : skipSpace (blank ++ c :: rest) = c :: rest := by
  rw [skipSpace_append hblank, skipSpace_cons h]

theorem isSpace_of_isDigit {c : Char} (h : c.isDigit = true) : isSpace c = false := by
  have hne : ∀ d : Char, d.isDigit = false → c ≠ d := by
    rintro d hd rfl
    rw [h] at hd
    cases hd
  simp [isSpace, hne ' ' (by decide), hne '\n' (by decide), hne '\t' (by decide),
    hne '\r' (by decide)]

theorem isDigit_of_isSpace {c : Char} (h : isSpace c = true) : c.isDigit = false := by
  rw [Bool.eq_false_iff]
  intro hdigit
  rw [isSpace_of_isDigit hdigit] at h
  cases h

theorem endsNumber_append {blank rest : List Char} (h : IsBlank blank) (hrest : EndsNumber rest) :
    EndsNumber (blank ++ rest) := by
  cases blank with
  | nil => exact hrest
  | cons c blank =>
    intro d hd
    have hspace := h c List.mem_cons_self
    rw [List.cons_append, List.head?_cons, Option.some.injEq] at hd
    subst hd
    refine ⟨isDigit_of_isSpace hspace, ?_, ?_, ?_⟩
    · rintro rfl
      exact absurd hspace (by decide)
    · rintro rfl
      exact absurd hspace (by decide)
    · rintro rfl
      exact absurd hspace (by decide)

theorem endsNumber_cons {c : Char} (h : c = ',' ∨ c = ']' ∨ c = '\x7d') (rest : List Char) :
    EndsNumber (c :: rest) := by
  intro d hd
  rw [List.head?_cons, Option.some.injEq] at hd
  subst hd
  rcases h with rfl | rfl | rfl <;> decide

/-! ## What a reader finds -/

/-- The reader takes in whatever spells the value, and finds the result. -/
def Finds (fuel : Nat) (reader : Reader α) (value : Json) (result : α) : Prop :=
  ∀ ⦃blank text rest : List Char⦄, IsBlank blank → Spells text value → text.length ≤ fuel →
    EndsNumber rest → reader (blank ++ (text ++ rest)) = .ok (result, rest)

/-- The step takes in the colon and the value of a member after its key. -/
def Takes (fuel : Nat) (step : σ → String → Reader σ) (before : σ) (member : String × Json)
    (after : σ) : Prop :=
  ∀ ⦃gap pad text rest : List Char⦄, IsBlank gap → IsBlank pad → Spells text member.2 →
    text.length ≤ fuel → EndsNumber rest →
      step before member.1 (gap ++ ':' :: (pad ++ (text ++ rest))) = .ok (after, rest)

/-- The steps take in one member after the other. -/
inductive TakesAll (fuel : Nat) (step : σ → String → Reader σ) :
    σ → List (String × Json) → σ → Prop
  | nil (state : σ) : TakesAll fuel step state [] state
  | cons {before between after : σ} {member : String × Json} {members : List (String × Json)}
    (h : Takes fuel step before member between) (hrest : TakesAll fuel step between members after) :
    TakesAll fuel step before (member :: members) after

/-- How a spelling begins. -/
theorem exists_cons_of_spells {text : List Char} {value : Json} (h : Spells text value) :
    ∃ c more, text = c :: more ∧ isSpace c = false ∧ c ≠ ']' := by
  cases h with
  | null | true | false => exact ⟨_, _, rfl, by decide, by decide⟩
  | number h =>
    cases h with
    | positive hs h =>
      obtain ⟨c, more, rfl, hc⟩ := h.exists_cons
      refine ⟨c, more, rfl, isSpace_of_isDigit hc, ?_⟩
      rintro rfl
      exact absurd hc (by decide)
    | negative => exact ⟨_, _, rfl, by decide, by decide⟩
  | text | emptyArray | array | emptyObject | object => exact ⟨_, _, rfl, by decide, by decide⟩

theorem exists_cons_of_spellsItems {inner : List Char} {items : List Json}
    (h : SpellsItems inner items) (rest : List Char) :
    ∃ c more, skipSpace (inner ++ rest) = c :: more ∧ c ≠ ']' := by
  cases h with
  | last hbefore h =>
    obtain ⟨c, more, rfl, hc, hne⟩ := exists_cons_of_spells h
    rw [List.append_assoc, skipSpace_append hbefore, List.cons_append, List.cons_append,
      skipSpace_cons hc]
    exact ⟨c, _, rfl, hne⟩
  | more hbefore h =>
    obtain ⟨c, more, rfl, hc, hne⟩ := exists_cons_of_spells h
    rw [List.append_assoc, skipSpace_append hbefore, List.cons_append, List.cons_append,
      skipSpace_cons hc]
    exact ⟨c, _, rfl, hne⟩

/-! ## Arrays -/

theorem pushItem_of_finds {fuel : Nat} {item : Reader α} {value : Json} {result : α}
    (h : Finds fuel item value result) {text rest : List Char} (htext : Spells text value)
    (hfuel : text.length ≤ fuel) (hrest : EndsNumber rest) (back : List α) :
    pushItem item back (text ++ rest) = .ok (result :: back, rest) := by
  have hread := h Json.isBlank_nil htext hfuel hrest
  rw [List.nil_append] at hread
  simp only [pushItem, hread, bind, Except.bind]

theorem foldItems_last {step : σ → Reader σ} {before next : σ} {text after rest : List Char}
    (hstep : step before text = .ok (next, after ++ ']' :: rest)) (hafter : IsBlank after)
    (count : Nat) : foldItems step (count + 1) before text = .ok (next, rest) := by
  have hskip := skipSpace_append_cons hafter (c := ']') rfl rest
  simp only [foldItems, hstep, bind, Except.bind, hskip, if_pos]

theorem foldItems_more {step : σ → Reader σ} {before next : σ} {text after others more : List Char}
    {d : Char} (hstep : step before text = .ok (next, after ++ ',' :: others))
    (hafter : IsBlank after) (hothers : skipSpace others = d :: more) (hd : d ≠ ']')
    (count : Nat) :
    foldItems step (count + 1) before text = foldItems step count next (d :: more) := by
  have hskip := skipSpace_append_cons hafter (c := ',') rfl others
  have hcomma : ',' ≠ ']' := by decide
  simp only [foldItems, hstep, bind, Except.bind, hskip, if_neg hcomma, if_pos, hothers, if_neg hd]

theorem foldItems_append {fuel : Nat} {item : Reader α} {items : List Json} {results : List α}
    (hitems : List.Forall₂ (Finds fuel item) items results) {inner : List Char}
    (h : SpellsItems inner items) {count : Nat} (hcount : inner.length ≤ count)
    (hfuel : count ≤ fuel) (back : List α) (rest : List Char) :
    foldItems (pushItem item) count back (skipSpace (inner ++ ']' :: rest)) =
      .ok (results.reverse ++ back, rest) := by
  -- What follows an item, a comma or the closing bracket, ends it even if it is a number.
  induction hitems generalizing inner count back with
  | nil => cases h
  | @cons value result values results hfirst hothers ih =>
    cases h with
    | @last before text after _ hbefore htext hafter =>
      have hclose := endsNumber_append hafter (endsNumber_cons (Or.inr (Or.inl rfl)) rest)
      obtain ⟨c, more, rfl, hc, _⟩ := exists_cons_of_spells htext
      simp only [List.length_append, List.length_cons] at hcount
      obtain ⟨count, rfl⟩ := Nat.exists_eq_add_one_of_ne_zero (show count ≠ 0 by omega)
      have hpush := pushItem_of_finds hfirst htext (by simp; omega) hclose back
      cases hothers
      rw [List.append_assoc, List.append_assoc, skipSpace_append hbefore, List.cons_append,
        skipSpace_cons hc, ← List.cons_append, foldItems_last hpush hafter]
      rfl
    | @more before text after others _ _ hbefore htext hafter hmore =>
      have hcomma := endsNumber_append hafter
        (endsNumber_cons (Or.inl rfl) (others ++ ']' :: rest))
      obtain ⟨c, more, rfl, hc, _⟩ := exists_cons_of_spells htext
      simp only [List.length_append, List.length_cons] at hcount
      obtain ⟨count, rfl⟩ := Nat.exists_eq_add_one_of_ne_zero (show count ≠ 0 by omega)
      have hpush := pushItem_of_finds hfirst htext (by simp; omega) hcomma back
      obtain ⟨d, next, hnext, hd⟩ := exists_cons_of_spellsItems hmore (']' :: rest)
      have hroom : others.length ≤ count := by omega
      have hfold := ih hmore hroom (by omega) (result :: back)
      rw [hnext] at hfold
      rw [List.append_assoc, List.append_assoc, List.append_assoc, skipSpace_append hbefore,
        List.cons_append, List.cons_append, skipSpace_cons hc, ← List.cons_append,
        foldItems_more hpush hafter hnext hd, hfold]
      simp

/-- The items are found in their order. -/
theorem readItems_of_spells {fuel : Nat} {item : Reader α} {items : List Json} {results : List α}
    (hitems : List.Forall₂ (Finds fuel item) items results) {text : List Char}
    (h : Spells text (.array items)) (hfuel : text.length ≤ fuel) (rest : List Char) :
    ∃ tail, text = '[' :: tail ∧
      readItems fuel (pushItem item) [] (tail ++ rest) = .ok (results.reverse, rest) := by
  cases h with
  | @emptyArray blank hblank =>
    cases hitems
    refine ⟨_, rfl, ?_⟩
    rw [List.append_assoc, readItems, List.cons_append, skipSpace_append_cons hblank (by decide)]
    rfl
  | @array inner _ h =>
    refine ⟨_, rfl, ?_⟩
    simp only [List.length_cons, List.length_append] at hfuel
    have hfold := foldItems_append hitems h (by omega) (Nat.le_refl fuel) [] rest
    obtain ⟨c, more, hskip, hc⟩ := exists_cons_of_spellsItems h (']' :: rest)
    rw [hskip, List.append_nil] at hfold
    rw [List.append_assoc, readItems, List.cons_append, List.nil_append, hskip]
    simp only [if_neg hc, hfold]

/-! ## Objects -/

theorem foldMembers_last {step : σ → String → Reader σ} {before next : σ} {key : String}
    {text middle after rest : List Char} (hkey : readText text = .ok (key, middle))
    (hstep : step before key middle = .ok (next, after ++ '\x7d' :: rest)) (hafter : IsBlank after)
    (count : Nat) : foldMembers step (count + 1) before text = .ok (next, rest) := by
  have hskip := skipSpace_append_cons hafter (c := '\x7d') rfl rest
  simp only [foldMembers, hkey, hstep, bind, Except.bind, hskip, if_pos]

theorem foldMembers_more {step : σ → String → Reader σ} {before next : σ} {key : String}
    {text middle after others more : List Char} (hkey : readText text = .ok (key, middle))
    (hstep : step before key middle = .ok (next, after ++ ',' :: others)) (hafter : IsBlank after)
    (hothers : skipSpace others = '"' :: more) (count : Nat) :
    foldMembers step (count + 1) before text = foldMembers step count next more := by
  have hskip := skipSpace_append_cons hafter (c := ',') rfl others
  have hcomma : ',' ≠ '\x7d' := by decide
  simp only [foldMembers, hkey, hstep, bind, Except.bind, hskip, if_neg hcomma, if_pos, hothers]

/-- A key is read up to its closing quote, and the step goes on from there. -/
theorem takes_of_spellsMember {fuel : Nat} {step : σ → String → Reader σ} {before after : σ}
    {member : String × Json} (htakes : Takes fuel step before member after) {text : List Char}
    (h : SpellsMember text member) (hfuel : text.length ≤ fuel) {rest : List Char}
    (hrest : EndsNumber rest) :
    ∃ tail middle, text = '"' :: tail ∧ readText (tail ++ rest) = .ok (member.1, middle) ∧
      step before member.1 middle = .ok (after, rest) := by
  cases h with
  | @mk inner key gap pad text value hkey hgap hpad h =>
    simp only [List.length_append, List.length_cons] at hfuel
    have hread := Text.readText_append hkey (gap ++ ':' :: (pad ++ (text ++ rest)))
    refine ⟨_, _, rfl, ?_, htakes hgap hpad h (by omega) hrest⟩
    simpa using hread

theorem foldMembers_append {fuel : Nat} {step : σ → String → Reader σ} {start finish : σ}
    {members : List (String × Json)} (hall : TakesAll fuel step start members finish)
    {inner : List Char} (h : SpellsMembers inner members) {count : Nat}
    (hcount : inner.length ≤ count) (hfuel : count ≤ fuel) (rest : List Char) :
    ∃ more, skipSpace (inner ++ '\x7d' :: rest) = '"' :: more ∧
      foldMembers step count start more = .ok (finish, rest) := by
  induction hall generalizing inner count with
  | nil => cases h
  | @cons before between finish member members htakes hothers ih =>
    cases h with
    | @last blank text after _ hbefore hmember hafter =>
      have hclose := endsNumber_append hafter (endsNumber_cons (Or.inr (Or.inr rfl)) rest)
      simp only [List.length_append] at hcount
      obtain ⟨tail, middle, rfl, hkey, hstep⟩ :=
        takes_of_spellsMember htakes hmember (by omega) hclose
      simp only [List.length_cons] at hcount
      obtain ⟨count, rfl⟩ := Nat.exists_eq_add_one_of_ne_zero (show count ≠ 0 by omega)
      cases hothers
      refine ⟨_, ?_, foldMembers_last hkey hstep hafter count⟩
      rw [List.append_assoc, List.append_assoc, skipSpace_append hbefore, List.cons_append,
        skipSpace_cons rfl]
    | @more blank text after others _ _ hbefore hmember hafter hmore =>
      have hcomma := endsNumber_append hafter
        (endsNumber_cons (Or.inl rfl) (others ++ '\x7d' :: rest))
      simp only [List.length_append, List.length_cons] at hcount
      obtain ⟨tail, middle, rfl, hkey, hstep⟩ :=
        takes_of_spellsMember htakes hmember (by omega) hcomma
      simp only [List.length_cons] at hcount
      obtain ⟨count, rfl⟩ := Nat.exists_eq_add_one_of_ne_zero (show count ≠ 0 by omega)
      have hroom : others.length ≤ count := by omega
      obtain ⟨more, hnext, hfold⟩ := ih hmore hroom (by omega)
      refine ⟨_, ?_, (foldMembers_more hkey hstep hafter hnext count).trans hfold⟩
      rw [List.append_assoc, List.append_assoc, List.append_assoc, skipSpace_append hbefore,
        List.cons_append, List.cons_append, skipSpace_cons rfl]

/-- The members are taken in in their order. -/
theorem readMembers_of_spells {fuel : Nat} {step : σ → String → Reader σ} {start finish : σ}
    {members : List (String × Json)} (hall : TakesAll fuel step start members finish)
    {text : List Char} (h : Spells text (.object members)) (hfuel : text.length ≤ fuel)
    (rest : List Char) :
    ∃ tail, text = '\x7b' :: tail ∧
      readMembers fuel step start (tail ++ rest) = .ok (finish, rest) := by
  cases h with
  | @emptyObject blank hblank =>
    cases hall
    refine ⟨_, rfl, ?_⟩
    rw [List.append_assoc, readMembers, List.cons_append, skipSpace_append_cons hblank (by decide)]
    rfl
  | @object inner _ hkeys h =>
    refine ⟨_, rfl, ?_⟩
    simp only [List.length_cons, List.length_append] at hfuel
    have hroom : inner.length ≤ fuel := by omega
    obtain ⟨more, hskip, hfold⟩ := foldMembers_append hall h hroom (Nat.le_refl fuel) rest
    rw [List.append_assoc, readMembers, List.cons_append, List.nil_append, hskip]
    exact hfold

theorem readColon_append {gap : List Char} (h : IsBlank gap) (rest : List Char) :
    readColon (gap ++ ':' :: rest) = .ok rest := by
  rw [readColon, skipSpace_append_cons h (by decide)]
  rfl

/-! ## Values -/

theorem takes_putMember {fuel : Nat} {reader : Reader Json} {member : String × Json}
    (h : Finds fuel reader member.2 member.2) (members : List (String × Json)) :
    Takes fuel (putMember reader) members member (Entries.put member.1 member.2 members) := by
  intro gap pad text rest hgap hpad htext hfuel hrest
  have hread := h hpad htext hfuel hrest
  simp only [putMember, readColon_append hgap, hread, bind, Except.bind]

theorem put_eq_append {key : String} {entries : List (String × Json)}
    (h : key ∉ Entries.keys entries) (value : Json) :
    Entries.put key value entries = entries ++ [(key, value)] := by
  induction entries with
  | nil => rfl
  | cons entry rest ih =>
    simp only [Entries.keys, List.map_cons, List.mem_cons, not_or] at h
    rw [Entries.put, if_neg (Ne.symm h.1), ih h.2, List.cons_append]

/-- Members with different keys are kept in their order. -/
theorem takesAll_putMember {fuel : Nat} {reader : Reader Json} {start members : List (String × Json)}
    (hkeys : (Entries.keys (start ++ members)).Nodup)
    (h : ∀ member ∈ members, Finds fuel reader member.2 member.2) :
    TakesAll fuel (putMember reader) start members (start ++ members) := by
  induction members generalizing start with
  | nil =>
    rw [List.append_nil]
    exact .nil start
  | cons member members ih =>
    -- A new key is put behind the members that there are.
    have hnew : member.1 ∉ Entries.keys start := by
      rw [Entries.keys, List.map_append, List.map_cons] at hkeys
      intro hmem
      exact (List.nodup_append.1 hkeys).2.2 _ hmem _ List.mem_cons_self rfl
    have htakes := takes_putMember (h member List.mem_cons_self) start
    rw [put_eq_append hnew] at htakes
    have hrest := @ih (start ++ [(member.1, member.2)]) (by simpa using hkeys)
      fun other hother => h other (List.mem_cons_of_mem _ hother)
    rw [List.append_assoc] at hrest
    exact .cons htakes hrest

theorem readWord_append (letters rest : List Char) :
    readWord letters (letters ++ rest) = .ok rest := by
  induction letters with
  | nil => rfl
  | cons letter letters ih => rw [List.cons_append, readWord, if_pos rfl, ih]

/-- What the reader of values does after white space. -/
theorem readValueWith_append {fuel : Nat} {inner : Option (Reader Json)} {blank : List Char}
    (hblank : IsBlank blank) {c : Char} (hc : isSpace c = false) (rest : List Char) :
    readValueWith fuel inner (blank ++ c :: rest) = readValueWith fuel inner (c :: rest) := by
  rw [readValueWith, readValueWith, skipSpace_append_cons hblank hc, skipSpace_cons hc]

theorem digit_ne {c : Char} (h : c.isDigit = true) {d : Char} (hd : d.isDigit = false) : c ≠ d := by
  rintro rfl
  rw [h] at hd
  cases hd

theorem finds_number {fuel : Nat} (inner : Option (Reader Json)) (value : Number) :
    Finds fuel (readValueWith fuel inner) (.number value) (.number value) := by
  intro blank text rest hblank htext _ hrest
  cases htext with
  | number h =>
    cases h with
    | positive hs h hnumber =>
      have hread := Number.readNumber_append h hnumber hrest
      obtain ⟨c, more, rfl, hc⟩ := h.exists_cons
      have hspace := isSpace_of_isDigit hc
      rw [hs, List.cons_append] at hread
      rw [List.cons_append, readValueWith_append hblank hspace, readValueWith, skipSpace_cons hspace]
      simp only [if_neg (digit_ne hc (d := 'n') (by decide)), if_neg (digit_ne hc (d := 't') (by decide)),
        if_neg (digit_ne hc (d := 'f') (by decide)), if_neg (digit_ne hc (d := '-') (by decide)),
        if_pos hc, hread, bind, Except.bind]
    | negative hs h hnumber =>
      have hread := Number.readNumber_append h hnumber hrest
      rw [hs] at hread
      rw [List.cons_append, readValueWith_append hblank (by decide), readValueWith,
        skipSpace_cons (by decide)]
      simp only [Char.reduceEq, if_false, if_pos, hread, bind, Except.bind]

theorem finds_text {fuel : Nat} (inner : Option (Reader Json)) (value : String) :
    Finds fuel (readValueWith fuel inner) (.text value) (.text value) := by
  intro blank text rest hblank htext _ hrest
  cases htext with
  | @text inner value h =>
    have hread := Text.readText_append h rest
    rw [List.cons_append, List.append_assoc, readValueWith_append hblank (by decide), readValueWith,
      skipSpace_cons (by decide)]
    simp [hread, bind, Except.bind]

theorem finds_null {fuel : Nat} (inner : Option (Reader Json)) :
    Finds fuel (readValueWith fuel inner) .null .null := by
  intro blank text rest hblank htext _ hrest
  cases htext
  have hread := readWord_append "ull".toList rest
  have hsplit : "null".toList ++ rest = 'n' :: ("ull".toList ++ rest) := rfl
  rw [hsplit, readValueWith_append hblank (by decide), readValueWith, skipSpace_cons (by decide)]
  simp only [if_pos, hread, bind, Except.bind]

theorem finds_boolean {fuel : Nat} (inner : Option (Reader Json)) (value : Bool) :
    Finds fuel (readValueWith fuel inner) (.boolean value) (.boolean value) := by
  intro blank text rest hblank htext _ hrest
  cases htext with
  | true =>
    have hread := readWord_append "rue".toList rest
    have hsplit : "true".toList ++ rest = 't' :: ("rue".toList ++ rest) := rfl
    rw [hsplit, readValueWith_append hblank (by decide), readValueWith, skipSpace_cons (by decide)]
    simp only [Char.reduceEq, if_false, if_pos, hread, bind, Except.bind]
  | false =>
    have hread := readWord_append "alse".toList rest
    have hsplit : "false".toList ++ rest = 'f' :: ("alse".toList ++ rest) := rfl
    rw [hsplit, readValueWith_append hblank (by decide), readValueWith, skipSpace_cons (by decide)]
    simp only [Char.reduceEq, if_false, if_pos, hread, bind, Except.bind]

theorem finds_array {fuel : Nat} {item : Reader Json} {items : List Json}
    (h : ∀ value ∈ items, Finds fuel item value value) :
    Finds fuel (readValueWith fuel (some item)) (.array items) (.array items) := by
  intro blank text rest hblank htext hfuel _
  have hitems : List.Forall₂ (Finds fuel item) items items := List.forall₂_same.2 h
  obtain ⟨tail, rfl, hread⟩ := readItems_of_spells hitems htext hfuel rest
  rw [List.cons_append, readValueWith_append hblank (by decide), readValueWith,
    skipSpace_cons (by decide)]
  simp [hread, bind, Except.bind]

theorem nodup_of_spells {text : List Char} {members : List (String × Json)}
    (h : Spells text (.object members)) : (Entries.keys members).Nodup := by
  cases h with
  | emptyObject => exact List.nodup_nil
  | object hkeys => exact hkeys

theorem finds_object {fuel : Nat} {reader : Reader Json} {members : List (String × Json)}
    (h : ∀ member ∈ members, Finds fuel reader member.2 member.2) :
    Finds fuel (readValueWith fuel (some reader)) (.object members) (.object members) := by
  intro blank text rest hblank htext hfuel _
  have hall := @takesAll_putMember fuel reader [] members (nodup_of_spells htext) h
  obtain ⟨tail, rfl, hread⟩ := readMembers_of_spells hall htext hfuel rest
  rw [List.cons_append, readValueWith_append hblank (by decide), readValueWith,
    skipSpace_cons (by decide)]
  simp [hread, bind, Except.bind]

/-- Every value is found if its nesting does not exceed what is allowed. -/
theorem finds_readValue (fuel : Nat) {value : Json} {depth : Nat} (h : value.depth ≤ depth) :
    Finds fuel (readValue fuel depth) value value := by
  induction value using Json.inductionOnParts generalizing depth with
  | null => cases depth <;> exact finds_null _
  | boolean value => cases depth <;> exact finds_boolean _ value
  | number value => cases depth <;> exact finds_number _ value
  | text value => cases depth <;> exact finds_text _ value
  | array items ih =>
    rw [Json.depth] at h
    obtain ⟨depth, rfl⟩ := Nat.exists_eq_add_of_le' h
    have hitems := Json.itemsDepth_le_iff.1 (Nat.le_add_left (Json.itemsDepth items) depth)
    exact finds_array fun item hitem => ih item hitem (hitems item hitem)
  | object members ih =>
    rw [Json.depth] at h
    obtain ⟨depth, rfl⟩ := Nat.exists_eq_add_of_le' h
    have hmembers := Json.membersDepth_le_iff.1 (Nat.le_add_left (Json.membersDepth members) depth)
    exact finds_object fun member hmember => ih member hmember (hmembers member hmember)

/-! ## Kinds of values -/

theorem readKind_append {wanted : String}
    {read : Char → List Char → Option (Except Json.Fault (α × List Char))} {blank : List Char}
    (hblank : IsBlank blank) {c : Char} (hc : isSpace c = false) {rest : List Char}
    {result : Except Json.Fault (α × List Char)} (hread : read c rest = some result) :
    readKind wanted read (blank ++ c :: rest) = result := by
  rw [readKind, skipSpace_append_cons hblank hc]
  simp only [hread]

theorem finds_readString (fuel : Nat) (value : String) :
    Finds fuel readString (.text value) value := by
  intro blank text rest hblank htext _ _
  cases htext with
  | @text inner value h =>
    have hread := Text.readText_append h rest
    rw [List.cons_append, List.append_assoc]
    exact readKind_append hblank rfl (by simp [hread])

theorem finds_readBoolean (fuel : Nat) (value : Bool) :
    Finds fuel readBoolean (.boolean value) value := by
  intro blank text rest hblank htext _ _
  cases htext with
  | true =>
    have hread := readWord_append "rue".toList rest
    have hsplit : "true".toList ++ rest = 't' :: ("rue".toList ++ rest) := rfl
    rw [hsplit]
    refine readKind_append hblank rfl ?_
    simp only [if_pos, hread, bind, Except.bind]
  | false =>
    have hread := readWord_append "alse".toList rest
    have hsplit : "false".toList ++ rest = 'f' :: ("alse".toList ++ rest) := rfl
    rw [hsplit]
    refine readKind_append hblank rfl ?_
    simp only [Char.reduceEq, if_false, if_pos, hread, bind, Except.bind]

theorem finds_readOptional_null (fuel : Nat) (reader : Reader α) :
    Finds fuel (readOptional reader) .null none := by
  intro blank text rest hblank htext _ _
  cases htext
  have hread := readWord_append "ull".toList rest
  have hskip := skipSpace_append_cons hblank (c := 'n') rfl ("ull".toList ++ rest)
  have hsplit : "null".toList ++ rest = 'n' :: ("ull".toList ++ rest) := rfl
  rw [readOptional, hsplit, hskip]
  simp only [hread, bind, Except.bind]

theorem ne_n_of_spells {text : List Char} {value : Json} (h : Spells text value)
    (hvalue : value ≠ .null) (rest : List Char) : text ≠ 'n' :: rest := by
  intro heq
  cases h with
  | null => exact hvalue rfl
  | true | false | text | emptyArray | array | emptyObject | object => simp at heq
  | number h =>
    cases h with
    | positive hs h =>
      obtain ⟨c, more, rfl, hc⟩ := h.exists_cons
      obtain ⟨rfl, _⟩ := List.cons.inj heq
      exact absurd hc (by decide)
    | negative => simp at heq

theorem finds_readOptional {fuel : Nat} {reader : Reader α} {value : Json} {result : α}
    (hvalue : value ≠ .null) (h : Finds fuel reader value result) :
    Finds fuel (readOptional reader) value (some result) := by
  intro blank text rest hblank htext hfuel hrest
  have hread := h Json.isBlank_nil htext hfuel hrest
  obtain ⟨c, more, rfl, hc, _⟩ := exists_cons_of_spells htext
  -- Only `null` begins with this letter, so that the value is left to the reader.
  have hn : c ≠ 'n' := by
    rintro rfl
    exact ne_n_of_spells htext hvalue more rfl
  rw [List.nil_append] at hread
  rw [readOptional, List.cons_append, skipSpace_append_cons hblank hc]
  split
  · next heq => exact absurd (List.cons.inj heq).1 hn
  · rw [List.cons_append] at hread
    simp only [hread, bind, Except.bind]

theorem finds_readArray {fuel : Nat} {item : Reader α} {items : List Json} {results : List α}
    (h : List.Forall₂ (Finds fuel item) items results) :
    Finds fuel (readArray fuel (some item)) (.array items) results := by
  intro blank text rest hblank htext hfuel _
  obtain ⟨tail, rfl, hread⟩ := readItems_of_spells h htext hfuel rest
  rw [List.cons_append]
  refine readKind_append hblank rfl ?_
  simp [hread, bind, Except.bind]

/-! ## Records -/

theorem takes_readMember {fuel : Nat} {fields : List (Field δ)} {field : Field δ} {before after : δ}
    {member : String × Json} (hfield : fields.find? (fun field => field.key = member.1) = some field)
    (hnew : field.isSet before = false) (h : Finds fuel (field.read before) member.2 after) :
    Takes fuel (readMember fuel fields) before member after := by
  intro gap pad text rest hgap hpad htext hfuel hrest
  have hread := h hpad htext hfuel hrest
  simp only [readMember, hfield, hnew, Bool.false_eq_true, if_false, readColon_append hgap, hread,
    bind, Except.bind]

/-- A record is found if its members are taken in and none is missing. -/
theorem finds_readRecord {fuel : Nat} {fields : List (Field δ)} {start draft : δ}
    {members : List (String × Json)}
    (hall : TakesAll fuel (readMember fuel fields) start members draft)
    (hmissing : missing? fields draft = none) (title : String) :
    Finds fuel (readRecord fuel title fields start true) (.object members) draft := by
  intro blank text rest hblank htext hfuel _
  obtain ⟨tail, rfl, hread⟩ := readMembers_of_spells hall htext hfuel rest
  rw [List.cons_append]
  refine readKind_append hblank rfl ?_
  simp [readRecordMembers, hread, hmissing, bind, Except.bind]

/-! ## Whole texts -/

/-- The value is found in a text that spells it, with white space around it. -/
theorem readWholeText_of_spells {reader : Nat → Reader α} {value : Json} {result : α}
    (h : ∀ fuel, Finds fuel (reader fuel) value result) {before text after : List Char}
    (hbefore : IsBlank before) (htext : Spells text value) (hafter : IsBlank after) :
    readWholeText reader (String.ofList (before ++ (text ++ after))) = .ok result := by
  have hend := endsNumber_append hafter Number.endsNumber_nil
  rw [List.append_nil] at hend
  have hread := h (before ++ (text ++ after)).length hbefore htext (by simp; omega) hend
  have hskip := skipSpace_append hafter []
  rw [List.append_nil] at hskip
  simp only [readWholeText, String.toList_ofList, hread, hskip]
  rfl

theorem ofText?_of_spells {text : List Char} {value : Json} (htext : Spells text value)
    (hdepth : value.depth ≤ maxDepth) : Json.ofText? (String.ofList text) = .ok value := by
  have hread := readWholeText_of_spells (fun fuel => finds_readValue fuel hdepth)
    Json.isBlank_nil htext Json.isBlank_nil
  rwa [List.nil_append, List.append_nil] at hread

end QueryTree.Reader
