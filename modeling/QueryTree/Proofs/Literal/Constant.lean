import QueryTree.Proofs.Json.Quotation
import QueryTree.Proofs.Json.Spelling
import QueryTree.Text.Name

/-! # Constants

The constant values of the query language: their grammar, and a reader for them. White space and
commas do not count between the parts of a list or an object. The reader takes in every constant
up to its end, provided that what follows could not belong to it. -/

namespace QueryTree

open Text (isName isNameStart isNameContinue)

inductive Constant where
  | null
  | boolean (value : Bool)
  /-- a number as it is written -/
  | number (text : List Char)
  | text (value : String)
  | enum (name : List Char)
  | list (items : List Constant)
  | object (members : List (List Char × Constant))

namespace Constant

/-- What a name stands for among values. -/
def ofWord (word : List Char) : Constant :=
  if word = "null".toList then .null
  else if word = "true".toList then .boolean true
  else if word = "false".toList then .boolean false
  else .enum word

/-! ## The grammar -/

def isIgnored (c : Char) : Bool := c == ' ' || c == ',' || c == '\n' || c == '\r' || c == '\t'

def IsBlank (text : List Char) : Prop := ∀ c ∈ text, isIgnored c = true

/-- What follows an item is set apart from it, if there is anything. -/
def IsApart (rest : List Char) : Prop := ∀ c, rest.head? = some c → isIgnored c = true

mutual

/-- The text spells the constant. -/
inductive Spells : List Char → Constant → Prop
  | word {word : List Char} (h : isName word = true) : Spells word (.ofWord word)
  | number {text : List Char} (h : Number.IsNumeral text) : Spells text (.number text)
  | text {inner value : List Char} (h : Text.Quotes inner value) :
    Spells ('"' :: (inner ++ ['"'])) (.text (String.ofList value))
  | list {inner : List Char} {items : List Constant} (h : SpellsItems inner items) :
    Spells ('[' :: (inner ++ [']'])) (.list items)
  | object {inner : List Char} {members : List (List Char × Constant)}
    (h : SpellsMembers inner members) : Spells ('\x7b' :: (inner ++ ['\x7d'])) (.object members)

inductive SpellsItems : List Char → List Constant → Prop
  | nil {blank : List Char} (hblank : IsBlank blank) : SpellsItems blank []
  | cons {blank text rest : List Char} {item : Constant} {items : List Constant}
    (hblank : IsBlank blank) (h : Spells text item) (hapart : IsApart rest)
    (hrest : SpellsItems rest items) : SpellsItems (blank ++ (text ++ rest)) (item :: items)

inductive SpellsMembers : List Char → List (List Char × Constant) → Prop
  | nil {blank : List Char} (hblank : IsBlank blank) : SpellsMembers blank []
  | cons {blank name before after text rest : List Char} {value : Constant}
    {members : List (List Char × Constant)} (hblank : IsBlank blank) (hname : isName name = true)
    (hbefore : IsBlank before) (hafter : IsBlank after) (h : Spells text value)
    (hapart : IsApart rest) (hrest : SpellsMembers rest members) :
    SpellsMembers (blank ++ (name ++ (before ++ ':' :: (after ++ (text ++ rest)))))
      ((name, value) :: members)

end

/-! ## The reader -/

def skipIgnored (text : List Char) : List Char := text.dropWhile isIgnored

/-- The longest name at the front of the text and the rest. -/
def splitName (text : List Char) : List Char × List Char :=
  (text.takeWhile isNameContinue, text.dropWhile isNameContinue)

def readQuoted (text : List Char) : Option (Constant × List Char) :=
  match Reader.readText text with
  | .ok (value, rest) => some (.text value, rest)
  | .error _ => none

/-- Reads a number and keeps it as it is written. -/
def readNumeral (text : List Char) : Option (Constant × List Char) :=
  let result := match text with
    | '-' :: rest => Reader.readSpelling .endOfValue true rest
    | rest => Reader.readSpelling .endOfValue false rest
  match result with
  | .ok (_, rest) => some (.number (text.take (text.length - rest.length)), rest)
  | .error _ => none

mutual

/-- Reads a constant. The fuel bounds the length of what is read. -/
def read : Nat → List Char → Option (Constant × List Char)
  | 0, _ => none
  | _ + 1, [] => none
  | fuel + 1, c :: rest =>
    if c = '"' then readQuoted rest
    else if c = '[' then (readItems fuel rest).map fun found => (.list found.1, found.2)
    else if c = '\x7b' then (readMembers fuel rest).map fun found => (.object found.1, found.2)
    else if isNameStart c then
      let (word, after) := splitName (c :: rest)
      some (.ofWord word, after)
    else readNumeral (c :: rest)

def readItems : Nat → List Char → Option (List Constant × List Char)
  | 0, _ => none
  | fuel + 1, chars =>
    match skipIgnored chars with
    | [] => none
    | c :: rest =>
      if c = ']' then some ([], rest)
      else do
        let (item, after) ← read fuel (c :: rest)
        let (items, last) ← readItems fuel after
        some (item :: items, last)

def readMembers : Nat → List Char → Option (List (List Char × Constant) × List Char)
  | 0, _ => none
  | fuel + 1, chars =>
    match skipIgnored chars with
    | [] => none
    | c :: rest =>
      if c = '\x7d' then some ([], rest)
      else
        let (name, after) := splitName (c :: rest)
        match skipIgnored after with
        | ':' :: after => do
          let (value, after) ← read fuel (skipIgnored after)
          let (members, last) ← readMembers fuel after
          if isName name then some ((name, value) :: members, last) else none
        | _ => none

end

/-! ## Ends -/

/-- What follows the text belongs to no name or number in front of it. -/
def Ends (rest : List Char) : Prop :=
  ∀ c, rest.head? = some c → isNameContinue c = false ∧ c ≠ '.'

theorem Ends.endsNumber {rest : List Char} (h : Ends rest) : Number.EndsNumber rest := by
  intro c hc
  obtain ⟨hname, hpoint⟩ := h c hc
  have hdigit : c.isDigit = false := by
    cases hd : c.isDigit with
    | false => rfl
    | true => simp [isNameContinue, Char.isAlphanum, hd] at hname
  refine ⟨hdigit, hpoint, ?_, ?_⟩
  · rintro rfl
    exact absurd hname (by decide)
  · rintro rfl
    exact absurd hname (by decide)

theorem isNameContinue_of_isIgnored {c : Char} (h : isIgnored c = true) :
    isNameContinue c = false ∧ c ≠ '.' := by
  simp only [isIgnored, Bool.or_eq_true, beq_iff_eq] at h
  rcases h with (((rfl | rfl) | rfl) | rfl) | rfl <;> decide

/-- An item ends in front of what is set apart from it, and in front of a closing bracket. -/
theorem IsApart.ends {rest : List Char} (h : IsApart rest) (close : Char)
    (hclose : isNameContinue close = false ∧ close ≠ '.') (after : List Char) :
    Ends (rest ++ close :: after) := by
  intro c hc
  cases rest with
  | nil =>
    rw [List.nil_append, List.head?_cons, Option.some.injEq] at hc
    exact hc ▸ hclose
  | cons d rest =>
    rw [List.cons_append, List.head?_cons, Option.some.injEq] at hc
    exact isNameContinue_of_isIgnored (h c (hc ▸ rfl))

theorem IsBlank.isApart {blank : List Char} (h : IsBlank blank) : IsApart blank :=
  fun c hc => h c (List.mem_of_mem_head? hc)

theorem skipIgnored_append {blank : List Char} (h : IsBlank blank) (rest : List Char) :
    skipIgnored (blank ++ rest) = skipIgnored rest := by
  rw [skipIgnored, List.dropWhile_append_of_pos h]
  rfl

theorem skipIgnored_cons {c : Char} (h : isIgnored c = false) (rest : List Char) :
    skipIgnored (c :: rest) = c :: rest := by
  rw [skipIgnored, List.dropWhile_cons_of_neg (by simp [h])]

theorem splitName_append {name rest : List Char} (h : isName name = true)
    (hrest : ∀ c, rest.head? = some c → isNameContinue c = false) :
    splitName (name ++ rest) = (name, rest) := by
  have hall : ∀ c ∈ name, isNameContinue c = true := Text.isNameContinue_of_mem h
  have hstop : rest.takeWhile isNameContinue = [] ∧ rest.dropWhile isNameContinue = rest := by
    cases rest with
    | nil => exact ⟨rfl, rfl⟩
    | cons c rest => simp [hrest c rfl]
  rw [splitName, List.takeWhile_append_of_pos hall, List.dropWhile_append_of_pos hall, hstop.1,
    hstop.2, List.append_nil]

/-! ## First characters -/

/-- What a constant begins with: neither white space nor a closing bracket. -/
def Opens (c : Char) : Prop := isIgnored c = false ∧ c ≠ ']' ∧ c ≠ '\x7d'

/-- A kind of characters that white space and closing brackets do not belong to. -/
theorem opens_of_kind (kind : Char → Bool) {c : Char} (h : kind c = true)
    (hother : [' ', ',', '\n', '\r', '\t', ']', '\x7d'].any kind = false) : Opens c := by
  have hne : ∀ d, kind d = false → c ≠ d := by
    rintro d hd rfl
    rw [hd] at h
    cases h
  simp only [List.any_cons, List.any_nil, Bool.or_false, Bool.or_eq_false_iff] at hother
  obtain ⟨hspace, hcomma, hline, hreturn, htab, hbracket, hbrace⟩ := hother
  refine ⟨?_, hne _ hbracket, hne _ hbrace⟩
  simp [isIgnored, hne _ hspace, hne _ hcomma, hne _ hline, hne _ hreturn, hne _ htab]

theorem opens_of_isNameStart {c : Char} (h : isNameStart c = true) : Opens c :=
  opens_of_kind isNameStart h (by decide)

theorem opens_of_isDigit {c : Char} (h : c.isDigit = true) : Opens c :=
  opens_of_kind Char.isDigit h (by decide)

/-- A number begins with a minus sign or a digit. -/
theorem exists_cons_of_isNumeral {text : List Char} (h : Number.IsNumeral text) :
    ∃ c rest, text = c :: rest ∧ (c = '-' ∨ c.isDigit = true) := by
  cases h with
  | negative _ _ => exact ⟨'-', _, rfl, Or.inl rfl⟩
  | positive _ h =>
    obtain ⟨c, rest, rfl, hc⟩ := h.exists_cons
    exact ⟨c, rest, rfl, Or.inr hc⟩

theorem exists_cons_of_spells {text : List Char} {constant : Constant} (h : Spells text constant) :
    ∃ c rest, text = c :: rest ∧ Opens c := by
  cases h with
  | word h =>
    obtain ⟨c, rest, rfl, hc⟩ := Text.exists_cons_of_isName h
    exact ⟨c, rest, rfl, opens_of_isNameStart hc⟩
  | number h =>
    obtain ⟨c, rest, rfl, hc⟩ := exists_cons_of_isNumeral h
    refine ⟨c, rest, rfl, ?_⟩
    rcases hc with rfl | hc
    · exact ⟨by decide, by decide, by decide⟩
    · exact opens_of_isDigit hc
  | text _ => exact ⟨'"', _, rfl, by decide, by decide, by decide⟩
  | list _ => exact ⟨'[', _, rfl, by decide, by decide, by decide⟩
  | object _ => exact ⟨'\x7b', _, rfl, by decide, by decide, by decide⟩

/-! ## The reader takes in constants -/

theorem read_word {word : List Char} (h : isName word = true) {rest : List Char} (hrest : Ends rest)
    (fuel : Nat) : read (fuel + 1) (word ++ rest) = some (.ofWord word, rest) := by
  have hsplit := splitName_append h fun c hc => (hrest c hc).1
  obtain ⟨c, more, rfl, hc⟩ := Text.exists_cons_of_isName h
  have hne : ∀ d, isNameStart d = false → c ≠ d := by
    rintro d hd rfl
    rw [hc] at hd
    cases hd
  rw [List.cons_append] at hsplit ⊢
  rw [read, if_neg (hne '"' (by decide)), if_neg (hne '[' (by decide)),
    if_neg (hne '\x7b' (by decide)), if_pos hc, hsplit]

theorem readNumeral_append {text : List Char} (h : Number.IsNumeral text) {rest : List Char}
    (hrest : Ends rest) : readNumeral (text ++ rest) = some (.number text, rest) := by
  have htake : (text ++ rest).take ((text ++ rest).length - rest.length) = text := by
    rw [List.length_append, Nat.add_sub_cancel, List.take_left]
  unfold readNumeral
  cases h with
  | negative hs h =>
    have hread := Number.readSpelling_append h hrest.endsNumber .endOfValue
    rw [hs] at hread
    rw [List.cons_append] at htake ⊢
    simp only [hread, htake]
  | positive hs h =>
    have hread := Number.readSpelling_append h hrest.endsNumber .endOfValue
    rw [hs] at hread
    obtain ⟨c, more, rfl, hc⟩ := h.exists_cons
    split
    · next hminus =>
      obtain ⟨rfl, _⟩ := List.cons.inj hminus
      exact absurd hc (by decide)
    · simp only [hread, htake]

theorem read_number {text : List Char} (h : Number.IsNumeral text) {rest : List Char}
    (hrest : Ends rest) (fuel : Nat) :
    read (fuel + 1) (text ++ rest) = some (.number text, rest) := by
  have hread := readNumeral_append h hrest
  obtain ⟨c, more, rfl, hc⟩ := exists_cons_of_isNumeral h
  have hkind : c ≠ '"' ∧ c ≠ '[' ∧ c ≠ '\x7b' ∧ isNameStart c = false := by
    rcases hc with rfl | hc
    · decide
    · refine ⟨?_, ?_, ?_, ?_⟩
      · rintro rfl; exact absurd hc (by decide)
      · rintro rfl; exact absurd hc (by decide)
      · rintro rfl; exact absurd hc (by decide)
      · cases hn : isNameStart c with
        | false => rfl
        | true => exact absurd hn (Text.not_isNameStart_of_isDigit hc)
  obtain ⟨hquote, hbracket, hbrace, hname⟩ := hkind
  rw [List.cons_append] at hread ⊢
  rw [read, if_neg hquote, if_neg hbracket, if_neg hbrace, if_neg (by simp [hname]), hread]

mutual

/-- The reader takes in a constant up to its end. -/
theorem read_append : ∀ {chars : List Char} {constant : Constant}, Spells chars constant →
    ∀ (fuel : Nat) (rest : List Char), chars.length ≤ fuel → Ends rest →
      read fuel (chars ++ rest) = some (constant, rest)
  | _, _, h, 0, rest, hfuel, hrest => by
    obtain ⟨c, more, rfl, _⟩ := exists_cons_of_spells h
    simp at hfuel
  | _, _, .word h, fuel + 1, rest, hfuel, hrest => read_word h hrest fuel
  | _, _, .number h, fuel + 1, rest, hfuel, hrest => read_number h hrest fuel
  | _, _, .text h, fuel + 1, rest, hfuel, hrest => by
    rw [List.cons_append, List.append_assoc, read, if_pos rfl, readQuoted]
    simp only [List.cons_append, List.nil_append, Text.readText_append h]
  | _, _, .list h, fuel + 1, rest, hfuel, hrest => by
    have hread := readItems_append h fuel rest (by simp at hfuel; omega)
    rw [List.cons_append, List.append_assoc, read, if_neg (by decide), if_pos rfl]
    simp only [List.cons_append, List.nil_append, hread, Option.map_some]
  | _, _, .object h, fuel + 1, rest, hfuel, hrest => by
    have hread := readMembers_append h fuel rest (by simp at hfuel; omega)
    rw [List.cons_append, List.append_assoc, read, if_neg (by decide), if_neg (by decide),
      if_pos rfl]
    simp only [List.cons_append, List.nil_append, hread, Option.map_some]

theorem readItems_append : ∀ {inner : List Char} {items : List Constant},
    SpellsItems inner items → ∀ (fuel : Nat) (rest : List Char), inner.length < fuel →
      readItems fuel (inner ++ ']' :: rest) = some (items, rest)
  | _, _, .nil hblank, fuel + 1, rest, hfuel => by
    rw [readItems, skipIgnored_append hblank, skipIgnored_cons (by decide)]
    rfl
  | _, _, .cons hblank h hapart hrest, fuel + 1, rest, hfuel => by
    simp only [List.length_append] at hfuel
    have hends := hapart.ends ']' (by decide) rest
    have hitem := read_append h fuel _ (by omega) hends
    obtain ⟨c, more, rfl, hopens, hbracket, _⟩ := exists_cons_of_spells h
    rw [List.length_cons] at hfuel
    have hitems := readItems_append hrest fuel rest (by omega)
    rw [List.cons_append] at hitem
    rw [List.append_assoc, List.append_assoc, List.cons_append, readItems,
      skipIgnored_append hblank, skipIgnored_cons hopens]
    simp only [if_neg hbracket, hitem, hitems, bind, Option.bind]

theorem readMembers_append : ∀ {inner : List Char} {members : List (List Char × Constant)},
    SpellsMembers inner members → ∀ (fuel : Nat) (rest : List Char), inner.length < fuel →
      readMembers fuel (inner ++ '\x7d' :: rest) = some (members, rest)
  | _, _, .nil hblank, fuel + 1, rest, hfuel => by
    rw [readMembers, skipIgnored_append hblank, skipIgnored_cons (by decide)]
    rfl
  | _, _, .cons hblank hname hbefore hafter h hapart hrest, fuel + 1, rest, hfuel => by
    simp only [List.length_append, List.length_cons] at hfuel
    have hends := hapart.ends '\x7d' (by decide) rest
    have hvalue := read_append h fuel _ (by omega) hends
    have hmembers := readMembers_append hrest fuel rest (by omega)
    have hsplit := fun after => splitName_append hname fun c hc =>
      (hbefore.isApart.ends ':' (by decide) after c hc).1
    obtain ⟨d, tail, rfl, hd, _⟩ := exists_cons_of_spells h
    obtain ⟨c, more, rfl, hc⟩ := Text.exists_cons_of_isName hname
    obtain ⟨hopens, _, hbrace⟩ := opens_of_isNameStart hc
    have hcolon : isIgnored ':' = false := by decide
    simp only [List.append_assoc, List.cons_append] at hvalue hsplit ⊢
    rw [readMembers, skipIgnored_append hblank, skipIgnored_cons hopens]
    simp only [if_neg hbrace, hsplit, skipIgnored_append hbefore, skipIgnored_cons hcolon,
      skipIgnored_append hafter, skipIgnored_cons hd, hvalue, hmembers, bind, Option.bind,
      if_pos hname]

end

end Constant

end QueryTree
