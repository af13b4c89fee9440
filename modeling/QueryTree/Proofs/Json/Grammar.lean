import QueryTree.Json.Printer
import QueryTree.Literal.Render
import QueryTree.Proofs.Json.Quotation
import QueryTree.Proofs.Json.Spelling

/-! # What spells a JSON value

The grammar of JSON. White space may stand around every item, key and value. What the printers
write, on one line or on several, is in the grammar. -/

namespace QueryTree

-- The core library's power, so that powers mean the same whatever else is imported.
attribute [local instance (high)] instPowNat

/-! ## Numbers -/

namespace Number

open QueryTree.Decimal

/-- The text is read as the number. -/
inductive Spells : List Char → Number → Prop
  | positive {text : List Char} {s : Spelling} {number : Number} (hs : s.negative = false)
    (h : SpellsUnsigned text s) (hnumber : s.number? = some number) : Spells text number
  | negative {text : List Char} {s : Spelling} {number : Number} (hs : s.negative = true)
    (h : SpellsUnsigned text s) (hnumber : s.number? = some number) : Spells ('-' :: text) number

/-- The number is read from the text that it is written as. -/
def ReadsBack (number : Number) : Prop := ofText? number.spell = some number

instance (number : Number) : Decidable number.ReadsBack :=
  inferInstanceAs (Decidable (ofText? number.spell = some number))

theorem readNumber_append {text rest : List Char} {s : Spelling} {number : Number}
    (h : SpellsUnsigned text s) (hnumber : s.number? = some number) (hrest : EndsNumber rest) :
    Reader.readNumber s.negative (text ++ rest) = .ok (number, rest) := by
  rw [Reader.readNumber, readSpelling_append h hrest]
  simp [bind, Except.bind, hnumber]

theorem endsNumber_nil : EndsNumber [] := fun _ h => by cases h

theorem readNumber_of_spells {text : List Char} {s : Spelling} (h : SpellsUnsigned text s) :
    Reader.readNumber s.negative text =
      match s.number? with
      | some number => .ok (number, [])
      | none => .error ⟨.numberTooLarge, s.unread⟩ := by
  have hspelling := readSpelling_append h endsNumber_nil .endOfValue
  rw [List.append_nil] at hspelling
  rw [Reader.readNumber, hspelling]
  simp only [bind, Except.bind, Json.byteLength]
  cases s.number? <;> simp

/-- A numeral alone is read as its parts say. -/
theorem ofText?_of_spells {text : List Char} {s : Spelling} (h : SpellsUnsigned text s) :
    ofText? (if s.negative then '-' :: text else text) = s.number? := by
  have hread := readNumber_of_spells h
  cases hs : s.negative with
  | true =>
    rw [hs] at hread
    simp only [ofText?, if_pos, hread]
    cases s.number? <;> rfl
  | false =>
    rw [hs] at hread
    obtain ⟨c, more, rfl, hc⟩ := h.exists_cons
    have hne : c ≠ '-' := by
      rintro rfl
      exact absurd hc (by decide)
    simp only [ofText?, Bool.false_eq_true, if_false, List.cons.injEq, hne, false_and,
      imp_self, implies_true, hread]
    cases s.number? <;> rfl

theorem spells_of_ofText? {text : List Char} (h : IsNumeral text) {number : Number}
    (hread : ofText? text = some number) : Spells text number := by
  cases h with
  | positive hs h =>
    have hnumber := ofText?_of_spells h
    rw [hs, if_neg Bool.false_ne_true, hread] at hnumber
    exact .positive hs h hnumber.symm
  | negative hs h =>
    have hnumber := ofText?_of_spells h
    rw [hs, if_pos rfl, hread] at hnumber
    exact .negative hs h hnumber.symm

/-! ### Whole numbers -/

theorem absorb_of_lt {ds : List Char} {start : Nat} (hdigits : ∀ c ∈ ds, c.isDigit = true)
    (h : ds.foldl (fun n c => 10 * n + digitValue c) start < 2 ^ (64 : Nat)) :
    absorb start ds = (ds.foldl (fun n c => 10 * n + digitValue c) start, []) := by
  induction ds generalizing start with
  | nil => rfl
  | cons d rest ih =>
    -- The number only grows, so it fits before the last digit if it fits after it.
    have hgrows : ∀ (ds : List Char) (n : Nat),
        n ≤ ds.foldl (fun n c => 10 * n + digitValue c) n := by
      intro ds
      induction ds with
      | nil => exact fun n => Nat.le_refl n
      | cons d ds ih => exact fun n => Nat.le_trans (by omega) (ih (10 * n + digitValue d))
    rw [List.foldl_cons] at h ⊢
    have hfits := Nat.lt_of_le_of_lt (hgrows rest (10 * start + digitValue d)) h
    rw [absorb]
    simp only [Nat.mul_comm start 10, if_pos hfits]
    exact ih (fun c hc => hdigits c (List.mem_cons_of_mem _ hc)) h

theorem absorb_digits {n : Nat} (h : n < 2 ^ (64 : Nat)) : absorb 0 (digits n) = (n, []) := by
  have hvalue : (digits n).foldl (fun n c => 10 * n + digitValue c) 0 = n := value_digits n
  rw [absorb_of_lt (isDigits_digits n).2 (by rwa [hvalue]), hvalue]

theorem scaled_digits {n : Nat} (h : n < 2 ^ (64 : Nat)) (negative : Bool) :
    Spelling.scaled ⟨negative, digits n, none, none⟩ = (n, 0) := by
  simp [Spelling.scaled, absorb_digits h, absorb]

theorem spells_integer (value : Int) (fits : -2 ^ (63 : Nat) ≤ value ∧ value < 2 ^ (64 : Nat)) :
    Spells (integer value) (.whole value fits) := by
  have hsmall : value.natAbs < 2 ^ (64 : Nat) := by omega
  have hspells := fun negative =>
    @SpellsUnsigned.mk negative _ _ _ _ _ (isWhole_digits value.natAbs) .none .none
  simp only [List.append_nil] at hspells
  unfold integer
  split
  · next hnegative =>
    refine .negative rfl (hspells true) ?_
    obtain ⟨n, rfl⟩ : ∃ n : Nat, value = -(n : Int) := ⟨value.natAbs, by omega⟩
    rw [Int.natAbs_neg, Int.natAbs_natCast] at hsmall ⊢
    have hne : n ≠ 0 := by omega
    have hnumber : ofInt? (-(n : Int)) = some (.whole (-n) fits) := dif_pos fits
    simp only [Spelling.number?, scaled_digits hsmall, ne_eq, not_true_eq_false, if_false, if_pos,
      hne, hnumber, Option.some_or]
  · next hpositive =>
    refine .positive rfl (hspells false) ?_
    obtain ⟨n, rfl⟩ := Int.eq_ofNat_of_zero_le (Int.not_lt.1 hpositive)
    rw [Int.natAbs_natCast] at hsmall ⊢
    have hnumber : ofNat? n = some (.whole n fits) := dif_pos fits
    simp only [Spelling.number?, scaled_digits hsmall, ne_eq, not_true_eq_false, if_false,
      Bool.false_eq_true, hnumber, Option.some_or]

/-- Of a double it has to be known that its text is read back. -/
theorem spells_spell {number : Number} (h : ∀ x, number = .real x → number.ReadsBack) :
    Spells number.spell number := by
  cases number with
  | whole value fits => exact spells_integer value fits
  | real x => exact spells_of_ofText? (isNumeral_spell (.real x)) (h x rfl)

end Number

/-! ## What is inside of a value -/

namespace Json

/-- The second value is the first one or inside of it. -/
inductive Contains : Json → Json → Prop
  | self (value : Json) : Contains value value
  | item {items : List Json} {item part : Json} (hitem : item ∈ items) (h : Contains item part) :
    Contains (.array items) part
  | member {members : List (String × Json)} {member : String × Json} {part : Json}
    (hmember : member ∈ members) (h : Contains member.2 part) : Contains (.object members) part

/-- The value can be told from its text: no object in it has a key twice, and every double in it is
read from the text that it is written as. -/
structure Legible (value : Json) : Prop where
  keys : ∀ members, value.Contains (.object members) → (Entries.keys members).Nodup
  reals : ∀ x, value.Contains (.number (.real x)) → (Number.real x).ReadsBack

theorem legible_array_iff {items : List Json} :
    Legible (.array items) ↔ ∀ item ∈ items, item.Legible := by
  constructor
  · exact fun h item hitem => ⟨fun members hmembers => h.keys members (.item hitem hmembers),
      fun x hx => h.reals x (.item hitem hx)⟩
  · intro h
    constructor
    · intro members hmembers
      cases hmembers with
      | item hitem hinner => exact (h _ hitem).keys members hinner
    · intro x hx
      cases hx with
      | item hitem hinner => exact (h _ hitem).reals x hinner

theorem legible_object_iff {members : List (String × Json)} :
    Legible (.object members) ↔
      (Entries.keys members).Nodup ∧ ∀ member ∈ members, member.2.Legible := by
  constructor
  · exact fun h => ⟨h.keys members (.self _), fun member hmember =>
      ⟨fun inner hinner => h.keys inner (.member hmember hinner),
        fun x hx => h.reals x (.member hmember hx)⟩⟩
  · rintro ⟨hkeys, h⟩
    constructor
    · intro inner hinner
      cases hinner with
      | self => exact hkeys
      | member hmember hinner => exact (h _ hmember).keys inner hinner
    · intro x hx
      cases hx with
      | member hmember hinner => exact (h _ hmember).reals x hinner

theorem legible_null : Legible .null :=
  ⟨nofun, nofun⟩

theorem legible_boolean (value : Bool) : Legible (.boolean value) :=
  ⟨nofun, nofun⟩

theorem legible_text (value : String) : Legible (.text value) :=
  ⟨nofun, nofun⟩

theorem legible_number_iff {number : Number} :
    Legible (.number number) ↔ ∀ x, number = .real x → number.ReadsBack := by
  constructor
  · rintro h x rfl
    exact h.reals x (.self _)
  · intro h
    constructor
    · intro _ hmembers
      cases hmembers
    · intro x hx
      cases hx
      exact h x rfl

/-- What arrays inherit from their items and objects from their members holds of all values. -/
@[elab_as_elim]
theorem inductionOnParts {motive : Json → Prop} (value : Json) (null : motive .null)
    (boolean : ∀ value, motive (.boolean value)) (number : ∀ value, motive (.number value))
    (text : ∀ value, motive (.text value))
    (array : ∀ items, (∀ item ∈ items, motive item) → motive (.array items))
    (object : ∀ members, (∀ member ∈ members, motive member.2) → motive (.object members)) :
    motive value := by
  refine @Json.rec motive (fun items => ∀ item ∈ items, motive item)
    (fun members => ∀ member ∈ members, motive member.2) (fun member => motive member.2)
    null boolean number text array object ?_ ?_ ?_ ?_ ?_ value
  · simp
  · exact fun item rest hitem hrest => List.forall_mem_cons.2 ⟨hitem, hrest⟩
  · simp
  · exact fun member rest hmember hrest => List.forall_mem_cons.2 ⟨hmember, hrest⟩
  · exact fun _ _ hvalue => hvalue

mutual

/-- How deep arrays and objects stand inside each other. -/
def depth : Json → Nat
  | .array items => itemsDepth items + 1
  | .object members => membersDepth members + 1
  | .null | .boolean _ | .number _ | .text _ => 0

def itemsDepth : List Json → Nat
  | [] => 0
  | item :: rest => max item.depth (itemsDepth rest)

def membersDepth : List (String × Json) → Nat
  | [] => 0
  | (_, value) :: rest => max value.depth (membersDepth rest)

end

theorem itemsDepth_le_iff {items : List Json} {limit : Nat} :
    itemsDepth items ≤ limit ↔ ∀ item ∈ items, item.depth ≤ limit := by
  induction items with
  | nil => simp [itemsDepth]
  | cons item rest ih => simp [itemsDepth, ih]

theorem membersDepth_le_iff {members : List (String × Json)} {limit : Nat} :
    membersDepth members ≤ limit ↔ ∀ member ∈ members, member.2.depth ≤ limit := by
  induction members with
  | nil => simp [membersDepth]
  | cons member rest ih => simp [membersDepth, ih]

end Json

/-! ## Values -/

namespace Json

open Text (quoted)

def IsBlank (text : List Char) : Prop := ∀ c ∈ text, Reader.isSpace c = true

mutual

/-- An object names no key twice. -/
inductive Spells : List Char → Json → Prop
  | null : Spells "null".toList .null
  | true : Spells "true".toList (.boolean true)
  | false : Spells "false".toList (.boolean false)
  | number {text : List Char} {number : Number} (h : Number.Spells text number) :
    Spells text (.number number)
  | text {inner value : List Char} (h : Text.Quotes inner value) :
    Spells ('"' :: (inner ++ ['"'])) (.text (String.ofList value))
  | emptyArray {blank : List Char} (h : IsBlank blank) : Spells ('[' :: (blank ++ [']'])) (.array [])
  | array {inner : List Char} {items : List Json} (h : SpellsItems inner items) :
    Spells ('[' :: (inner ++ [']'])) (.array items)
  | emptyObject {blank : List Char} (h : IsBlank blank) :
    Spells ('\x7b' :: (blank ++ ['\x7d'])) (.object [])
  | object {inner : List Char} {members : List (String × Json)}
    (hkeys : (Entries.keys members).Nodup) (h : SpellsMembers inner members) :
    Spells ('\x7b' :: (inner ++ ['\x7d'])) (.object members)

/-- One item, or several with commas between them. -/
inductive SpellsItems : List Char → List Json → Prop
  | last {before text after : List Char} {item : Json} (hbefore : IsBlank before)
    (h : Spells text item) (hafter : IsBlank after) :
    SpellsItems (before ++ (text ++ after)) [item]
  | more {before text after others : List Char} {item : Json} {items : List Json}
    (hbefore : IsBlank before) (h : Spells text item) (hafter : IsBlank after)
    (hrest : SpellsItems others items) :
    SpellsItems (before ++ (text ++ (after ++ ',' :: others))) (item :: items)

/-- A key and a value with a colon between them. -/
inductive SpellsMember : List Char → String × Json → Prop
  | mk {inner key gap pad text : List Char} {value : Json} (hkey : Text.Quotes inner key)
    (hgap : IsBlank gap) (hpad : IsBlank pad) (h : Spells text value) :
    SpellsMember ('"' :: (inner ++ '"' :: (gap ++ ':' :: (pad ++ text)))) (String.ofList key, value)

inductive SpellsMembers : List Char → List (String × Json) → Prop
  | last {before text after : List Char} {member : String × Json} (hbefore : IsBlank before)
    (h : SpellsMember text member) (hafter : IsBlank after) :
    SpellsMembers (before ++ (text ++ after)) [member]
  | more {before text after others : List Char} {member : String × Json}
    {members : List (String × Json)} (hbefore : IsBlank before) (h : SpellsMember text member)
    (hafter : IsBlank after) (hrest : SpellsMembers others members) :
    SpellsMembers (before ++ (text ++ (after ++ ',' :: others))) (member :: members)

end

/-! ## What is written -/

theorem isBlank_nil : IsBlank [] := fun _ h => by cases h

theorem isBlank_newLine (level : Nat) : IsBlank (newLine level) := by
  intro c hc
  rcases List.mem_cons.1 hc with rfl | hc
  · rfl
  · rw [(List.mem_replicate.1 hc).2]
    rfl

theorem spells_text (value : String) : Spells (quoted value.toList) (.text value) := by
  have h := Spells.text (Text.quotes_flatMap_escaped value.toList)
  rwa [String.ofList_toList] at h

theorem spellsMember {key : String} {pad text : List Char} {value : Json} (hpad : IsBlank pad)
    (h : Spells text value) :
    SpellsMember (quoted key.toList ++ ':' :: (pad ++ text)) (key, value) := by
  have hmember := SpellsMember.mk (Text.quotes_flatMap_escaped key.toList) isBlank_nil hpad h
  rw [String.ofList_toList] at hmember
  simpa [quoted] using hmember

theorem SpellsItems.last_of_spells {text : List Char} {item : Json} (h : Spells text item) :
    SpellsItems text [item] := by
  simpa using SpellsItems.last isBlank_nil h isBlank_nil

theorem SpellsItems.more_of_spells {text others : List Char} {item : Json} {items : List Json}
    (h : Spells text item) (hrest : SpellsItems others items) :
    SpellsItems (text ++ ',' :: others) (item :: items) := by
  simpa using SpellsItems.more isBlank_nil h isBlank_nil hrest

theorem SpellsMembers.last_of_spells {text : List Char} {member : String × Json}
    (h : SpellsMember text member) : SpellsMembers text [member] := by
  simpa using SpellsMembers.last isBlank_nil h isBlank_nil

theorem SpellsMembers.more_of_spells {text others : List Char} {member : String × Json}
    {members : List (String × Json)} (h : SpellsMember text member)
    (hrest : SpellsMembers others members) :
    SpellsMembers (text ++ ',' :: others) (member :: members) := by
  simpa using SpellsMembers.more isBlank_nil h isBlank_nil hrest

theorem spellsItems_spellItems {items : List Json} (hne : items ≠ [])
    (h : ∀ item ∈ items, Spells item.spell item) : SpellsItems (spellItems items) items := by
  induction items with
  | nil => exact absurd rfl hne
  | cons item rest ih =>
    have hitem := h item List.mem_cons_self
    cases rest with
    | nil => exact .last_of_spells hitem
    | cons next rest =>
      exact .more_of_spells hitem
        (ih (List.cons_ne_nil _ _) fun other hother => h other (List.mem_cons_of_mem _ hother))

theorem spellsMembers_spellMembers {members : List (String × Json)} (hne : members ≠ [])
    (h : ∀ member ∈ members, Spells member.2.spell member.2) :
    SpellsMembers (spellMembers members) members := by
  induction members with
  | nil => exact absurd rfl hne
  | cons member rest ih =>
    have hmember := @spellsMember member.1 _ _ _ isBlank_nil (h member List.mem_cons_self)
    cases rest with
    | nil => exact .last_of_spells hmember
    | cons next rest =>
      have hrest := ih (List.cons_ne_nil _ _) fun other hother =>
        h other (List.mem_cons_of_mem _ hother)
      simpa [spellMembers] using SpellsMembers.more_of_spells hmember hrest

/-- The printer on one line keeps to the grammar. -/
theorem spells_spell {value : Json} (h : value.Legible) : Spells value.spell value := by
  induction value using inductionOnParts with
  | null => exact .null
  | boolean value =>
    cases value with
    | true => exact .true
    | false => exact .false
  | number value => exact .number (Number.spells_spell (legible_number_iff.1 h))
  | text value => exact spells_text value
  | array items ih =>
    by_cases hne : items = []
    · subst hne
      exact .emptyArray isBlank_nil
    · exact .array (spellsItems_spellItems hne fun item hitem =>
        ih item hitem (legible_array_iff.1 h item hitem))
  | object members ih =>
    by_cases hne : members = []
    · subst hne
      exact .emptyObject isBlank_nil
    · obtain ⟨hkeys, hmembers⟩ := legible_object_iff.1 h
      exact .object hkeys (spellsMembers_spellMembers hne fun member hmember =>
        ih member hmember (hmembers member hmember))

theorem spellsItems_indentItems {items : List Json} (hne : items ≠ []) {level : Nat}
    (h : ∀ item ∈ items, Spells (item.indent level) item) {after : List Char}
    (hafter : IsBlank after) : SpellsItems (indentItems level items ++ after) items := by
  induction items with
  | nil => exact absurd rfl hne
  | cons item rest ih =>
    have hitem := h item List.mem_cons_self
    cases rest with
    -- The new line of the closing bracket counts as white space behind the last item.
    | nil => simpa [indentItems] using SpellsItems.last (isBlank_newLine level) hitem hafter
    | cons next rest =>
      have hrest := ih (List.cons_ne_nil _ _) fun other hother =>
        h other (List.mem_cons_of_mem _ hother)
      simpa [indentItems] using SpellsItems.more (isBlank_newLine level) hitem isBlank_nil hrest

theorem spellsMembers_indentMembers {members : List (String × Json)} (hne : members ≠ [])
    {level : Nat} (h : ∀ member ∈ members, Spells (member.2.indent level) member.2)
    {after : List Char} (hafter : IsBlank after) :
    SpellsMembers (indentMembers level members ++ after) members := by
  induction members with
  | nil => exact absurd rfl hne
  | cons member rest ih =>
    have hpad : IsBlank [' '] := by simp [IsBlank, Reader.isSpace]
    have hmember := @spellsMember member.1 _ _ _ hpad (h member List.mem_cons_self)
    cases rest with
    | nil => simpa [indentMembers] using SpellsMembers.last (isBlank_newLine level) hmember hafter
    | cons next rest =>
      have hrest := ih (List.cons_ne_nil _ _) fun other hother =>
        h other (List.mem_cons_of_mem _ hother)
      simpa [indentMembers] using
        SpellsMembers.more (isBlank_newLine level) hmember isBlank_nil hrest

/-- The printer on several lines keeps to the grammar. -/
theorem spells_indent {value : Json} (level : Nat) (h : value.Legible) :
    Spells (value.indent level) value := by
  induction value using inductionOnParts generalizing level with
  | null => exact .null
  | boolean value =>
    cases value with
    | true => exact .true
    | false => exact .false
  | number value => exact .number (Number.spells_spell (legible_number_iff.1 h))
  | text value => exact spells_text value
  | array items ih =>
    cases items with
    | nil => exact .emptyArray isBlank_nil
    | cons first rest =>
      exact .array (spellsItems_indentItems (List.cons_ne_nil _ _) (fun item hitem =>
        ih item hitem _ (legible_array_iff.1 h item hitem)) (isBlank_newLine level))
  | object members ih =>
    cases members with
    | nil => exact .emptyObject isBlank_nil
    | cons first rest =>
      obtain ⟨hkeys, hmembers⟩ := legible_object_iff.1 h
      exact .object hkeys (spellsMembers_indentMembers (List.cons_ne_nil _ _)
        (fun member hmember => ih member hmember _ (hmembers member hmember))
        (isBlank_newLine level))

end Json

end QueryTree
