import QueryTree.Literal.Coercion

/-! # What a type string says of values

A type string is a name in any number of brackets, and each layer may end with one exclamation mark.
Five names coerce in ways of their own. Every other text is taken as the name of some other type,
whatever it looks like, and so is one with a second exclamation mark. -/

namespace QueryTree.Coercion

/-! ## The categories -/

/-- The scalars that coerce in ways of their own. -/
inductive IsBuiltIn : String → Coercion → Prop
  | int : IsBuiltIn "Int" .int
  | float : IsBuiltIn "Float" .float
  | string : IsBuiltIn "String" .text
  | id : IsBuiltIn "ID" .text
  | boolean : IsBuiltIn "Boolean" .boolean

def IsMarked (type : List Char) : Prop := ∃ front, type = front ++ ['!']

def IsBracketed (type : List Char) : Prop := ∃ item, type = '[' :: (item ++ [']'])

/-- The type string says that values coerce in this way. -/
inductive Spells : List Char → Coercion → Prop
  | builtIn {name : String} {coercion : Coercion} (h : IsBuiltIn name coercion) :
    Spells name.toList coercion
  | list {item : List Char} {coercion : Coercion} (h : Spells item coercion) :
    Spells ('[' :: (item ++ [']'])) (.list coercion)
  | other {type : List Char} (hname : ∀ name coercion, IsBuiltIn name coercion → type ≠ name.toList)
    (hlist : ¬ IsBracketed type) (hmark : ¬ IsMarked type) : Spells type .named
  | marked {type : List Char} {coercion : Coercion} (hmark : ¬ IsMarked type)
    (h : Spells type coercion) : Spells (type ++ ['!']) coercion
  | markedTwice {type : List Char} (hmark : IsMarked type) : Spells (type ++ ['!']) .named

/-! ## Layers -/

theorem ofTypeString_of_item {type item : List Char} (h : item? (nullable type) = some item) :
    ofTypeString type = .list (ofTypeString item) := by
  rw [ofTypeString]
  split
  · next found hfound =>
    rw [h] at hfound
    cases hfound
    rfl
  · next hnone =>
    rw [h] at hnone
    cases hnone

theorem ofTypeString_of_none {type : List Char} (h : item? (nullable type) = none) :
    ofTypeString type = ofName (nullable type) := by
  rw [ofTypeString]
  split
  · next found hfound =>
    rw [h] at hfound
    cases hfound
  · rfl

theorem ofTypeString_congr {type other : List Char} (h : nullable type = nullable other) :
    ofTypeString type = ofTypeString other := by
  cases hitem : item? (nullable other) with
  | none => rw [ofTypeString_of_none (h ▸ hitem), ofTypeString_of_none hitem, h]
  | some item => rw [ofTypeString_of_item (h ▸ hitem), ofTypeString_of_item hitem]

theorem nullable_mark (type : List Char) : nullable (type ++ ['!']) = type := by
  simp [nullable]

theorem nullable_eq_self {type : List Char} (h : type.getLast? ≠ some '!') : nullable type = type :=
  if_neg h

theorem isMarked_iff {type : List Char} : IsMarked type ↔ type.getLast? = some '!' :=
  List.getLast?_eq_some_iff.symm

instance (type : List Char) : Decidable (IsMarked type) := decidable_of_iff' _ isMarked_iff

theorem nullable_of_not_isMarked {type : List Char} (h : ¬ IsMarked type) : nullable type = type :=
  nullable_eq_self fun hlast => h (isMarked_iff.2 hlast)

theorem item?_eq_some_iff {type item : List Char} :
    item? type = some item ↔ type = '[' :: (item ++ [']']) := by
  constructor
  · intro h
    unfold item? at h
    split at h
    · next rest =>
      split at h
      · next hlast =>
        obtain ⟨front, rfl⟩ := List.getLast?_eq_some_iff.1 hlast
        rw [List.dropLast_concat, Option.some.injEq] at h
        rw [h]
      · cases h
    · cases h
  · rintro rfl
    simp [item?]

theorem isBracketed_iff {type : List Char} : IsBracketed type ↔ (item? type).isSome = true := by
  simp only [Option.isSome_iff_exists, item?_eq_some_iff, IsBracketed]

instance (type : List Char) : Decidable (IsBracketed type) := decidable_of_iff' _ isBracketed_iff

theorem item?_eq_none_iff {type : List Char} : item? type = none ↔ ¬ IsBracketed type := by
  rw [isBracketed_iff, Bool.not_eq_true, Option.isSome_eq_false_iff, Option.isNone_iff_eq_none]

/-! ## One category for each text -/

theorem ofName_of_isBuiltIn {name : String} {coercion : Coercion} (h : IsBuiltIn name coercion) :
    ofName name.toList = coercion := by
  cases h <;> decide

theorem isBuiltIn_of_ofName {name : List Char} (h : ofName name ≠ .named) :
    ∃ found coercion, IsBuiltIn found coercion ∧ name = found.toList := by
  unfold ofName at h
  split at h
  · next hname => exact ⟨_, _, .int, hname⟩
  split at h
  · next hname => exact ⟨_, _, .float, hname⟩
  split at h
  · next hname =>
    obtain hname | hname := hname
    · exact ⟨_, _, .string, hname⟩
    · exact ⟨_, _, .id, hname⟩
  split at h
  · next hname => exact ⟨_, _, .boolean, hname⟩
  · exact absurd rfl h

theorem IsBuiltIn.not_isMarked {name : String} {coercion : Coercion} (h : IsBuiltIn name coercion) :
    ¬ IsMarked name.toList := by
  cases h <;> decide

theorem IsBuiltIn.not_isBracketed {name : String} {coercion : Coercion}
    (h : IsBuiltIn name coercion) : ¬ IsBracketed name.toList := by
  cases h <;> decide

theorem ofName_of_forall_ne {type : List Char}
    (h : ∀ name coercion, IsBuiltIn name coercion → type ≠ name.toList) : ofName type = .named := by
  refine Decidable.byContradiction fun hnamed => ?_
  obtain ⟨name, coercion, hbuiltIn, heq⟩ := isBuiltIn_of_ofName hnamed
  exact h name coercion hbuiltIn heq

theorem IsMarked.ofName {type : List Char} (h : IsMarked type) : ofName type = .named :=
  ofName_of_forall_ne fun _ _ hbuiltIn heq => hbuiltIn.not_isMarked (heq ▸ h)

theorem IsMarked.not_isBracketed {type : List Char} (h : IsMarked type) : ¬ IsBracketed type := by
  rintro ⟨item, rfl⟩
  rw [isMarked_iff, ← List.cons_append, List.getLast?_concat] at h
  simp at h

theorem IsBracketed.not_isMarked {type : List Char} (h : IsBracketed type) : ¬ IsMarked type :=
  fun hmark => hmark.not_isBracketed h

theorem Spells.eq_ofTypeString {type : List Char} {coercion : Coercion} (h : Spells type coercion) :
    coercion = ofTypeString type := by
  induction h with
  | builtIn h =>
    have hnullable := nullable_of_not_isMarked h.not_isMarked
    have hitem := item?_eq_none_iff.2 h.not_isBracketed
    rw [ofTypeString_of_none (by rwa [hnullable]), hnullable, ofName_of_isBuiltIn h]
  | @list item coercion _ ih =>
    have hmark : ¬ IsMarked ('[' :: (item ++ [']'])) := IsBracketed.not_isMarked ⟨item, rfl⟩
    have hitem := item?_eq_some_iff.2 (rfl : '[' :: (item ++ [']']) = _)
    rw [← nullable_of_not_isMarked hmark] at hitem
    rw [ofTypeString_of_item hitem, ih]
  | other hname hlist hmark =>
    have hnullable := nullable_of_not_isMarked hmark
    have hitem := item?_eq_none_iff.2 hlist
    rw [ofTypeString_of_none (by rwa [hnullable]), hnullable, ofName_of_forall_ne hname]
  | marked hmark _ ih =>
    rw [ih]
    apply ofTypeString_congr
    rw [nullable_mark, nullable_of_not_isMarked hmark]
  | @markedTwice type hmark =>
    have hitem := item?_eq_none_iff.2 hmark.not_isBracketed
    rw [ofTypeString_of_none (by rwa [nullable_mark]), nullable_mark, hmark.ofName]

theorem spells_named {type : List Char} (hname : ofName type = .named)
    (hlist : ¬ IsBracketed type) (hmark : ¬ IsMarked type) : Spells type .named := by
  refine .other ?_ hlist hmark
  rintro name coercion hbuiltIn rfl
  rw [ofName_of_isBuiltIn hbuiltIn] at hname
  cases hbuiltIn <;> cases hname

/-- The brackets of a list are peeled off, so the text gets shorter. -/
theorem exists_spells (type : List Char) : ∃ coercion, Spells type coercion := by
  have hbare : ∀ type : List Char, ¬ IsMarked type →
      (∀ item : List Char, item.length < type.length → ∃ coercion, Spells item coercion) →
        ∃ coercion, Spells type coercion := by
    intro type hmark ih
    by_cases hlist : IsBracketed type
    · obtain ⟨item, rfl⟩ := hlist
      have hshorter : item.length < ('[' :: (item ++ [']'])).length := by
        simp only [List.length_cons, List.length_append]
        omega
      obtain ⟨coercion, hitem⟩ := ih item hshorter
      exact ⟨_, .list hitem⟩
    · by_cases hname : ofName type = .named
      · exact ⟨_, spells_named hname hlist hmark⟩
      · obtain ⟨name, coercion, hbuiltIn, rfl⟩ := isBuiltIn_of_ofName hname
        exact ⟨coercion, .builtIn hbuiltIn⟩
  induction hlength : type.length using Nat.strongRecOn generalizing type with
  | ind length ih =>
    subst hlength
    have hshorter : ∀ item : List Char, item.length < type.length →
        ∃ coercion, Spells item coercion := fun item hitem => ih _ hitem item rfl
    by_cases hmark : IsMarked type
    · obtain ⟨front, rfl⟩ := hmark
      by_cases hfront : IsMarked front
      · exact ⟨_, .markedTwice hfront⟩
      · obtain ⟨coercion, hcoercion⟩ := hshorter front (by simp)
        exact ⟨coercion, .marked hfront hcoercion⟩
    · exact hbare type hmark hshorter

/-- Each text says one thing. -/
theorem spells_iff {type : List Char} {coercion : Coercion} :
    Spells type coercion ↔ coercion = ofTypeString type := by
  constructor
  · exact Spells.eq_ofTypeString
  · rintro rfl
    obtain ⟨found, hfound⟩ := exists_spells type
    rwa [← hfound.eq_ofTypeString]

end QueryTree.Coercion
