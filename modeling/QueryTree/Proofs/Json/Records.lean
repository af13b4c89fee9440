import QueryTree.Json.Fields

/-! # Records of generic values

A record is an object, whatever else it holds, or an array that ends with its fields at the latest.
It is read if it has that shape, every field that is there can be read, and no field that it must
have is missing. For an optional field `null` counts as nothing. -/

namespace QueryTree.Json

variable {α β : Type}

/-! ## What a record holds -/

/-- In an array the place of a key tells which item is meant. -/
def part? (keys : List String) (key : String) : Json → Option Json
  | .object members => Entries.find? key members
  | .array items => items[keys.idxOf key]?
  | _ => none

def IsRecord (keys : List String) : Json → Prop
  | .object _ => True
  | .array items => items.length ≤ keys.length
  | _ => False

/-- What is there and not `null`. -/
def given? (value : Option Json) : Option Json := value.filter fun value => !value.isNull

theorem given?_none : given? none = none := rfl

theorem given?_null : given? (some .null) = none := rfl

theorem given?_some {value : Json} (h : value.isNull = false) :
    given? (some value) = some value := by
  simp [given?, h]

theorem find?_membersFor {keys : List String} {key : String} (hkey : key ∈ keys) (value : Json) :
    Entries.find? key (membersFor keys value) = part? keys key value := by
  cases value with
  | object members => rfl
  | array items =>
    rw [membersFor, part?]
    induction keys generalizing items with
    | nil => cases hkey
    | cons first rest ih =>
      cases items with
      | nil => rfl
      | cons item items =>
        rw [List.zip_cons_cons, Entries.find?]
        by_cases hfirst : first = key
        · simp [hfirst]
        · have hrest : key ∈ rest := (List.mem_cons.1 hkey).resolve_left (Ne.symm hfirst)
          rw [if_neg hfirst, ih hrest, List.idxOf_cons, cond_eq_ite,
            if_neg (by simpa using hfirst), List.getElem?_cons_succ]
  | null | boolean | number | text => rfl

/-! ## Reading a record -/

theorem bind_eq_ok_iff {ε : Type} {result : Except ε α} {next : α → Except ε β} {final : β} :
    (result >>= next) = .ok final ↔ ∃ value, result = .ok value ∧ next value = .ok final := by
  cases result <;> simp [bind, Except.bind]

namespace Fields

/-- The value is a record, and these are its fields. -/
structure Opens (fields : Fields) (keys : List String) (value : Json) : Prop where
  isRecord : value.IsRecord keys
  members : fields.members = membersFor keys value
  close : fields.close = .ok ()

variable {title : String} {keys : List String} {value : Json} {fields : Fields}

theorem exists_opens (h : value.IsRecord keys) :
    ∃ fields, value.fields title keys = .ok fields ∧ fields.Opens keys value := by
  cases value with
  | object members => exact ⟨_, rfl, h, rfl, rfl⟩
  | array items => exact ⟨_, rfl, h, rfl, if_neg (Nat.not_lt.2 h)⟩
  | null | boolean | number | text => exact h.elim

theorem opens_of_close (h : value.fields title keys = .ok fields) (hclose : fields.close = .ok ()) :
    fields.Opens keys value := by
  cases value with
  | object members =>
    cases h
    exact ⟨trivial, rfl, rfl⟩
  | array items =>
    cases h
    refine ⟨?_, rfl, hclose⟩
    simp only [close] at hclose
    split at hclose
    · cases hclose
    · next hfits => exact Nat.not_lt.1 hfits
  | null | boolean | number | text => cases h

section Field

variable {key : String} {decode : Json → Except Mismatch α}

theorem Opens.get_eq_ok_iff (h : fields.Opens keys value) (hkey : key ∈ keys)
    {found : Option α} :
    fields.get key decode = .ok found ↔
      Option.Rel (fun part result => decode part = .ok result) (value.part? keys key) found := by
  rw [get, h.members, find?_membersFor hkey]
  cases value.part? keys key with
  | none => cases found <;> simp
  | some part =>
    cases hpart : decode part <;> cases found <;> simp [Except.map, hpart]

theorem require_eq_ok_iff {found : Option α} {result : α} :
    fields.require key found = .ok result ↔ found = some result := by
  cases found with
  | some => simp [require]
  | none =>
    rw [require]
    cases fields.items <;> simp

theorem Opens.getRequired_iff (h : fields.Opens keys value) (hkey : key ∈ keys) {result : α} :
    (∃ found, fields.get key decode = .ok found ∧ fields.require key found = .ok result) ↔
      ∃ part, value.part? keys key = some part ∧ decode part = .ok result := by
  simp only [require_eq_ok_iff, exists_eq_right, h.get_eq_ok_iff hkey]
  cases value.part? keys key <;> simp

/-- A field that is not there counts as one with the value that gives the default. -/
theorem Opens.getDefault_iff (h : fields.Opens keys value) (hkey : key ∈ keys) {default : α}
    {missing : Json} (hmissing : decode missing = .ok default) {result : α} :
    (∃ found, fields.get key decode = .ok found ∧ found.getD default = result) ↔
      decode ((value.part? keys key).getD missing) = .ok result := by
  simp only [h.get_eq_ok_iff hkey]
  cases value.part? keys key with
  | none =>
    rw [Option.getD_none, hmissing, Except.ok.injEq]
    constructor
    · rintro ⟨_, ⟨⟩, hresult⟩
      exact hresult
    · exact fun hresult => ⟨none, .none, hresult⟩
  | some part =>
    constructor
    · rintro ⟨_, ⟨hpart⟩, rfl⟩
      exact hpart
    · exact fun hpart => ⟨some result, .some hpart, rfl⟩

theorem asOptional_eq_ok_iff {part : Json} {result : Option α} :
    asOptional decode part = .ok result ↔
      Option.Rel (fun part result => decode part = .ok result) (given? (some part)) result := by
  by_cases hnull : part.isNull
  · cases part <;> cases hnull
    rw [given?_null]
    cases result <;> simp [asOptional]
  · have hgiven : asOptional decode part = (decode part).map some := by
      cases part <;> first | rfl | exact absurd rfl hnull
    rw [given?_some (by simpa using hnull), hgiven]
    cases hpart : decode part <;> cases result <;> simp [Except.map, hpart]

theorem Opens.getOptional_iff (h : fields.Opens keys value) (hkey : key ∈ keys)
    {result : Option α} :
    (∃ found, fields.get key (asOptional decode) = .ok found ∧ found.join = result) ↔
      Option.Rel (fun part result => decode part = .ok result) (given? (value.part? keys key))
        result := by
  simp only [h.get_eq_ok_iff hkey]
  cases value.part? keys key with
  | none =>
    rw [given?_none]
    constructor
    · rintro ⟨_, ⟨⟩, rfl⟩
      exact .none
    · rintro ⟨⟩
      exact ⟨none, .none, rfl⟩
  | some part =>
    rw [← asOptional_eq_ok_iff]
    constructor
    · rintro ⟨_, ⟨hpart⟩, rfl⟩
      exact hpart
    · intro hpart
      exact ⟨some result, .some hpart, rfl⟩

end Field

theorem agree_of_none {faults : List (Option (String × Mismatch))}
    (h : ∀ fault ∈ faults, fault = none) : fields.agree faults = .ok () := by
  have hnone : faults.filterMap id = [] := by simpa using h
  have hall : (fields.members.findSome? fun member =>
      Entries.find? member.1 ([] : List (String × Mismatch))) = none :=
    List.findSome?_eq_none_iff.2 fun _ _ => rfl
  rw [agree, hnone, hall]

end Fields

end QueryTree.Json
