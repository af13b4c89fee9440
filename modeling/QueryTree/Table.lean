/-! # Ordered tables

A table holds each key once. Its keys stand in the order in which they were first written, and
writing a key again replaces its value in the old position. -/

namespace QueryTree

/-! ## Lists of entries -/

namespace Entries

variable {α : Type}

def keys (entries : List (String × α)) : List String := entries.map Prod.fst

/-- The value of the first entry with the key. -/
def find? (key : String) : List (String × α) → Option α
  | [] => none
  | (k, v) :: rest => if k = key then some v else find? key rest

/-- Replaces the value in the key's position, or adds an entry at the end. -/
def put (key : String) (value : α) : List (String × α) → List (String × α)
  | [] => [(key, value)]
  | (k, v) :: rest => if k = key then (key, value) :: rest else (k, v) :: put key value rest

/-- The entries without the key's. -/
def erase (key : String) (entries : List (String × α)) : List (String × α) :=
  entries.filter fun entry => entry.1 ≠ key

theorem keys_put (key : String) (value : α) (entries : List (String × α)) :
    keys (put key value entries) =
      if key ∈ keys entries then keys entries else keys entries ++ [key] := by
  induction entries with
  | nil => simp [put, keys]
  | cons entry rest ih =>
    obtain ⟨k, v⟩ := entry
    by_cases h : k = key
    · simp [put, keys, h]
    · have h' : ¬key = k := fun e => h e.symm
      simp only [keys] at ih
      by_cases hm : key ∈ rest.map Prod.fst <;> simp_all [put, keys]

theorem find?_put_self (key : String) (value : α) (entries : List (String × α)) :
    find? key (put key value entries) = some value := by
  induction entries with
  | nil => simp [put, find?]
  | cons entry rest ih =>
    obtain ⟨k, v⟩ := entry
    by_cases h : k = key <;> simp [put, find?, h, ih]

theorem find?_put_of_ne {key other : String} (h : other ≠ key) (value : α)
    (entries : List (String × α)) : find? other (put key value entries) = find? other entries := by
  induction entries with
  | nil => simp [put, find?, h.symm]
  | cons entry rest ih =>
    obtain ⟨k, v⟩ := entry
    by_cases hk : k = key
    · simp [put, find?, hk, h.symm]
    · by_cases ho : k = other
      · subst ho
        simp [put, find?, h]
      · simp [put, find?, hk, ho, ih]

theorem find?_isSome_iff (key : String) (entries : List (String × α)) :
    (find? key entries).isSome ↔ key ∈ keys entries := by
  induction entries with
  | nil => simp [find?, keys]
  | cons entry rest ih =>
    obtain ⟨k, v⟩ := entry
    simp only [keys] at ih
    by_cases h : k = key
    · simp [find?, keys, h]
    · simp [find?, keys, h, ih, Ne.symm h]

/-- Where no key comes twice, every entry is the first one with its key. -/
theorem find?_eq_some_iff {key : String} {value : α} {entries : List (String × α)}
    (h : (keys entries).Nodup) : find? key entries = some value ↔ (key, value) ∈ entries := by
  induction entries with
  | nil => simp [find?]
  | cons entry rest ih =>
    obtain ⟨k, v⟩ := entry
    simp only [keys, List.map_cons, List.nodup_cons, List.mem_map, not_exists, not_and] at h ih
    by_cases hk : k = key
    · subst hk
      have hr : (k, value) ∉ rest := fun hm => h.1 _ hm rfl
      simp [find?, hr, eq_comm]
    · simp [find?, hk, ih h.2, Ne.symm hk]

theorem keys_erase (key : String) (entries : List (String × α)) :
    keys (erase key entries) = (keys entries).filter (· ≠ key) := by
  simp only [keys, erase]
  induction entries with
  | nil => rfl
  | cons entry rest ih => by_cases h : entry.1 = key <;> simp_all

theorem find?_erase_self (key : String) (entries : List (String × α)) :
    find? key (erase key entries) = none := by
  rw [← Option.isNone_iff_eq_none, ← Option.not_isSome, Bool.not_eq_true', ← Bool.not_eq_true,
    find?_isSome_iff, keys_erase]
  simp

theorem find?_erase_of_ne {key other : String} (h : other ≠ key) (entries : List (String × α)) :
    find? other (erase key entries) = find? other entries := by
  induction entries with
  | nil => rfl
  | cons entry rest ih =>
    obtain ⟨k, v⟩ := entry
    by_cases hk : k = key
    · rw [show erase key ((k, v) :: rest) = erase key rest by simp [erase, hk], ih]
      simp [find?, hk, h.symm]
    · rw [show erase key ((k, v) :: rest) = (k, v) :: erase key rest by simp [erase, hk]]
      by_cases ho : k = other <;> simp [find?, ho, ih]

end Entries

/-! ## Tables -/

structure Table (α : Type) where
  entries : List (String × α)
  nodup : (Entries.keys entries).Nodup

namespace Table

variable {α : Type}

def empty : Table α := ⟨[], List.nodup_nil⟩

instance : EmptyCollection (Table α) := ⟨empty⟩

def keys (t : Table α) : List String := Entries.keys t.entries

def values (t : Table α) : List α := t.entries.map Prod.snd

def size (t : Table α) : Nat := t.entries.length

def find? (t : Table α) (key : String) : Option α := Entries.find? key t.entries

def contains (t : Table α) (key : String) : Bool := (t.find? key).isSome

theorem nodup_keys_put (key : String) (value : α) (entries : List (String × α))
    (h : (Entries.keys entries).Nodup) : (Entries.keys (Entries.put key value entries)).Nodup := by
  rw [Entries.keys_put]
  split
  · exact h
  · next hm =>
    rw [List.nodup_append]
    refine ⟨h, by simp, ?_⟩
    intro a ha b hb
    simp only [List.mem_singleton] at hb
    subst hb
    exact fun e => hm (e ▸ ha)

def insert (t : Table α) (key : String) (value : α) : Table α :=
  ⟨Entries.put key value t.entries, nodup_keys_put key value t.entries t.nodup⟩

def erase (t : Table α) (key : String) : Table α :=
  ⟨Entries.erase key t.entries, by rw [Entries.keys_erase]; exact t.nodup.filter _⟩

/-- Writes the entries one after the other into an empty table. -/
def ofList (entries : List (String × α)) : Table α :=
  entries.foldl (fun t entry => t.insert entry.1 entry.2) empty

/-- The tables have the same keys with values that `same` accepts, in whatever order. -/
def sameEntries (same : α → α → Bool) (s t : Table α) : Bool :=
  s.size == t.size && s.entries.all fun entry =>
    match t.find? entry.1 with
    | some value => same entry.2 value
    | none => false

@[simp] theorem find?_empty (key : String) : (empty : Table α).find? key = none := rfl

@[simp] theorem find?_insert_self (t : Table α) (key : String) (value : α) :
    (t.insert key value).find? key = some value := Entries.find?_put_self key value t.entries

theorem find?_insert_of_ne {key other : String} (h : other ≠ key) (t : Table α) (value : α) :
    (t.insert key value).find? other = t.find? other := Entries.find?_put_of_ne h value t.entries

@[simp] theorem find?_erase_self (t : Table α) (key : String) : (t.erase key).find? key = none :=
  Entries.find?_erase_self key t.entries

theorem find?_erase_of_ne {key other : String} (h : other ≠ key) (t : Table α) :
    (t.erase key).find? other = t.find? other := Entries.find?_erase_of_ne h t.entries

theorem find?_insert (t : Table α) (key other : String) (value : α) :
    (t.insert key value).find? other = if key = other then some value else t.find? other := by
  by_cases h : key = other
  · rw [if_pos h, ← h, find?_insert_self]
  · rw [if_neg h, find?_insert_of_ne (Ne.symm h)]

theorem find?_erase (t : Table α) (key other : String) :
    (t.erase key).find? other = if key = other then none else t.find? other := by
  by_cases h : key = other
  · rw [if_pos h, ← h, find?_erase_self]
  · rw [if_neg h, find?_erase_of_ne (Ne.symm h)]

theorem keys_insert (t : Table α) (key : String) (value : α) :
    (t.insert key value).keys = if key ∈ t.keys then t.keys else t.keys ++ [key] :=
  Entries.keys_put key value t.entries

theorem keys_erase (t : Table α) (key : String) : (t.erase key).keys = t.keys.filter (· ≠ key) :=
  Entries.keys_erase key t.entries

/-! ### Tables of lists -/

theorem insert_ofList (entries : List (String × α)) (key : String) (value : α) :
    (ofList entries).insert key value = ofList (entries ++ [(key, value)]) := by
  simp [ofList, List.foldl_append]

theorem find?_foldl_insert (entries : List (String × α)) (t : Table α) (key : String) :
    (entries.foldl (fun t entry => t.insert entry.1 entry.2) t).find? key =
      ((entries.findRev? fun entry => entry.1 = key).map Prod.snd).or (t.find? key) := by
  induction entries generalizing t with
  | nil => rfl
  | cons entry rest ih =>
    rw [List.foldl_cons, ih, find?_insert, List.findRev?]
    cases rest.findRev? fun entry => entry.1 = key with
    | some last => rfl
    | none => by_cases h : entry.1 = key <;> simp [h]

/-- Of the entries with a key, the one that is written last stays. -/
theorem find?_ofList (entries : List (String × α)) (key : String) :
    (ofList entries).find? key =
      (entries.findRev? fun entry => entry.1 = key).map Prod.snd := by
  rw [ofList, find?_foldl_insert]
  cases entries.findRev? fun entry => entry.1 = key <;> rfl

theorem eraseDups_append_singleton (keys : List String) (key : String) :
    (keys ++ [key]).eraseDups =
      if key ∈ keys then keys.eraseDups else keys.eraseDups ++ [key] := by
  rw [List.eraseDups_append]
  by_cases h : key ∈ keys <;> simp [List.removeAll, List.eraseDups_cons, h]

theorem keys_foldl_insert (entries : List (String × α)) (t : Table α) (written : List String)
    (h : t.keys = written.eraseDups) :
    (entries.foldl (fun t entry => t.insert entry.1 entry.2) t).keys =
      (written ++ entries.map Prod.fst).eraseDups := by
  induction entries generalizing t written with
  | nil => simpa using h
  | cons entry rest ih =>
    have hinsert : (t.insert entry.1 entry.2).keys = (written ++ [entry.1]).eraseDups := by
      rw [keys_insert, eraseDups_append_singleton, h]
      simp only [List.mem_eraseDups]
    rw [List.foldl_cons, ih _ _ hinsert, List.append_assoc]
    rfl

/-- The keys stand in the order in which they are written first. -/
theorem keys_ofList (entries : List (String × α)) :
    (ofList entries).keys = (entries.map Prod.fst).eraseDups :=
  keys_foldl_insert entries empty [] rfl

theorem mem_of_find?_ofList {entries : List (String × α)} {key : String} {value : α}
    (h : (ofList entries).find? key = some value) : (key, value) ∈ entries := by
  rw [find?_ofList, Option.map_eq_some_iff] at h
  obtain ⟨entry, hentry, rfl⟩ := h
  rw [List.findRev?_eq_find?_reverse] at hentry
  have hkey : entry.1 = key := by simpa using List.find?_some hentry
  rw [← hkey]
  exact List.mem_reverse.1 (List.mem_of_find?_eq_some hentry)

section Keyed

variable (keyOf : α → String) (items : List α)

/-- Where every item is written under a key of its own, a key leads to the last item with it. -/
theorem find?_ofList_map (key : String) :
    (ofList (items.map fun item => (keyOf item, item))).find? key =
      items.findRev? fun item => keyOf item = key := by
  rw [find?_ofList]
  induction items with
  | nil => rfl
  | cons item rest ih =>
    rw [List.map_cons, List.findRev?, List.findRev?, ← ih]
    cases (rest.map fun item => (keyOf item, item)).findRev? fun entry => entry.1 = key with
    | some last => rfl
    | none => by_cases h : keyOf item = key <;> simp [h]

theorem keys_insert_ofList_map (key : String) (value : α) :
    ((ofList (items.map fun item => (keyOf item, item))).insert key value).keys =
      (items.map keyOf ++ [key]).eraseDups := by
  rw [insert_ofList, keys_ofList, List.map_append, List.map_map]
  rfl

variable {keyOf items}

theorem mem_of_find?_ofList_map {key : String} {item : α}
    (h : (ofList (items.map fun item => (keyOf item, item))).find? key = some item) :
    item ∈ items ∧ keyOf item = key := by
  rw [find?_ofList_map, List.findRev?_eq_find?_reverse] at h
  exact ⟨List.mem_reverse.1 (List.mem_of_find?_eq_some h), by simpa using List.find?_some h⟩

end Keyed

theorem mem_values_iff (t : Table α) (value : α) :
    value ∈ t.values ↔ ∃ key, t.find? key = some value := by
  simp only [values, List.mem_map, Prod.exists, exists_eq_right, find?,
    Entries.find?_eq_some_iff t.nodup]

theorem forall_find?_iff (t : Table α) {p : String → α → Prop} :
    (∀ key value, t.find? key = some value → p key value) ↔
      ∀ entry ∈ t.entries, p entry.1 entry.2 := by
  simp only [find?, Entries.find?_eq_some_iff t.nodup, Prod.forall]

theorem contains_iff (t : Table α) (key : String) : t.contains key = true ↔ key ∈ t.keys :=
  Entries.find?_isSome_iff key t.entries

end Table

end QueryTree
