import QueryTree.Proofs.Json.Reading
import QueryTree.Proofs.Json.Sorted
import QueryTree.Proofs.Request.Headers
import QueryTree.Proofs.Text.ByteOrder

/-! # Headers from texts

A text spells headers if it is blank or an object of legal headers. Of keys that differ in case
alone the greatest counts, and an object with illegal members is rejected for the one with the
smallest key. -/

namespace QueryTree

namespace Header

/-- The bytes of a value: a tab, and any others but controls. -/
def isValueByte (byte : UInt8) : Bool :=
  byte.toNat == 9 || (0x20 ≤ byte.toNat && byte.toNat ≠ 0x7F)

theorem isValueByte_ofNat {n : Nat} (h : n < 256) :
    isValueByte (UInt8.ofNat n) = (n == 9 || (0x20 ≤ n && n ≠ 0x7F)) := by
  rw [isValueByte, UInt8.toNat_ofNat', Nat.mod_eq_of_lt h]

/-- All bytes of a character beyond ASCII are beyond ASCII too. -/
theorem isValueChar_eq_all (c : Char) :
    isValueChar c = (String.utf8EncodeChar c).all isValueByte := by
  have htab : c = '\t' ↔ c.val.toNat = 9 := by
    rw [← Char.toNat_inj]
    rfl
  rw [Bool.eq_iff_iff, isValueChar]
  unfold String.utf8EncodeChar Char.toNat
  generalize c.val.toNat = v at *
  dsimp only
  split_ifs <;> simp (disch := omega) only [List.all_cons, List.all_nil, isValueByte_ofNat,
    Bool.or_eq_true, Bool.and_eq_true, beq_iff_eq, decide_eq_true_eq, htab, and_true] <;> omega

theorem isValue_toList (value : String) :
    isValue value.toList = (Text.bytes value).all isValueByte := by
  rw [Text.bytes_eq, List.all_flatMap, isValue]
  exact congrArg value.toList.all (funext isValueChar_eq_all)

end Header

namespace Headers

/-! ## Single members -/

/-- The member is a legal header with the value. -/
structure Spells (name : String) (item : Json) (text : String) : Prop where
  value : item = .text text
  isName : Header.isName name.toList = true
  isValue : (Text.bytes text).all Header.isValueByte = true

def IsLegal (name : String) (item : Json) : Prop := ∃ text, Spells name item text

/-- What is wrong with a member. -/
inductive Faulty (name : String) : Json → HeaderError → Prop where
  | notText {item : Json} (h : ∀ text, item ≠ .text text) : Faulty name item (.valueNotText name)
  | badName {text : String} (h : Header.isName name.toList = false) :
      Faulty name (.text text) (.badName name)
  | badValue {text : String} (hname : Header.isName name.toList = true)
      (h : (Text.bytes text).all Header.isValueByte = false) :
      Faulty name (.text text) (.badValue name)

variable {name : String} {item : Json}

theorem valueOfMember_of_spells {text : String} (h : Spells name item text) :
    valueOfMember name item = .ok text := by
  obtain ⟨rfl, hname, hvalue⟩ := h
  rw [← Header.isValue_toList] at hvalue
  simp [valueOfMember, hname, hvalue]

theorem valueOfMember_of_faulty {error : HeaderError} (h : Faulty name item error) :
    valueOfMember name item = .error error := by
  obtain hitem | hname | ⟨hname, hvalue⟩ := h
  · cases item with
    | text value => exact absurd rfl (hitem value)
    | null | boolean | number | array | object => rfl
  · simp [valueOfMember, hname]
  · rw [← Header.isValue_toList] at hvalue
    simp [valueOfMember, hname, hvalue]

theorem isLegal_or_faulty (name : String) (item : Json) :
    IsLegal name item ∨ ∃ error, Faulty name item error := by
  by_cases htext : ∃ text, item = .text text
  · obtain ⟨text, rfl⟩ := htext
    cases hname : Header.isName name.toList with
    | false => exact .inr ⟨_, .badName hname⟩
    | true =>
      cases hvalue : (Text.bytes text).all Header.isValueByte with
      | false => exact .inr ⟨_, .badValue hname hvalue⟩
      | true => exact .inl ⟨text, rfl, hname, hvalue⟩
  · exact .inr ⟨_, .notText fun text heq => htext ⟨text, heq⟩⟩

theorem Faulty.not_isLegal {error : HeaderError} (h : Faulty name item error) :
    ¬ IsLegal name item := by
  rintro ⟨text, hlegal⟩
  have herror := valueOfMember_of_faulty h
  rw [valueOfMember_of_spells hlegal] at herror
  cases herror

theorem valueOfMember_eq_ok_iff {text : String} :
    valueOfMember name item = .ok text ↔ Spells name item text := by
  refine ⟨fun h => ?_, valueOfMember_of_spells⟩
  rcases isLegal_or_faulty name item with ⟨found, hspells⟩ | ⟨error, hfaulty⟩
  · obtain rfl : found = text := by simpa [valueOfMember_of_spells hspells] using h
    exact hspells
  · rw [valueOfMember_of_faulty hfaulty] at h
    cases h

theorem valueOfMember_eq_error_iff {error : HeaderError} :
    valueOfMember name item = .error error ↔ Faulty name item error := by
  refine ⟨fun h => ?_, valueOfMember_of_faulty⟩
  rcases isLegal_or_faulty name item with ⟨text, hspells⟩ | ⟨found, hfaulty⟩
  · rw [valueOfMember_of_spells hspells] at h
    cases h
  · obtain rfl : found = error := by simpa [valueOfMember_of_faulty hfaulty] using h
    exact hfaulty

theorem valueOfMember_sorted (name : String) (item : Json) :
    valueOfMember name item.sorted = valueOfMember name item := by
  cases item <;> rfl

theorem isLegal_sorted_iff : IsLegal name item.sorted ↔ IsLegal name item := by
  simp only [IsLegal, ← valueOfMember_eq_ok_iff, valueOfMember_sorted]

theorem faulty_sorted_iff {error : HeaderError} :
    Faulty name item.sorted error ↔ Faulty name item error := by
  simp only [← valueOfMember_eq_error_iff, valueOfMember_sorted]

/-! ## All members -/

/-- Every member of the value is a legal header. -/
def AllLegal (value : Json) : Prop := ∀ key item, value.member? key = some item → IsLegal key item

/-- Of the keys that are the name in lower case, the greatest has the value. -/
def Carries (value : Json) (name found : String) : Prop :=
  ∃ key, Header.foldCase key = name ∧ value.member? key = some (.text found) ∧
    ∀ other, (value.member? other).isSome → Header.foldCase other = name → other ≠ key →
      Text.bytes other < Text.bytes key

/-- The error is about the illegal member with the smallest key. -/
def Rejects (value : Json) (error : HeaderError) : Prop :=
  ∃ key item, value.member? key = some item ∧ Faulty key item error ∧
    ∀ other found, value.member? other = some found → Text.bytes other < Text.bytes key →
      IsLegal other found

section Sorted

variable {value : Json}

theorem allLegal_sorted_iff : AllLegal value.sorted ↔ AllLegal value := by
  simp [AllLegal, Json.member?_sorted, isLegal_sorted_iff]

theorem carries_sorted_iff {name found : String} :
    Carries value.sorted name found ↔ Carries value name found := by
  simp [Carries, Json.member?_sorted, Json.sorted_eq_text_iff]

theorem rejects_sorted_iff {error : HeaderError} :
    Rejects value.sorted error ↔ Rejects value error := by
  simp only [Rejects, Json.exists_member?_sorted, Json.forall_member?_sorted, faulty_sorted_iff,
    isLegal_sorted_iff]

end Sorted

/-! ## Members in order -/

open Json (InOrder)

section InOrder

variable {members rest : List (String × Json)} {key : String}

theorem member?_eq_some_iff (horder : InOrder members) :
    (Json.object members).member? key = some item ↔ (key, item) ∈ members :=
  Entries.find?_eq_some_iff horder.nodup_keys

theorem allLegal_iff (horder : InOrder members) :
    AllLegal (.object members) ↔ ∀ member ∈ members, IsLegal member.1 member.2 := by
  simp [AllLegal, member?_eq_some_iff horder]

theorem carries_iff (horder : InOrder members) {name found : String} :
    Carries (.object members) name found ↔
      ∃ key, Header.foldCase key = name ∧ (key, .text found) ∈ members ∧
        ∀ member ∈ members, Header.foldCase member.1 = name → member.1 ≠ key → member.1 < key := by
  simp [Carries, Option.isSome_iff_exists, member?_eq_some_iff horder, Text.bytes_lt_bytes_iff]

theorem rejects_iff (horder : InOrder members) {error : HeaderError} :
    Rejects (.object members) error ↔
      ∃ key item, (key, item) ∈ members ∧ Faulty key item error ∧
        ∀ member ∈ members, member.1 < key → IsLegal member.1 member.2 := by
  simp only [Rejects, member?_eq_some_iff horder, Text.bytes_lt_bytes_iff, Prod.forall]

theorem carries_cons_iff (horder : InOrder ((key, item) :: rest)) {name found : String} :
    Carries (.object ((key, item) :: rest)) name found ↔ Carries (.object rest) name found ∨
      (∀ member ∈ rest, Header.foldCase member.1 ≠ name) ∧
        Header.foldCase key = name ∧ item = .text found := by
  obtain ⟨hfirst, hrest⟩ := List.pairwise_cons.1 horder
  rw [carries_iff horder, carries_iff hrest]
  constructor
  · rintro ⟨last, hfold, hmem, hgreatest⟩
    rcases List.mem_cons.1 hmem with heq | hmem
    · -- The first key is the smallest, so no other one is the name.
      cases heq
      refine .inr ⟨fun member hmember hname => ?_, hfold, rfl⟩
      have hlt := hfirst member hmember
      have hne : member.1 ≠ key := fun heq => String.lt_irrefl _ (heq ▸ hlt)
      exact String.lt_asymm hlt (hgreatest member (List.mem_cons_of_mem _ hmember) hname hne)
    · exact .inl ⟨last, hfold, hmem, (List.forall_mem_cons.1 hgreatest).2⟩
  · rintro (⟨last, hfold, hmem, hgreatest⟩ | ⟨hnone, hfold, rfl⟩)
    · exact ⟨last, hfold, List.mem_cons_of_mem _ hmem,
        List.forall_mem_cons.2 ⟨fun _ _ => hfirst _ hmem, hgreatest⟩⟩
    · refine ⟨key, hfold, List.mem_cons_self, List.forall_mem_cons.2 ⟨fun _ hne => ?_, ?_⟩⟩
      · exact absurd rfl hne
      · exact fun member hmember hname => absurd hname (hnone member hmember)

theorem rejects_cons_iff (horder : InOrder ((key, item) :: rest)) {error : HeaderError} :
    Rejects (.object ((key, item) :: rest)) error ↔
      Faulty key item error ∨ IsLegal key item ∧ Rejects (.object rest) error := by
  obtain ⟨hfirst, hrest⟩ := List.pairwise_cons.1 horder
  rw [rejects_iff horder, rejects_iff hrest]
  constructor
  · rintro ⟨smallest, fault, hmem, hfaulty, hlegal⟩
    obtain ⟨hhead, htail⟩ := List.forall_mem_cons.1 hlegal
    rcases List.mem_cons.1 hmem with heq | hmem
    · cases heq
      exact .inl hfaulty
    · exact .inr ⟨hhead (hfirst _ hmem), smallest, fault, hmem, hfaulty, htail⟩
  · rintro (hfaulty | ⟨hlegal, smallest, fault, hmem, hfaulty, htail⟩)
    · refine ⟨key, item, List.mem_cons_self, hfaulty, List.forall_mem_cons.2 ⟨fun hlt => ?_, ?_⟩⟩
      · exact absurd hlt (String.lt_irrefl _)
      · exact fun member hmember hlt => absurd (hfirst member hmember) (String.lt_asymm hlt)
    · exact ⟨smallest, fault, List.mem_cons_of_mem _ hmem, hfaulty,
        List.forall_mem_cons.2 ⟨fun _ => hlegal, htail⟩⟩

end InOrder

/-! ## Putting members -/

section PutMembers

variable {members rest : List (String × Json)} {headers : Headers}

theorem putMembers_of_spells {text : String} (h : Spells name item text) :
    putMembers ((name, item) :: rest) headers =
      putMembers rest (headers.insert (Header.foldCase name) text) := by
  rw [putMembers, valueOfMember_of_spells h]

theorem putMembers_of_faulty {error : HeaderError} (h : Faulty name item error) :
    putMembers ((name, item) :: rest) headers = .error error := by
  rw [putMembers, valueOfMember_of_faulty h]

theorem exists_putMembers_iff :
    (∃ merged, putMembers members headers = .ok merged) ↔
      ∀ member ∈ members, IsLegal member.1 member.2 := by
  induction members generalizing headers with
  | nil => exact iff_of_true ⟨headers, rfl⟩ nofun
  | cons member rest ih =>
    obtain ⟨name, item⟩ := member
    rw [List.forall_mem_cons]
    rcases isLegal_or_faulty name item with ⟨text, htext⟩ | ⟨error, hfaulty⟩
    · rw [putMembers_of_spells htext, ih]
      exact (and_iff_right ⟨text, htext⟩).symm
    · rw [putMembers_of_faulty hfaulty]
      exact iff_of_false nofun fun h => hfaulty.not_isLegal h.1

/-- What was there before counts only for names that no member has. -/
theorem find?_putMembers (horder : InOrder members) {merged : Headers}
    (h : putMembers members headers = .ok merged) {name found : String} :
    merged.find? name = some found ↔ Carries (.object members) name found ∨
      (∀ member ∈ members, Header.foldCase member.1 ≠ name) ∧ headers.find? name = some found := by
  induction members generalizing headers with
  | nil =>
    cases h
    simp [carries_iff horder]
  | cons member rest ih =>
    obtain ⟨key, item⟩ := member
    rcases isLegal_or_faulty key item with ⟨text, htext⟩ | ⟨error, hfaulty⟩
    · rw [putMembers_of_spells htext] at h
      rw [ih (List.pairwise_cons.1 horder).2 h, carries_cons_iff horder, Table.find?_insert,
        htext.value, List.forall_mem_cons]
      by_cases hfold : Header.foldCase key = name <;> simp [hfold]
    · rw [putMembers_of_faulty hfaulty] at h
      cases h

theorem putMembers_eq_error_iff (horder : InOrder members) {error : HeaderError} :
    putMembers members headers = .error error ↔ Rejects (.object members) error := by
  induction members generalizing headers with
  | nil => simp [putMembers, rejects_iff horder]
  | cons member rest ih =>
    obtain ⟨key, item⟩ := member
    rw [rejects_cons_iff horder]
    rcases isLegal_or_faulty key item with ⟨text, htext⟩ | ⟨first, hfaulty⟩
    · have hlegal : IsLegal key item := ⟨text, htext⟩
      rw [putMembers_of_spells htext, ih (List.pairwise_cons.1 horder).2]
      constructor
      · exact fun h => .inr ⟨hlegal, h⟩
      · rintro (hfaulty | ⟨_, h⟩)
        · exact absurd hlegal hfaulty.not_isLegal
        · exact h
    · rw [putMembers_of_faulty hfaulty, ← valueOfMember_eq_error_iff,
        valueOfMember_of_faulty hfaulty, Except.error.injEq, Except.error.injEq]
      exact (or_iff_left fun h => hfaulty.not_isLegal (And.left h)).symm

end PutMembers

/-! ## Values and texts -/

section Values

variable {value : Json} {headers : Headers}

theorem exists_ofJson_iff :
    (∃ headers, ofJson value = .ok headers) ↔ value.IsObject ∧ AllLegal value := by
  rw [← allLegal_sorted_iff]
  cases value with
  | object members =>
    rw [ofJson, Json.sorted, exists_putMembers_iff, allLegal_iff (Json.inOrder_sortedMembers _)]
    exact (and_iff_right trivial).symm
  | null | boolean | number | text | array =>
    refine iff_of_false ?_ fun h => h.1.elim
    rintro ⟨_, ⟨⟩⟩

theorem find?_ofJson (h : ofJson value = .ok headers) {name found : String} :
    headers.find? name = some found ↔ Carries value name found := by
  rw [← carries_sorted_iff]
  cases value with
  | object members =>
    rw [find?_putMembers (Json.inOrder_sortedMembers members) h]
    exact or_iff_left fun hempty => nomatch hempty.2
  | null | boolean | number | text | array => cases h

theorem ofJson_eq_error_iff {error : HeaderError} :
    ofJson value = .error error ↔
      (¬ value.IsObject ∧ error = .notObject) ∨ Rejects value error := by
  rw [← rejects_sorted_iff]
  cases value with
  | object members =>
    rw [ofJson, Json.sorted, putMembers_eq_error_iff (Json.inOrder_sortedMembers members)]
    exact (or_iff_right fun h => h.1 trivial).symm
  | null | boolean | number | text | array =>
    constructor
    · intro h
      cases h
      exact .inl ⟨id, rfl⟩
    · rintro (⟨_, rfl⟩ | ⟨_, _, ⟨⟩, _⟩)
      rfl

end Values

end Headers

theorem HeaderError.exists_message (error : HeaderError) :
    ∃ reason, error.message = "Invalid headers: " ++ reason := by
  have hvalue : "Invalid headers: value of '" = "Invalid headers: " ++ "value of '" := by decide
  have hname : "Invalid headers: '" = "Invalid headers: " ++ "'" := by decide
  cases error with
  | notJson failure => exact ⟨_, rfl⟩
  | notObject => exact ⟨"expected a JSON object", by decide⟩
  | valueNotText name =>
    refine ⟨"value of '" ++ (name ++ "' is not a string"), ?_⟩
    rw [← String.append_assoc, ← hvalue, ← String.append_assoc]
    rfl
  | badName name =>
    refine ⟨"'" ++ (name ++ "': invalid HTTP header name"), ?_⟩
    rw [← String.append_assoc, ← hname, ← String.append_assoc]
    rfl
  | badValue name =>
    refine ⟨"'" ++ (name ++ "': failed to parse header value"), ?_⟩
    rw [← String.append_assoc, ← hname, ← String.append_assoc]
    rfl

namespace Headers

/-- A text is accepted just if it is blank or an object of legal headers. Then each name has the
value of the greatest key that is the name but for case. An object that is not accepted is rejected
for its smallest illegal key. -/
theorem ofText_settled (text : String) :
    (text.toList.all Text.isBlank = true → ofText text = .ok .empty) ∧
    ∀ value, text.toList.all Text.isBlank = false → Json.ofText? text = .ok value →
      ((∃ headers, ofText text = .ok headers) ↔ value.IsObject ∧ AllLegal value) ∧
      (∀ headers, ofText text = .ok headers →
        ∀ name found, headers.find? name = some found ↔ Carries value name found) ∧
      ∀ error, (ofText text = .error error ↔
          (¬ value.IsObject ∧ error = .notObject) ∨ Rejects value error) ∧
        ∃ reason, error.message = "Invalid headers: " ++ reason := by
  constructor
  · intro hblank
    rw [ofText, if_pos hblank]
  · intro value hblank hvalue
    have htext : ofText text = ofJson value := by
      rw [ofText, if_neg (Bool.not_eq_true _ ▸ hblank), hvalue]
    rw [htext]
    exact ⟨exists_ofJson_iff, fun _ h _ _ => find?_ofJson h,
      fun error => ⟨ofJson_eq_error_iff, error.exists_message⟩⟩

end Headers

/-! ### Two keys for a header, and a key without a text -/

namespace Tenants

open Json (IsBlank Spells SpellsMembers isBlank_nil spellsMember spells_text)
open Text (quoted)

def text : String := "\x7b\"x-tenant\": \"blue\", \"X-Tenant\": \"red\"\x7d"

def value : Json := .object [("x-tenant", .text "blue"), ("X-Tenant", .text "red")]

def faultyText : String := "\x7b\"bad header\": \"v\", \"Retries\": null\x7d"

def faulty : Json := .object [("bad header", .text "v"), ("Retries", .null)]

/-- Two members, with a blank behind the comma and behind each colon. -/
theorem spells_pair {key other : String} {first second : List Char} {value item : Json}
    (hne : key ≠ other) (hfirst : Spells first value) (hsecond : Spells second item) :
    Spells ('\x7b' :: (quoted key.toList ++ ':' :: ' ' :: (first ++ ',' :: ' ' ::
      (quoted other.toList ++ ':' :: ' ' :: (second ++ ['\x7d'])))))
      (.object [(key, value), (other, item)]) := by
  have hblank : IsBlank [' '] := by simp [IsBlank, Reader.isSpace]
  have hlast : SpellsMembers _ [(other, item)] :=
    .last hblank (spellsMember hblank hsecond) isBlank_nil
  have hboth : SpellsMembers _ [(key, value), (other, item)] :=
    .more isBlank_nil (spellsMember hblank hfirst) isBlank_nil hlast
  simpa using Spells.object (by simp [Entries.keys, hne]) hboth

theorem ofText?_text : Json.ofText? text = .ok value := by
  have hkeys : "x-tenant" ≠ "X-Tenant" := by decide
  exact Reader.ofText?_of_spells (spells_pair hkeys (spells_text "blue") (spells_text "red"))
    (by decide)

theorem ofText?_faultyText : Json.ofText? faultyText = .ok faulty := by
  have hkeys : "bad header" ≠ "Retries" := by decide
  exact Reader.ofText?_of_spells (spells_pair hkeys (spells_text "v") .null) (by decide)

theorem allLegal_value : Headers.AllLegal value := by
  intro key item h
  rcases List.mem_cons.1 (Json.mem_of_member? h) with heq | hmem
  · cases heq
    exact ⟨"blue", rfl, by decide, by decide⟩
  · cases List.mem_singleton.1 hmem
    exact ⟨"red", rfl, by decide, by decide⟩

theorem carries_value : Headers.Carries value "x-tenant" "blue" := by
  refine ⟨"x-tenant", by decide, rfl, fun other hsome _ hne => ?_⟩
  obtain ⟨item, hitem⟩ := Option.isSome_iff_exists.1 hsome
  rcases List.mem_cons.1 (Json.mem_of_member? hitem) with heq | hmem
  · cases heq
    exact absurd rfl hne
  · cases List.mem_singleton.1 hmem
    decide

theorem rejects_faulty : Headers.Rejects faulty (.valueNotText "Retries") := by
  refine ⟨"Retries", .null, rfl, .notText nofun, fun other found h hlt => ?_⟩
  rcases List.mem_cons.1 (Json.mem_of_member? h) with heq | hmem
  · cases heq
    exact absurd hlt (by decide)
  · cases List.mem_singleton.1 hmem
    exact absurd hlt (by decide)

/-- The key in lower case is the greater one. In the other text the smallest key is a legal name,
but its value is no text. -/
theorem ofText_settled_tenants :
    Headers.ofText " \n" = .ok .empty ∧
    (∃ headers, Headers.ofText text = .ok headers ∧ headers.find? "x-tenant" = some "blue") ∧
    Headers.ofText faultyText = .error (.valueNotText "Retries") := by
  obtain ⟨haccepted, hcarried, _⟩ := (Headers.ofText_settled text).2 value (by decide) ofText?_text
  obtain ⟨_, _, hrejected⟩ :=
    (Headers.ofText_settled faultyText).2 faulty (by decide) ofText?_faultyText
  refine ⟨(Headers.ofText_settled _).1 (by decide), ?_, ?_⟩
  · obtain ⟨headers, hheaders⟩ := haccepted.2 ⟨trivial, allLegal_value⟩
    exact ⟨headers, hheaders, (hcarried headers hheaders ..).2 carries_value⟩
  · exact (hrejected _).1.2 (.inr rejects_faulty)

end Tenants

end QueryTree
