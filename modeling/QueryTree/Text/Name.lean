/-! # Names

A GraphQL name is a letter or an underscore followed by letters, digits and underscores, all of
them ASCII. -/

namespace QueryTree.Text

def isNameStart (c : Char) : Bool := c == '_' || c.isAlpha

def isNameContinue (c : Char) : Bool := c == '_' || c.isAlphanum

def isName : List Char → Bool
  | [] => false
  | c :: rest => isNameStart c && rest.all isNameContinue

/-- The names that are values of their own and so never name an enum value. -/
def reservedValues : List (List Char) := ["true".toList, "false".toList, "null".toList]

def isEnumValue (text : List Char) : Bool := isName text && !reservedValues.contains text

theorem exists_cons_of_isName {text : List Char} (h : isName text = true) :
    ∃ c rest, text = c :: rest ∧ isNameStart c = true := by
  cases text with
  | nil => cases h
  | cons c rest =>
    rw [isName, Bool.and_eq_true] at h
    exact ⟨c, rest, rfl, h.1⟩

theorem isNameContinue_of_isNameStart {c : Char} (h : isNameStart c = true) :
    isNameContinue c = true := by
  simp only [isNameStart, isNameContinue, Bool.or_eq_true, Char.isAlphanum] at h ⊢
  rcases h with h | h
  · exact Or.inl h
  · exact Or.inr (Or.inl h)

theorem not_isNameStart_of_isDigit {c : Char} (h : c.isDigit = true) : ¬ isNameStart c = true := by
  simp only [Char.isDigit, Bool.and_eq_true, decide_eq_true_eq, ge_iff_le,
    UInt32.le_iff_toNat_le] at h
  have hlow : 48 ≤ c.toNat := h.1
  have hhigh : c.toNat ≤ 57 := h.2
  obtain ⟨d, hd⟩ : ∃ d, c.toNat = 48 + d := ⟨c.toNat - 48, by omega⟩
  rw [← Char.ofNat_toNat c, hd]
  have hten : d < 10 := by omega
  match d, hten with
  | 0, _ | 1, _ | 2, _ | 3, _ | 4, _ | 5, _ | 6, _ | 7, _ | 8, _ | 9, _ => decide

theorem isNameContinue_of_mem {text : List Char} (h : isName text = true) :
    ∀ c ∈ text, isNameContinue c = true := by
  cases text with
  | nil => cases h
  | cons d rest =>
    rw [isName, Bool.and_eq_true, List.all_eq_true] at h
    intro c hc
    rw [List.mem_cons] at hc
    rcases hc with rfl | hc
    · exact isNameContinue_of_isNameStart h.1
    · exact h.2 c hc

end QueryTree.Text
