import Mathlib.Tactic.SplitIfs
import QueryTree.Table

/-! # The order of texts

Texts are in the same order by their characters as by the bytes that encode them. -/

namespace QueryTree.Text

def bytes (text : String) : List UInt8 := text.toUTF8.data.toList

theorem bytes_eq (text : String) : bytes text = text.toList.flatMap String.utf8EncodeChar := by
  rw [bytes, String.toUTF8_eq_toByteArray, ← String.utf8Encode_toList, List.utf8Encode]
  exact List.toList_data_toByteArray

theorem ofNat_lt_ofNat_iff {a b : Nat} (ha : a < 256) (hb : b < 256) :
    UInt8.ofNat a < UInt8.ofNat b ↔ a < b := by
  rw [UInt8.lt_iff_toNat_lt, UInt8.toNat_ofNat', UInt8.toNat_ofNat', Nat.mod_eq_of_lt ha,
    Nat.mod_eq_of_lt hb]

theorem ofNat_eq_ofNat_iff {a b : Nat} (ha : a < 256) (hb : b < 256) :
    UInt8.ofNat a = UInt8.ofNat b ↔ a = b := by
  rw [← UInt8.toNat_inj, UInt8.toNat_ofNat', UInt8.toNat_ofNat', Nat.mod_eq_of_lt ha,
    Nat.mod_eq_of_lt hb]

theorem toNat_val_lt (c : Char) : c.val.toNat < 0x110000 := by
  have h := c.valid
  simp only [UInt32.isValidChar, Nat.isValidChar] at h
  omega

theorem lt_digits {v w : Nat} (h : v < w) :
    v / 64 < w / 64 ∨ v / 64 = w / 64 ∧ v % 64 < w % 64 := by
  omega

/-- A smaller character's code is smaller, and no start of the other. -/
theorem encode_append_lt {c d : Char} (h : c < d) (s t : List UInt8) :
    String.utf8EncodeChar c ++ s < String.utf8EncodeChar d ++ t := by
  have hlt : c.val.toNat < d.val.toNat := h
  have hc := toNat_val_lt c
  have hd := toNat_val_lt d
  unfold String.utf8EncodeChar
  generalize c.val.toNat = v at *
  generalize d.val.toNat = w at *
  dsimp only
  split_ifs
  all_goals
    simp only [List.cons_append, List.nil_append, List.cons_lt_cons_iff]
    first
    | -- The larger character has no shorter code.
      omega
    | -- A longer code has a larger first byte.
      exact .inl ((ofNat_lt_ofNat_iff (by omega) (by omega)).2 (by omega))
    | -- Codes of one length differ first in one of the digits of six bits.
      have hlow := lt_digits hlt
      have hmiddle := lt_digits (v := v / 64) (w := w / 64)
      have hhigh := lt_digits (v := v / 4096) (w := w / 4096)
      simp only [Nat.div_div_eq_div_mul, Nat.reduceMul] at hmiddle hhigh
      have hv : v / 262144 % 8 = v / 262144 := by omega
      have hw : w / 262144 % 8 = w / 262144 := by omega
      simp (disch := omega) only [ofNat_lt_ofNat_iff, ofNat_eq_ofNat_iff, hv, hw]
      omega

theorem append_lt_append_iff (code s t : List UInt8) : code ++ s < code ++ t ↔ s < t := by
  induction code with
  | nil => rfl
  | cons byte rest ih => simp [ih]

theorem flatMap_lt_flatMap_iff (s t : List Char) :
    s.flatMap String.utf8EncodeChar < t.flatMap String.utf8EncodeChar ↔ s < t := by
  induction s generalizing t with
  | nil =>
    cases t with
    | nil => simp
    | cons d t =>
      have hcode : String.utf8EncodeChar d ≠ [] := by simp
      obtain ⟨byte, rest, hcode⟩ := List.exists_cons_of_ne_nil hcode
      simp [hcode]
  | cons c s ih =>
    cases t with
    | nil => simp
    | cons d t =>
      rw [List.flatMap_cons, List.flatMap_cons]
      rcases Std.lt_trichotomy c d with hlt | heq | hgt
      · exact iff_of_true (encode_append_lt hlt ..) (List.cons_lt_cons_iff.2 (.inl hlt))
      · rw [heq, append_lt_append_iff, ih]
        simp
      · refine iff_of_false (List.lt_asymm (encode_append_lt hgt ..)) ?_
        exact List.lt_asymm (List.cons_lt_cons_iff.2 (.inl hgt))

theorem bytes_lt_bytes_iff {s t : String} : bytes s < bytes t ↔ s < t := by
  rw [bytes_eq, bytes_eq]
  exact flatMap_lt_flatMap_iff ..

end QueryTree.Text
